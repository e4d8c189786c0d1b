import NetRemote.Wifi.AccessPointControllerLinux
import NetRemote.Wpa.Hostapd.Theorems

namespace NetRemote.Wifi.AccessPointControllerLinux

open Foundation Foundation.Bytes Wpa Wpa.Hostapd

section Settles

variable {α β : Type} {harmless : System.Exchange → Prop}
  {code : α → AccessPointOperationStatusCode}

-- An operation that returns with a code that tells of the changes that were
-- refused, and that throws only for an answer that does harm.
def Settles (harmless : System.Exchange → Prop) (code : α → AccessPointOperationStatusCode)
    (program : Wpa.Action α) : Prop :=
  ∀ past, Throughout harmless past → ¬ Refused past →
    program.wp past
      (fun now value => Throughout harmless now ∧ (Refused now → code value ≠ .Succeeded))
      (fun now _ => ¬ Throughout harmless now)

theorem settles_return (value : α) : Settles harmless code (.Return value) := by
  intro past hpast hrefused
  exact ⟨hpast, fun h => absurd h hrefused⟩

-- A step under a handler that ends the operation with another code.
theorem settles_attempt {block : Wpa.Action β} {next : β → Wpa.Action α} {fail : ByteString → α}
    (hblock : Sound harmless block) (hnext : ∀ value, Settles harmless code (next value))
    (hfail : ∀ what, code (fail what) ≠ .Succeeded) :
    Settles harmless code (block.attempt next (catching fun what => .Return (fail what))) := by
  intro past hpast hrefused
  rw [Program.wp_attempt]
  apply Program.wp_mono (hblock past hpast)
  · rintro now value ⟨hnow, hrefused'⟩
    exact hnext value now hnow fun h => hrefused (hrefused' h)
  · intro now fault hfault
    cases fault with
    | Hostapd message => exact ⟨hfault, fun _ => hfail _⟩
    | Std exception => exact hfault
    | Netlink exception => exact hfault
    | UndefinedBehavior => exact hfault
    | Terminate => exact hfault

theorem settles_map {β : Type} {code : β → AccessPointOperationStatusCode} {f : α → β}
    {program : Wpa.Action α} (h : Settles harmless (fun value => code (f value)) program) :
    Settles harmless code (f <$> program) := by
  intro past hpast hrefused
  exact (Program.wp_bind _ _).mpr (h past hpast hrefused)

end Settles

section Queries

variable (platform : Platform) (interfaceName : ByteString)

-- The answer to GET_CONFIG or STATUS that an operation asks for outside of any
-- handler, once its changes are made.
def verified (accepts : HostapdBssConfiguration → Bool) : System.Exchange → Bool
  | ⟨.SendCommand .Status, reply⟩ =>
      (statusIn platform.toPlatform ⟨.SendCommand .Status, reply⟩).isSome
  | ⟨.SendCommand .GetConfig, reply⟩ =>
      (configurationIn platform.toPlatform ⟨.SendCommand .GetConfig, reply⟩).any accepts
  | _ => true

theorem verified_of_not_isQuery {accepts : HostapdBssConfiguration → Bool}
    {exchange : System.Exchange} (h : isQuery exchange = false) :
    verified platform accepts exchange = true := by
  unfold verified
  split
  · cases h
  · cases h
  · rfl

theorem wp_getOperationalState (past : List System.Exchange)
    (hpast : Throughout (fun exchange => readable platform.toPlatform exchange) past) :
    (getOperationalState platform interfaceName).wp past
      (fun now _ => Throughout (fun exchange => readable platform.toPlatform exchange) now ∧
        (Refused now → Refused past))
      (fun now _ => ¬ Throughout (fun exchange => readable platform.toPlatform exchange) now) := by
  unfold getOperationalState
  rw [Program.wp_bind, wp_isActive]
  intro active
  have hnow := (throughout_append (fun exchange => readable platform.toPlatform exchange) past
    ⟨.IsValid, active⟩).mpr ⟨hpast, rfl⟩
  cases active with
  | false => exact ⟨hnow, fun h => by simpa [refused] using h⟩
  | true =>
      simp only [Bool.not_true, Bool.false_eq_true, if_false, Program.wp_attempt]
      apply Program.wp_mono (Program.wp_and (sound_getStatus platform.toPlatform _ hnow)
        (wp_getStatus platform.toPlatform _))
      · rintro later status ⟨⟨hlater, hrefused⟩, _⟩
        exact ⟨hlater, fun h => by simpa [refused] using hrefused h⟩
      · rintro later fault ⟨hfault, reply, rfl, _⟩
        cases fault with
        | Hostapd message =>
            refine ⟨hfault, fun h => ?_⟩
            simpa only [refused_append, refused, Bool.false_eq_true, or_false] using h
        | Std exception => exact hfault
        | Netlink exception => exact hfault
        | UndefinedBehavior => exact hfault
        | Terminate => exact hfault

theorem settles_getOperationalState :
    Settles (fun exchange => readable platform.toPlatform exchange)
      (fun result => result.1.code) (getOperationalState platform interfaceName) := by
  intro past hpast hrefused
  apply Program.wp_mono (wp_getOperationalState platform interfaceName past hpast)
  · rintro now result ⟨hnow, hrefused'⟩
    exact ⟨hnow, fun h => absurd (hrefused' h) hrefused⟩
  · exact fun _ _ hfault => hfault

theorem settles_setOperationalStateBy {change : Wpa.Action Unit} (name : ByteString)
    (hchange : Sound (fun exchange => readable platform.toPlatform exchange) change) :
    Settles (fun exchange => readable platform.toPlatform exchange) (fun status => status.code)
      (setOperationalStateBy platform interfaceName change name) := by
  intro past hpast hrefused
  refine (Program.wp_bind _ _).mpr (Program.wp_mono
    (@settles_attempt _ _ _ AccessPointOperationStatus.code _ _ _ hchange
      (fun _ => settles_return _) (fun what => by simp) past hpast hrefused) ?_ ?_)
  · rintro now status ⟨hnow, hcode⟩
    refine (Program.wp_bind _ _).mpr
      (Program.wp_mono (wp_getOperationalState platform interfaceName now hnow) ?_ ?_)
    · rintro later _ ⟨hlater, hrefused'⟩
      exact ⟨hlater, fun h => hcode (hrefused' h)⟩
    · exact fun _ _ hfault => hfault
  · exact fun _ _ hfault => hfault

theorem settles_setOperationalState (operationalState : AccessPointOperationalState) :
    Settles (fun exchange => readable platform.toPlatform exchange) (fun status => status.code)
      (setOperationalState platform interfaceName operationalState) := by
  cases operationalState with
  | Enabled => exact settles_setOperationalStateBy platform interfaceName _ (sound_enable _)
  | Disabled => exact settles_setOperationalStateBy platform interfaceName _ (sound_disable _)

theorem settles_verifyStatus {α : Type} {code : α → AccessPointOperationStatusCode} (value : α)
    (accepts : HostapdBssConfiguration → Bool) :
    Settles (fun exchange => verified platform accepts exchange) code
      (do
        let _ ← getStatus platform.toPlatform
        Program.Return value) := by
  intro past hpast hrefused
  refine (Program.wp_bind _ _).mpr (Program.wp_mono (wp_getStatus platform.toPlatform past) ?_ ?_)
  · rintro now status ⟨reply, rfl, hstatus⟩
    refine ⟨(throughout_append _ _ _).mpr ⟨hpast, by simp [verified, hstatus]⟩, fun h => ?_⟩
    exact absurd (by simpa [refused] using h) hrefused
  · rintro now fault ⟨reply, rfl, hstatus⟩ hnow
    simpa [verified, hstatus] using ((throughout_append _ _ _).mp hnow).2

-- What is done with the configuration may depend on its content, and does harm
-- exactly where the content is not accepted.
theorem settles_verifyConfiguration {α : Type} {code : α → AccessPointOperationStatusCode}
    {accepts : HostapdBssConfiguration → Bool} {next : HostapdBssConfiguration → Wpa.Action α}
    (hreturns : ∀ configuration, accepts configuration = true →
      ∃ value, next configuration = .Return value)
    (hthrows : ∀ configuration, accepts configuration = false →
      ∃ fault, next configuration = .Throw fault) :
    Settles (fun exchange => verified platform accepts exchange) code
      (getConfiguration platform.toPlatform >>= next) := by
  intro past hpast hrefused
  refine (Program.wp_bind _ _).mpr
    (Program.wp_mono (wp_getConfiguration platform.toPlatform past) ?_ ?_)
  · rintro now configuration ⟨reply, rfl, hconfiguration⟩
    cases haccepts : accepts configuration with
    | true =>
        obtain ⟨value, hvalue⟩ := hreturns configuration haccepts
        have hverified : verified platform accepts ⟨.SendCommand .GetConfig, reply⟩ = true := by
          simp [verified, hconfiguration, haccepts]
        rw [hvalue]
        refine ⟨(throughout_append _ _ _).mpr ⟨hpast, hverified⟩, fun h => ?_⟩
        exact absurd (by simpa [refused] using h) hrefused
    | false =>
        obtain ⟨fault, hfault⟩ := hthrows configuration haccepts
        rw [hfault]
        intro hnow
        have hverified := ((throughout_append _ _ _).mp hnow).2
        simp [verified, hconfiguration, haccepts] at hverified
  · rintro now fault ⟨reply, rfl, hconfiguration⟩ hnow
    simpa [verified, hconfiguration] using ((throughout_append _ _ _).mp hnow).2

end Queries

-- A lookup of the wiphy that does not throw.
def looksUp : System.Exchange → Bool
  | ⟨.WiphyFromInterfaceName _, wiphy⟩ => Except.isOk wiphy
  | _ => true

section Operations

variable {harmless : System.Exchange → Prop} (platform : Platform) (interfaceName : ByteString)

theorem settles_getCapabilities :
    Settles (fun exchange => looksUp exchange) (fun result => result.1.code)
      (getCapabilities platform interfaceName) := by
  intro past hpast hrefused wiphy
  have hrefused' : ¬ Refused (past ++ [⟨.WiphyFromInterfaceName interfaceName, wiphy⟩]) := by
    simpa [refused] using hrefused
  cases wiphy with
  | error exception =>
      intro hnow
      have hthrown := ((throughout_append _ _ _).mp hnow).2
      cases hthrown
  | ok wiphy =>
      have hnow := (throughout_append (fun exchange => looksUp exchange) past
        ⟨.WiphyFromInterfaceName interfaceName, .ok wiphy⟩).mpr ⟨hpast, rfl⟩
      cases wiphy with
      | none => exact ⟨hnow, fun h => absurd h hrefused'⟩
      | some wiphy => exact ⟨hnow, fun h => absurd h hrefused'⟩

theorem settles_setProperties (hquiet : ∀ exchange, isQuery exchange = false → harmless exchange)
    {properties : List (ByteString × ByteString)}
    {fail : ByteString → ByteString → ByteString → AccessPointOperationStatus}
    {next : Wpa.Action AccessPointOperationStatus}
    (hfail : ∀ key value what, (fail key value what).code ≠ .Succeeded)
    (hnext : Settles harmless (fun status => status.code) next) :
    Settles harmless (fun status => status.code)
      (setProperties properties (fun key value what => .Return (fail key value what)) next) := by
  induction properties with
  | nil => exact hnext
  | cons property properties ih =>
      exact settles_attempt (sound_setProperty hquiet _ _ _) (fun _ => ih) (hfail _ _)

theorem settles_setPhyType (ieeePhyType : Ieee80211PhyType)
    (accepts : HostapdBssConfiguration → Bool) :
    Settles (fun exchange => verified platform accepts exchange) (fun status => status.code)
      (setPhyType platform interfaceName ieeePhyType) := by
  have hquiet : ∀ exchange, isQuery exchange = false → verified platform accepts exchange = true :=
    fun _ => verified_of_not_isQuery platform
  apply settles_setProperties hquiet
  · intro key value what
    simp
  · exact settles_attempt (sound_reload hquiet)
      (fun _ => settles_verifyStatus platform _ accepts) (fun what => by simp)

theorem settles_setFrequencyBands
    (hquiet : ∀ exchange, isQuery exchange = false → harmless exchange)
    (frequencyBands : List Ieee80211FrequencyBand) :
    Settles harmless (fun status => status.code)
      (setFrequencyBands interfaceName frequencyBands) := by
  unfold setFrequencyBands
  dsimp only
  by_cases hempty : frequencyBands = []
  · rw [if_pos hempty]
    exact settles_return _
  · rw [if_neg hempty]
    apply settles_attempt (sound_setProperty hquiet _ _ _)
    · intro _
      by_cases hsix : frequencyBands.contains .SixGHz
      · rw [if_pos hsix]
        exact settles_attempt (sound_setProperty hquiet _ _ _) (fun _ => settles_return _)
          (fun what => by simp)
      · rw [if_neg hsix]
        exact settles_return _
    · intro what
      simp

theorem settles_setAuthenticationAlgorithms
    (hquiet : ∀ exchange, isQuery exchange = false → harmless exchange)
    (authenticationAlgorithms : List Ieee80211AuthenticationAlgorithm) :
    Settles harmless (fun status => status.code)
      (setAuthenticationAlgorithms interfaceName authenticationAlgorithms) := by
  unfold setAuthenticationAlgorithms
  dsimp only
  by_cases hempty : authenticationAlgorithms = []
  · rw [if_pos hempty]
    exact settles_return _
  · rw [if_neg hempty]
    exact settles_attempt (sound_setAuthenticationAlgorithms hquiet _ _)
      (fun _ => settles_return _) (fun what => by simp)

theorem settles_setAuthenticationData
    (hquiet : ∀ exchange, isQuery exchange = false → harmless exchange)
    (authenticationData : Ieee80211AuthenticationData) :
    Settles harmless (fun status => status.code)
      (setAuthenticationData interfaceName authenticationData) := by
  have hpsk {psk : Ieee80211RsnaPsk} {next : Wpa.Action AccessPointOperationStatus}
      {status : AccessPointOperationStatus} {details : ByteString → ByteString}
      (hnext : Settles harmless (fun status => status.code) next) :
      Settles harmless (fun status => status.code)
        ((setPreSharedKey (ieee80211RsnaPskToWpaSharedKey psk) .Now).attempt (fun _ => next)
          (catching fun what =>
            .Return (status.withCode .InternalError (details what)))) :=
    settles_attempt (sound_setPreSharedKey hquiet _ _) (fun _ => hnext) (fun what => by simp)
  obtain ⟨psk, sae⟩ := authenticationData
  unfold setAuthenticationData
  dsimp only
  by_cases hempty : (psk.isNone && sae.isNone) = true
  · rw [if_pos hempty]
    exact settles_return _
  · rw [if_neg hempty]
    cases sae with
    | none =>
        cases psk with
        | none => exact settles_return _
        | some psk => exact hpsk (settles_return _)
    | some passwords =>
        cases psk with
        | none =>
            exact settles_attempt (sound_setSaePasswords hquiet _ _) (fun _ => settles_return _)
              (fun what => by simp)
        | some psk =>
            exact hpsk (settles_attempt (sound_setSaePasswords hquiet _ _)
              (fun _ => settles_return _) (fun what => by simp))

-- The comparison runs past the end of a list that is a proper beginning of the
-- other.
def cutShort (wpaKeyManagements actualKeyManagements : List WpaKeyManagement) : Bool :=
  actualKeyManagements.isPrefixOf wpaKeyManagements &&
    actualKeyManagements.length < wpaKeyManagements.length

theorem equal_of_not_cutShort {wpaKeyManagements actualKeyManagements : List WpaKeyManagement}
    (h : cutShort wpaKeyManagements actualKeyManagements = false) :
    ∃ result, equal wpaKeyManagements actualKeyManagements = .ok result := by
  induction wpaKeyManagements generalizing actualKeyManagements with
  | nil => exact ⟨true, rfl⟩
  | cons keyManagement wpaKeyManagements ih =>
      cases actualKeyManagements with
      | nil => simp [cutShort] at h
      | cons actual actualKeyManagements =>
          by_cases hsame : keyManagement = actual
          · subst hsame
            rw [equal, if_pos rfl]
            exact ih (by simpa [cutShort] using h)
          · exact ⟨false, by rw [equal, if_neg hsame]⟩

theorem equal_of_cutShort {wpaKeyManagements actualKeyManagements : List WpaKeyManagement}
    (h : cutShort wpaKeyManagements actualKeyManagements = true) :
    equal wpaKeyManagements actualKeyManagements = .error .UndefinedBehavior := by
  induction wpaKeyManagements generalizing actualKeyManagements with
  | nil => simp [cutShort] at h
  | cons keyManagement wpaKeyManagements ih =>
      cases actualKeyManagements with
      | nil => rfl
      | cons actual actualKeyManagements =>
          simp only [cutShort, List.isPrefixOf, List.length_cons, Bool.and_eq_true, beq_iff_eq,
            decide_eq_true_eq] at h
          obtain ⟨⟨rfl, hprefix⟩, hlength⟩ := h
          rw [equal, if_pos rfl]
          exact ih (by simp [cutShort, hprefix]; omega)

theorem settles_setAkmSuites (akmSuites : List Ieee80211AkmSuite) :
    Settles
      (fun exchange => verified platform (fun configuration =>
        !cutShort (akmSuites.map ieee80211AkmSuiteToWpaKeyManagement) configuration.wpaKeyMgmt)
        exchange)
      (fun status => status.code) (setAkmSuites platform interfaceName akmSuites) := by
  unfold setAkmSuites
  dsimp only
  by_cases hempty : akmSuites = []
  · rw [if_pos hempty]
    exact settles_return _
  · rw [if_neg hempty]
    apply settles_attempt (sound_setKeyManagement
      (fun exchange hquery => verified_of_not_isQuery platform hquery) _ _)
    · intro _
      apply settles_verifyConfiguration
      · intro configuration haccepts
        obtain ⟨result, hresult⟩ := equal_of_not_cutShort (by simpa using haccepts)
        rw [hresult]
        exact ⟨_, rfl⟩
      · intro configuration haccepts
        rw [equal_of_cutShort (by simpa using haccepts)]
        exact ⟨_, rfl⟩
    · intro what
      simp

theorem settles_setPairwiseCipherSuites (pairwiseCipherSuites : CipherSuites) :
    Settles (fun exchange => verified platform (fun _ => true) exchange)
      (fun status => status.code)
      (setPairwiseCipherSuites platform interfaceName pairwiseCipherSuites) := by
  unfold setPairwiseCipherSuites
  dsimp only
  by_cases hempty : pairwiseCipherSuites = ∅
  · rw [if_pos hempty]
    exact settles_return _
  · rw [if_neg hempty]
    apply settles_attempt (sound_setPairwiseCipherSuites
      (fun exchange hquery => verified_of_not_isQuery platform hquery) _ _ _)
    · intro _
      exact settles_verifyConfiguration platform (fun _ _ => ⟨_, rfl⟩) (fun _ h => by cases h)
    · intro what
      simp

theorem settles_setSsid (ssid : ByteString) :
    Settles (fun exchange => verified platform (fun _ => true) exchange)
      (fun status => status.code) (setSsid platform interfaceName ssid) := by
  unfold setSsid
  dsimp only
  by_cases hempty : ssid = []
  · rw [if_pos hempty]
    exact settles_return _
  · rw [if_neg hempty]
    apply settles_attempt (sound_setProperty
      (fun exchange hquery => verified_of_not_isQuery platform hquery) _ _ _)
    · intro _
      exact settles_verifyConfiguration platform (fun _ _ => ⟨_, rfl⟩) (fun _ h => by cases h)
    · intro what
      simp

theorem settles_setNetworkBridge
    (hquiet : ∀ exchange, isQuery exchange = false → harmless exchange)
    (networkBridgeId : ByteString) :
    Settles harmless (fun status => status.code) (setNetworkBridge interfaceName networkBridgeId) :=
  settles_attempt (sound_setBridgeInterface hquiet _ _) (fun _ => settles_return _)
    (fun what => by simp)

theorem settles_setRadiusConfiguration
    (hquiet : ∀ exchange, isQuery exchange = false → harmless exchange)
    (radiusConfiguration : Ieee8021xRadiusConfiguration) :
    Settles harmless (fun status => status.code)
      (setRadiusConfiguration interfaceName radiusConfiguration) := by
  apply settles_attempt (sound_addRadiusEndpoints hquiet _ _)
  · intro _
    apply settles_attempt (sound_setProperty hquiet _ _ _)
    · intro _
      apply settles_attempt (sound_setProperty hquiet _ _ _)
      · intro _
        exact settles_attempt (sound_reload hquiet) (fun _ => settles_return _)
          (fun what => by simp)
      · intro what
        simp
    · intro what
      simp
  · intro what
    simp

end Operations

-- The exchanges with which an operation can go on: one of them looks up the wiphy and
-- four ask hostapd a question outside of any handler, and one of these compares lists.
def bearable (platform : Platform) : ControllerRequest → System.Exchange → Bool
  | .GetCapabilities => looksUp
  | .SetPhyType _ => verified platform fun _ => true
  | .SetAkmSuites akmSuites => verified platform fun configuration =>
      !cutShort (akmSuites.map ieee80211AkmSuiteToWpaKeyManagement) configuration.wpaKeyMgmt
  | .SetPairwiseCipherSuites _ => verified platform fun _ => true
  | .SetSsid _ => verified platform fun _ => true
  | _ => readable platform.toPlatform

theorem settles_perform (platform : Platform) (interfaceName : ByteString)
    (request : ControllerRequest) :
    Settles (fun exchange => bearable platform request exchange) (fun result => result.1.code)
      (perform platform interfaceName request) := by
  have hquiet : ∀ exchange, isQuery exchange = false →
      readable platform.toPlatform exchange = true :=
    fun _ => readable_of_not_isQuery platform.toPlatform
  cases request with
  | GetOperationalState => exact settles_getOperationalState platform interfaceName
  | GetCapabilities => exact settles_getCapabilities platform interfaceName
  | SetOperationalState operationalState =>
      exact settles_map (settles_setOperationalState platform interfaceName operationalState)
  | SetPhyType ieeePhyType =>
      exact settles_map (settles_setPhyType platform interfaceName ieeePhyType _)
  | SetFrequencyBands frequencyBands =>
      exact settles_map (settles_setFrequencyBands interfaceName hquiet frequencyBands)
  | SetAuthenticationAlgorithms algorithms =>
      exact settles_map (settles_setAuthenticationAlgorithms interfaceName hquiet algorithms)
  | SetAuthenticationData authenticationData =>
      exact settles_map (settles_setAuthenticationData interfaceName hquiet authenticationData)
  | SetAkmSuites akmSuites =>
      exact settles_map (settles_setAkmSuites platform interfaceName akmSuites)
  | SetPairwiseCipherSuites pairwiseCipherSuites =>
      exact settles_map
        (settles_setPairwiseCipherSuites platform interfaceName pairwiseCipherSuites)
  | SetSsid ssid => exact settles_map (settles_setSsid platform interfaceName ssid)
  | SetNetworkBridge networkBridgeId =>
      exact settles_map (settles_setNetworkBridge interfaceName hquiet networkBridgeId)
  | SetRadiusConfiguration radiusConfiguration =>
      exact settles_map (settles_setRadiusConfiguration interfaceName hquiet radiusConfiguration)

-- Nothing gets past the `noexcept` boundary, and the status does not hide a change
-- that was refused.
def Contained {α : Type} (trace : List System.Exchange) :
    Except Fault (AccessPointOperationStatus × α) → Prop
  | .ok result => Refused trace → result.1.code ≠ .Succeeded
  | .error _ => False

theorem perform_contained_iff (platform : Platform) (interfaceName : ByteString)
    (request : ControllerRequest) (trace : List System.Exchange)
    (outcome : Except Fault (AccessPointOperationStatus × request.Result))
    (hruns : (perform platform interfaceName request).Runs trace outcome) :
    Contained trace outcome ↔ ∀ exchange ∈ trace, bearable platform request exchange := by
  have hsettles := settles_perform platform interfaceName request []
    (fun _ h => absurd h List.not_mem_nil) (by simp [Refused])
  have hends := Program.ends_of_wp [] hsettles hruns
  rw [List.nil_append] at hends
  cases outcome with
  | ok result => exact ⟨fun _ => hends.1, fun _ => hends.2⟩
  | error fault => exact ⟨fun h => absurd h id, fun h => absurd h hends⟩

instance : Inhabited Platform := ⟨⟨⟨default, default, default, 0⟩, default, default⟩⟩

-- A hostapd that acknowledges what it is told, with a given answer to GET_CONFIG.
def acknowledging (configuration : Option ByteString) (_ : List System.Exchange) :
    (request : SystemRequest) → request.Reply
  | .SendCommand .GetConfig => configuration
  | .SendCommand _ => some (str "OK")
  | .IsValid => true
  | .GenerateRandomAsciiString length => ⟨List.replicate length 65, by simp, by simp⟩
  | .WiphyFromInterfaceName _ => .ok none

def setGuest : Wpa.Action (AccessPointOperationStatus × Unit) :=
  perform default (str "wlan0") (.SetSsid (str "guest"))

theorem setSsid_contained_guest :
    Contained (setGuest.run (acknowledging (some (str "ssid=guest"))) []).1
      (setGuest.run (acknowledging (some (str "ssid=guest"))) []).2 :=
  (perform_contained_iff default (str "wlan0") (.SetSsid (str "guest")) _ _
    (Program.runs_run _ _)).mpr (by decide +kernel)

-- The SSID is set and the configuration reloaded when the question about it stays
-- unanswered.
theorem setSsid_escapes_guest :
    ∃ trace outcome, setGuest.Runs trace outcome ∧
      trace = [⟨.SendCommand (.Set (str "ssid") (str "guest")), some (str "OK")⟩,
        ⟨.SendCommand .Reload, some (str "OK")⟩, ⟨.SendCommand .GetConfig, none⟩] ∧
      outcome = .error (.Hostapd (str "Failed to send hostapd 'get_config' command")) ∧
      ¬ Contained trace outcome :=
  ⟨_, _, Program.runs_run (acknowledging none) setGuest, rfl, rfl, id⟩

end NetRemote.Wifi.AccessPointControllerLinux
