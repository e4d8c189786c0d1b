import NetRemote.Wifi.AccessPointControllerLinux.Settings
import NetRemote.Wifi.AccessPointControllerLinux.Theorems
import NetRemote.Wpa.Hostapd.Enforcement

namespace NetRemote.Wifi.AccessPointControllerLinux

open Foundation Foundation.Bytes Wpa Wpa.ProtocolWpa Wpa.Hostapd

section Keeps

variable {α : Type} {counts : ByteString → Bool}

-- A program without errors leaves nothing to a later reload.
def KeepsInEffect (counts : ByteString → Bool) (succeeded : α → Prop) (program : Wpa.Action α) :
    Prop :=
  Program.Keeps (sets counts) reloads succeeded program

theorem keeps_of_unwatched {succeeded : α → Prop} {program : Wpa.Action α}
    (h : program.Within (Unwatched counts)) : KeepsInEffect counts succeeded program := by
  have hsets {request : SystemRequest} (hrequest : Unwatched counts request)
      (reply : System.Reply request) : sets counts ⟨request, reply⟩ = false := by
    cases request with
    | SendCommand command =>
        cases command with
        | Set propertyName propertyValue => exact hrequest
        | _ => rfl
    | _ => rfl
  have hwithin := Program.within_mono (fun _ => hsets) h
  exact Program.keeps_of_within hwithin

theorem returns_fail {fail : ByteString → AccessPointOperationStatus}
    (hfail : ∀ what, (fail what).code ≠ .Succeeded) (fault : Fault) :
    (catching (fun what => .Return (fail what)) fault : Wpa.Action _).Returns
      fun status => ¬ status.code = .Succeeded := by
  cases fault with
  | Hostapd message => exact hfail _
  | _ => trivial

-- A block under a handler that reports a failure.
theorem keeps_report {block : Wpa.Action α} {next : α → Wpa.Action AccessPointOperationStatus}
    {fail : ByteString → AccessPointOperationStatus}
    (hblock : KeepsInEffect counts (fun _ => True) block)
    (hnext : ∀ value, KeepsInEffect counts (fun status => status.code = .Succeeded) (next value))
    (hfail : ∀ what, (fail what).code ≠ .Succeeded) :
    KeepsInEffect counts (fun status => status.code = .Succeeded)
      (block.attempt next (catching fun what => .Return (fail what))) :=
  Program.keeps_attempt hblock hnext (returns_fail hfail)

variable (platform : Platform) (interfaceName : ByteString)

theorem closes_setProperties {properties : List (ByteString × ByteString)}
    {fail : ByteString → ByteString → ByteString → AccessPointOperationStatus}
    {next : Wpa.Action AccessPointOperationStatus}
    (hfail : ∀ key value what, (fail key value what).code ≠ .Succeeded)
    (hnext : Program.Closes (sets counts) reloads (fun status => status.code = .Succeeded) next) :
    Program.Closes (sets counts) reloads (fun status => status.code = .Succeeded)
      (setProperties properties (fun key value what => .Return (fail key value what)) next) := by
  induction properties with
  | nil => exact hnext
  | cons property properties ih =>
      exact Program.closes_attempt_next (fun _ => ih) (returns_fail (hfail property.1 property.2))

theorem keeps_setPhyType (ieeePhyType : Ieee80211PhyType) :
    KeepsInEffect counts (fun status => status.code = .Succeeded)
      (setPhyType platform interfaceName ieeePhyType) := by
  apply Program.keeps_of_closes
  apply closes_setProperties (fun key value what => by simp)
  apply Program.closes_attempt closes_reload
  · intro _
    exact Program.keeps_bind (keeps_of_unwatched (within_getStatus _)) fun _ =>
      Program.keeps_return _
  · exact returns_fail fun what => by simp

-- The band takes effect without a reload.
theorem keeps_setFrequencyBands {frequencyBands : List Ieee80211FrequencyBand}
    (hband : counts ProtocolHostapd.PropertyNameSetBand = false)
    (hsix : .SixGHz ∉ frequencyBands) :
    KeepsInEffect counts (fun status => status.code = .Succeeded)
      (setFrequencyBands interfaceName frequencyBands) := by
  have hcontains : frequencyBands.contains .SixGHz = false := by simpa using hsix
  unfold setFrequencyBands
  dsimp only
  by_cases hempty : frequencyBands = []
  · rw [if_pos hempty]
    exact Program.keeps_return _
  · rw [if_neg hempty]
    apply keeps_report (keeps_of_unwatched (within_setProperty hband _ _))
    · intro _
      rw [hcontains]
      exact Program.keeps_return _
    · exact fun what => by simp

theorem keeps_setAuthenticationAlgorithms
    (authenticationAlgorithms : List Ieee80211AuthenticationAlgorithm) :
    KeepsInEffect counts (fun status => status.code = .Succeeded)
      (setAuthenticationAlgorithms interfaceName authenticationAlgorithms) := by
  unfold setAuthenticationAlgorithms
  dsimp only
  split_ifs
  · exact Program.keeps_return _
  · exact keeps_report (Program.keeps_of_closes (closes_setAuthenticationAlgorithms _))
      (fun _ => Program.keeps_return _) fun what => by simp

theorem keeps_setAuthenticationData (authenticationData : Ieee80211AuthenticationData) :
    KeepsInEffect counts (fun status => status.code = .Succeeded)
      (setAuthenticationData interfaceName authenticationData) := by
  obtain ⟨psk, sae⟩ := authenticationData
  unfold setAuthenticationData
  dsimp only
  split_ifs
  · exact Program.keeps_return _
  · have hsae (passwords : List Ieee80211RsnaPassword) {status : AccessPointOperationStatus}
        {details : ByteString → ByteString} :
        KeepsInEffect counts (fun status => status.code = .Succeeded)
          ((setSaePasswords (passwords.map ieee80211RsnaPasswordToWpaSaePassword) .Now).attempt
            (fun _ => .Return status.succeed)
            (catching fun what =>
              .Return (status.withCode .InternalError (details what)))) :=
      keeps_report (Program.keeps_of_closes (closes_setSaePasswords _))
        (fun _ => Program.keeps_return _) fun what => by simp
    cases psk with
    | none =>
        cases sae with
        | none => exact Program.keeps_return _
        | some passwords => exact hsae passwords
    | some psk =>
        apply keeps_report (Program.keeps_of_closes (closes_setPreSharedKey _))
        · intro _
          cases sae with
          | none => exact Program.keeps_return _
          | some passwords => exact hsae passwords
        · exact fun what => by simp

theorem keeps_setAkmSuites (akmSuites : List Ieee80211AkmSuite) :
    KeepsInEffect counts (fun status => status.code = .Succeeded)
      (setAkmSuites platform interfaceName akmSuites) := by
  unfold setAkmSuites
  dsimp only
  split_ifs
  · exact Program.keeps_return _
  · apply keeps_report (Program.keeps_of_closes (closes_setKeyManagement _))
    · intro _
      apply Program.keeps_bind (keeps_of_unwatched (within_getConfiguration _))
      intro configuration
      exact Program.keeps_bind (keeps_of_unwatched (Program.within_ofExcept _)) fun _ =>
        Program.keeps_return _
    · exact fun what => by simp

theorem keeps_setPairwiseCipherSuites (pairwiseCipherSuites : CipherSuites) :
    KeepsInEffect counts (fun status => status.code = .Succeeded)
      (setPairwiseCipherSuites platform interfaceName pairwiseCipherSuites) := by
  unfold setPairwiseCipherSuites
  dsimp only
  split_ifs
  · exact Program.keeps_return _
  · apply keeps_report (Hostapd.keeps_setPairwiseCipherSuites _ _)
    · intro _
      exact Program.keeps_bind (keeps_of_unwatched (within_getConfiguration _)) fun _ =>
        Program.keeps_return _
    · exact fun what => by simp

theorem keeps_setSsid (ssid : ByteString) :
    KeepsInEffect counts (fun status => status.code = .Succeeded)
      (setSsid platform interfaceName ssid) := by
  unfold setSsid
  dsimp only
  split_ifs
  · exact Program.keeps_return _
  · apply keeps_report (Program.keeps_of_closes (closes_setProperty _ _))
    · intro _
      exact Program.keeps_bind (keeps_of_unwatched (within_getConfiguration _)) fun _ =>
        Program.keeps_return _
    · exact fun what => by simp

theorem keeps_setNetworkBridge (networkBridgeId : ByteString) :
    KeepsInEffect counts (fun status => status.code = .Succeeded)
      (setNetworkBridge interfaceName networkBridgeId) :=
  keeps_report (Program.keeps_of_closes (closes_setPropertyWith _ _ _))
    (fun _ => Program.keeps_return _) fun what => by simp

-- The reload at the end covers the servers and the two properties after them.
theorem keeps_setRadiusConfiguration (radiusConfiguration : Ieee8021xRadiusConfiguration) :
    KeepsInEffect counts (fun status => status.code = .Succeeded)
      (setRadiusConfiguration interfaceName radiusConfiguration) := by
  apply Program.keeps_of_closes
  apply Program.closes_attempt_next
  · intro _
    apply Program.closes_attempt_next
    · intro _
      apply Program.closes_attempt_next
      · intro _
        exact Program.closes_attempt closes_reload (fun _ => Program.keeps_return _)
          (returns_fail fun what => by simp)
      · exact returns_fail fun what => by simp
    · exact returns_fail fun what => by simp
  · exact returns_fail fun what => by simp

theorem keeps_perform {request : ControllerRequest}
    (hband : counts ProtocolHostapd.PropertyNameSetBand = false)
    (hsix : ∀ frequencyBands, request = .SetFrequencyBands frequencyBands →
      .SixGHz ∉ frequencyBands) :
    KeepsInEffect counts (fun result => result.1.code = .Succeeded)
      (perform platform interfaceName request) := by
  cases request with
  | GetOperationalState => exact keeps_of_unwatched (within_perform platform interfaceName nofun)
  | GetCapabilities => exact keeps_of_unwatched (within_perform platform interfaceName nofun)
  | SetOperationalState operationalState =>
      exact keeps_of_unwatched (within_perform platform interfaceName nofun)
  | SetPhyType ieeePhyType =>
      exact Program.keeps_map (keeps_setPhyType platform interfaceName ieeePhyType)
  | SetFrequencyBands frequencyBands =>
      exact Program.keeps_map
        (keeps_setFrequencyBands interfaceName hband (hsix frequencyBands rfl))
  | SetAuthenticationAlgorithms algorithms =>
      exact Program.keeps_map (keeps_setAuthenticationAlgorithms interfaceName algorithms)
  | SetAuthenticationData authenticationData =>
      exact Program.keeps_map (keeps_setAuthenticationData interfaceName authenticationData)
  | SetAkmSuites akmSuites =>
      exact Program.keeps_map (keeps_setAkmSuites platform interfaceName akmSuites)
  | SetPairwiseCipherSuites pairwiseCipherSuites =>
      exact Program.keeps_map
        (keeps_setPairwiseCipherSuites platform interfaceName pairwiseCipherSuites)
  | SetSsid ssid => exact Program.keeps_map (keeps_setSsid platform interfaceName ssid)
  | SetNetworkBridge networkBridgeId =>
      exact Program.keeps_map (keeps_setNetworkBridge interfaceName networkBridgeId)
  | SetRadiusConfiguration radiusConfiguration =>
      exact Program.keeps_map (keeps_setRadiusConfiguration interfaceName radiusConfiguration)

end Keeps

section SixGHz

variable {counts : ByteString → Bool}

theorem wp_setProperty_defer (propertyName propertyValue : ByteString)
    (past : List System.Exchange) :
    (setProperty propertyName propertyValue .Defer).wp past
      (fun now _ => ∃ reply : Option ByteString,
        now = past ++ [⟨.SendCommand (.Set propertyName propertyValue), reply⟩])
      (fun _ _ => True) := by
  intro reply
  cases reply with
  | none => trivial
  | some response =>
      by_cases hok : isResponseOk response
      · simp only [Program.attempt, hok, Bool.not_true, Bool.false_eq_true, if_false]
        exact ⟨some response, rfl⟩
      · simp only [Program.attempt, hok, Bool.not_false, if_true]
        trivial

-- The protection of management frames is the last thing that is set.
theorem wp_setFrequencyBands_sixGHz (interfaceName : ByteString)
    {frequencyBands : List Ieee80211FrequencyBand}
    (hprotection : counts ProtocolHostapd.PropertyNameIeee80211W = true)
    (hsix : .SixGHz ∈ frequencyBands) (past : List System.Exchange) :
    (setFrequencyBands interfaceName frequencyBands).wp past
      (fun now status => status.code = .Succeeded → ¬ InEffect counts now)
      (fun _ _ => True) := by
  have hfails (now : List System.Exchange) (fault : Fault)
      {fail : ByteString → AccessPointOperationStatus}
      (hfail : ∀ what, (fail what).code ≠ .Succeeded) :
      (catching (fun what => .Return (fail what)) fault : Wpa.Action _).wp now
        (fun now status => status.code = .Succeeded → ¬ InEffect counts now)
        (fun _ _ => True) := by
    cases fault with
    | Hostapd message => exact fun hsucceeded => absurd hsucceeded (hfail _)
    | _ => trivial
  unfold setFrequencyBands
  dsimp only
  rw [if_neg (List.ne_nil_of_mem hsix), List.contains_iff_mem.mpr hsix, Program.wp_attempt]
  apply Program.wp_mono (wp_setProperty_defer _ _ past)
  · intro now _ _
    simp only [if_true]
    rw [Program.wp_attempt]
    apply Program.wp_mono (wp_setProperty_defer _ _ now)
    · rintro later _ ⟨reply, rfl⟩ _
      exact not_followed_concat hprotection
    · exact fun now fault _ => hfails now fault fun what => by simp
  · exact fun now fault _ => hfails now fault fun what => by simp

def waitsForReload (propertyName : ByteString) : Bool :=
  propertyName ≠ ProtocolHostapd.PropertyNameSetBand

theorem perform_inEffect_iff (platform : Platform) (interfaceName : ByteString)
    (request : ControllerRequest) (trace : List System.Exchange)
    (result : AccessPointOperationStatus × request.Result)
    (hruns : (perform platform interfaceName request).Runs trace (.ok result))
    (hsucceeded : result.1.code = .Succeeded) :
    InEffect waitsForReload trace ↔
      ∀ frequencyBands, request = .SetFrequencyBands frequencyBands →
        .SixGHz ∉ frequencyBands := by
  constructor
  · rintro hinEffect frequencyBands rfl hsix
    have hnot : (perform platform interfaceName (.SetFrequencyBands frequencyBands)).wp []
        (fun now result => result.1.code = .Succeeded → ¬ InEffect waitsForReload now)
        (fun _ _ => True) :=
      (Program.wp_bind _ _).mpr (wp_setFrequencyBands_sixGHz interfaceName (by decide) hsix [])
    exact Program.ends_of_wp [] hnot hruns hsucceeded hinEffect
  · intro hsix
    exact Program.followed_of_keeps (keeps_perform platform interfaceName (by decide) hsix) hruns
      hsucceeded

theorem perform_inEffect_guest :
    InEffect waitsForReload (setGuest.run (acknowledging (some (str "ssid=guest"))) []).1 :=
  (perform_inEffect_iff default (str "wlan0") (.SetSsid (str "guest")) _ _
    (Program.runs_run (acknowledging (some (str "ssid=guest"))) setGuest) (by decide)).mpr nofun

def setSixGHz : Wpa.Action (AccessPointOperationStatus × Unit) :=
  perform default (str "wlan0") (.SetFrequencyBands [.SixGHz])

-- The protection of management frames is not in effect when the operation returns.
theorem setFrequencyBands_pends_sixGHz :
    ∃ trace result, setSixGHz.Runs trace (.ok result) ∧ result.1.code = .Succeeded ∧
      trace = [⟨.SendCommand (.Set (str "setband") (str "6G")), some (str "OK")⟩,
        ⟨.SendCommand (.Set (str "ieee80211w") (str "2")), some (str "OK")⟩] ∧
      ¬ InEffect waitsForReload trace := by
  refine ⟨_, _, Program.runs_run (acknowledging none) setSixGHz, rfl, rfl, ?_⟩
  intro hinEffect
  obtain ⟨closing, hmem, -⟩ := hinEffect [_] _ [] rfl rfl
  cases hmem

end SixGHz

end NetRemote.Wifi.AccessPointControllerLinux
