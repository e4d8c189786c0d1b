import NetRemote.Wifi.AccessPointControllerLinux
import NetRemote.Wpa.Hostapd.Settings

namespace NetRemote.Wifi.AccessPointControllerLinux

open Foundation Foundation.Bytes Wpa Wpa.Hostapd

section Performs

variable (platform : Platform) (interfaceName : ByteString) {watched : ByteString → Bool}
  {valid : Prop}

theorem performs_setPairwiseCipherSuites (pairwiseCipherSuites : CipherSuites) :
    let wpaCipherSuites :=
      ieee80211CipherSuitesToWpaCipherSuites platform.cipherSuites pairwiseCipherSuites
    Performs platform.toPlatform watched
      (pairwiseCipherSuites ≠ ∅ ∧ wpaCipherSuites ≠ ∅ ∧
        ∀ entry ∈ platform.wpaCipherSuites.visit wpaCipherSuites, ValidCipherSuites entry)
      (fun status => status.code = .Succeeded)
      ((platform.wpaCipherSuites.visit wpaCipherSuites).map cipherSetting)
      (setPairwiseCipherSuites platform interfaceName pairwiseCipherSuites) := by
  intro wpaCipherSuites
  unfold setPairwiseCipherSuites
  dsimp only
  by_cases hempty : pairwiseCipherSuites = ∅
  · rw [if_pos hempty]
    exact performs_refuse (by simp) (fun hvalid => hvalid.1 hempty)
  · rw [if_neg hempty, ← List.append_nil (List.map cipherSetting _)]
    apply performs_attempt
    · exact performs_of_valid (fun hvalid => hvalid.2)
        (Hostapd.performs_setPairwiseCipherSuites _ _)
    · intro _
      exact performs_bind performs_getConfiguration fun _ => performs_return fun _ => rfl
    · exact givesUp_fail fun what => by simp

theorem returns_setPairwiseCipherSuites (pairwiseCipherSuites : CipherSuites) :
    (setPairwiseCipherSuites platform interfaceName pairwiseCipherSuites).Returns fun status =>
      status.code = .Succeeded →
        ∀ entry ∈ platform.wpaCipherSuites.visit
          (ieee80211CipherSuitesToWpaCipherSuites platform.cipherSuites pairwiseCipherSuites),
          ValidCipherSuites entry := by
  unfold setPairwiseCipherSuites
  dsimp only
  by_cases hempty : pairwiseCipherSuites = ∅
  · rw [if_pos hempty]
    exact fun hstatus => by simp at hstatus
  · rw [if_neg hempty]
    apply Program.returns_attempt (Hostapd.returns_setPairwiseCipherSuites _ _)
    · exact fun _ hvalid => Program.returns_of_forall fun _ _ => hvalid
    · intro fault
      cases fault with
      | Hostapd message => exact fun hstatus => by simp at hstatus
      | _ => trivial

theorem performs_setRadiusConfiguration (radiusConfiguration : Ieee8021xRadiusConfiguration) :
    Performs platform.toPlatform watched
      (∀ endpoint ∈ radiusEndpointConfigurations radiusConfiguration, ValidRadiusEndpoint endpoint)
      (fun status => status.code = .Succeeded)
      ((radiusEndpointConfigurations radiusConfiguration).flatMap radiusSettings ++
        ([(ProtocolHostapd.PropertyNameEapServer, ProtocolHostapd.PropertyDisabled)] ++
          ([(ProtocolHostapd.PropertyNameOwnIpAddr, getIpAddress)] ++ [])))
      (setRadiusConfiguration interfaceName radiusConfiguration) := by
  unfold setRadiusConfiguration
  dsimp only
  apply performs_attempt (performs_addRadiusEndpoints _)
  · intro _
    apply performs_attempt (performs_setProperty _ _ _)
    · intro _
      apply performs_attempt (performs_setProperty _ _ _)
      · intro _
        exact performs_report performs_reload (fun _ => rfl) (fun what => by simp)
      · exact givesUp_fail fun what => by simp
    · exact givesUp_fail fun what => by simp
  · exact givesUp_fail fun what => by simp

def authenticationSettings (authenticationData : Ieee80211AuthenticationData) : List Setting :=
  (authenticationData.psk.toList.map fun psk =>
    wpaPreSharedKeyPropertyKeyAndValue (ieee80211RsnaPskToWpaSharedKey psk)) ++
  authenticationData.sae.elim [] fun passwords =>
    saePasswordSettings (passwords.map ieee80211RsnaPasswordToWpaSaePassword)

theorem performs_setAuthenticationData (authenticationData : Ieee80211AuthenticationData) :
    Performs platform.toPlatform watched
      (authenticationData.psk.isSome ∨ authenticationData.sae.isSome)
      (fun status => status.code = .Succeeded) (authenticationSettings authenticationData)
      (setAuthenticationData interfaceName authenticationData) := by
  obtain ⟨psk, sae⟩ := authenticationData
  unfold setAuthenticationData authenticationSettings
  dsimp only
  by_cases hgiven : (psk.isNone && sae.isNone) = true
  · rw [if_pos hgiven]
    rw [Bool.and_eq_true, Option.isNone_iff_eq_none, Option.isNone_iff_eq_none] at hgiven
    obtain ⟨rfl, rfl⟩ := hgiven
    exact performs_refuse (by simp) (by simp)
  · rw [if_neg hgiven]
    cases sae with
    | none =>
        cases psk with
        | none => exact performs_return fun _ => rfl
        | some psk =>
            exact performs_attempt (performs_setPreSharedKey _ _)
              (fun _ => performs_return fun _ => rfl) (givesUp_fail fun what => by simp)
    | some passwords =>
        have hsae {valid : Prop} {status : AccessPointOperationStatus}
            {details : ByteString → ByteString} :
            Performs platform.toPlatform watched valid (fun status => status.code = .Succeeded)
              (saePasswordSettings (passwords.map ieee80211RsnaPasswordToWpaSaePassword))
              ((setSaePasswords (passwords.map ieee80211RsnaPasswordToWpaSaePassword) .Now).attempt
                (fun _ => .Return status.succeed)
                (catching fun what => .Return (status.withCode .InternalError (details what)))) :=
          performs_report (performs_setSaePasswords _ _) (fun _ => rfl) fun what => by simp
        cases psk with
        | none => exact hsae
        | some psk =>
            exact performs_attempt (performs_setPreSharedKey _ _) (fun _ => hsae)
              (givesUp_fail fun what => by simp)

theorem within_getOperationalState :
    (getOperationalState platform interfaceName).Within (Unwatched watched) := by
  apply Program.within_bind
  · exact ⟨trivial, fun _ => trivial⟩
  · intro active
    split_ifs
    · trivial
    · apply Program.within_attempt (within_getStatus _)
      · intro status
        trivial
      · exact within_catching fun what => trivial

theorem performs_getOperationalState :
    Performs platform.toPlatform watched valid (fun result => result.1.code = .Succeeded) []
      (getOperationalState platform interfaceName) := by
  apply performs_isActive
  intro active
  split_ifs
  · exact performs_return fun _ => rfl
  · exact performs_report performs_getStatus (fun _ => rfl) (fun what => by simp)

-- Whether it succeeds is of no concern to an operation that only logs the state.
theorem performs_logOperationalState :
    Performs platform.toPlatform watched valid (fun _ => True) []
      (getOperationalState platform interfaceName) := by
  intro past
  have hsame := Program.wp_of_within (settings watched)
    (fun past request reply hrequest => settings_unwatched past reply hrequest) past
    (within_getOperationalState platform interfaceName)
  have hstate : Performs platform.toPlatform watched valid _ [] _ :=
    performs_getOperationalState platform interfaceName
  apply Program.wp_mono (Program.wp_and hsame (hstate past))
  · rintro now result ⟨hnow, _⟩
    refine ⟨fun _ => ?_, fun _ _ => trivial⟩
    rw [hnow, List.filter_nil, List.append_nil]
  · exact fun _ _ hfault => hfault.2

theorem performs_setOperationalState (operationalState : AccessPointOperationalState) :
    Performs platform.toPlatform watched valid (fun status => status.code = .Succeeded) []
      (setOperationalState platform interfaceName operationalState) := by
  have hchange {change : Wpa.Action Unit} (name : ByteString)
      (h : Performs platform.toPlatform watched valid (fun _ => True) [] change) :
      Performs platform.toPlatform watched valid (fun status => status.code = .Succeeded) []
        (setOperationalStateBy platform interfaceName change name) := by
    apply performs_followed
    · exact performs_report h (fun _ => rfl) (fun what => by simp)
    · exact performs_logOperationalState platform interfaceName
  cases operationalState with
  | Enabled => exact hchange _ performs_enable
  | Disabled => exact hchange _ performs_disable

end Performs

section Within

-- The properties that an operation may set.
def propertiesOf : ControllerRequest → List ByteString
  | .SetPhyType ieeePhyType => (phyTypeProperties ieeePhyType).map Prod.fst
  | .SetFrequencyBands _ =>
      [ProtocolHostapd.PropertyNameSetBand, ProtocolHostapd.PropertyNameIeee80211W]
  | .SetAuthenticationAlgorithms _ => [ProtocolHostapd.PropertyNameAuthenticationAlgorithms]
  | .SetAuthenticationData _ =>
      [ProtocolHostapd.PropertyNameWpaPassphrase, ProtocolHostapd.PropertyNameWpaPsk,
        ProtocolHostapd.PropertyNameSaePassword]
  | .SetAkmSuites _ =>
      [ProtocolHostapd.PropertyNameNasIdentifier, ProtocolHostapd.PropertyNameIeee8021X,
        ProtocolHostapd.PropertyNameWpaKeyManagement]
  | .SetPairwiseCipherSuites _ =>
      [ProtocolHostapd.PropertyNameWpaPairwise, ProtocolHostapd.PropertyNameRsnPairwise]
  | .SetSsid _ => [ProtocolHostapd.PropertyNameSsid]
  | .SetNetworkBridge _ => [ProtocolHostapd.PropertyNameBridgeInterface]
  | .SetRadiusConfiguration _ =>
      ([.Authentication, .Accounting, .Unknown].flatMap fun role =>
        let names := getRadiusEndpointPropertyNames role
        [names.1, names.2.1, names.2.2]) ++
      [ProtocolHostapd.PropertyNameEapServer, ProtocolHostapd.PropertyNameOwnIpAddr]
  | .GetOperationalState | .GetCapabilities | .SetOperationalState _ => []

abbrev Spared (watched : ByteString → Bool) (request : ControllerRequest) : Prop :=
  ∀ propertyName ∈ propertiesOf request, watched propertyName = false

def pairwiseProperty (propertyName : ByteString) : Bool :=
  propertyName = ProtocolHostapd.PropertyNameWpaPairwise ||
    propertyName = ProtocolHostapd.PropertyNameRsnPairwise

def saeProperty (propertyName : ByteString) : Bool :=
  propertyName = ProtocolHostapd.PropertyNameSaePassword

-- Only one operation touches the pairwise ciphers.
theorem spared_pairwiseProperty (request : ControllerRequest)
    (h : ∀ pairwiseCipherSuites, request ≠ .SetPairwiseCipherSuites pairwiseCipherSuites) :
    Spared pairwiseProperty request := by
  cases request with
  | SetPairwiseCipherSuites pairwiseCipherSuites => exact absurd rfl (h pairwiseCipherSuites)
  | SetPhyType ieeePhyType => cases ieeePhyType <;> decide
  | _ => simp only [Spared, propertiesOf]; decide

-- And only one touches the SAE passwords.
theorem spared_saeProperty (request : ControllerRequest)
    (h : ∀ authenticationData, request ≠ .SetAuthenticationData authenticationData) :
    Spared saeProperty request := by
  cases request with
  | SetAuthenticationData authenticationData => exact absurd rfl (h authenticationData)
  | SetPhyType ieeePhyType => cases ieeePhyType <;> decide
  | _ => simp only [Spared, propertiesOf]; decide

-- The pre-shared key is no password of this list.
theorem filter_authenticationSettings (authenticationData : Ieee80211AuthenticationData) :
    ((authenticationSettings authenticationData).filter fun setting => saeProperty setting.1) =
      authenticationData.sae.elim [] fun passwords =>
        saePasswordSettings (passwords.map ieee80211RsnaPasswordToWpaSaePassword) := by
  have hpsk (preSharedKey : WpaPreSharedKey) :
      saeProperty (wpaPreSharedKeyPropertyKeyAndValue preSharedKey).1 = false := by
    have hpassphrase : saeProperty ProtocolHostapd.PropertyNameWpaPassphrase = false := by decide
    have hvalue : saeProperty ProtocolHostapd.PropertyNameWpaPsk = false := by decide
    cases preSharedKey with
    | WpaPskPassphraseT passphrase => exact hpassphrase
    | WpaPskValueT value => exact hvalue
  have hname : saeProperty ProtocolHostapd.PropertyNameSaePassword = true := by decide
  have hnone : (authenticationData.psk.toList.map fun psk =>
      wpaPreSharedKeyPropertyKeyAndValue (ieee80211RsnaPskToWpaSharedKey psk)).filter
        (fun setting => saeProperty setting.1) = [] := by
    apply List.filter_eq_nil_iff.mpr
    simp [hpsk]
  rw [authenticationSettings, List.filter_append, hnone, List.nil_append]
  apply List.filter_eq_self.mpr
  cases authenticationData.sae with
  | none => exact nofun
  | some passwords => simp [saePasswordSettings, saePasswordSetting, hname]

variable (platform : Platform) (interfaceName : ByteString) {watched : ByteString → Bool}

theorem within_setProperties {properties : List (ByteString × ByteString)}
    {onFailure : ByteString → ByteString → ByteString → Wpa.Action AccessPointOperationStatus}
    {next : Wpa.Action AccessPointOperationStatus}
    (hproperties : ∀ property ∈ properties, watched property.1 = false)
    (hfailure : ∀ key value what, (onFailure key value what).Within (Unwatched watched))
    (hnext : next.Within (Unwatched watched)) :
    (setProperties properties onFailure next).Within (Unwatched watched) := by
  induction properties with
  | nil => exact hnext
  | cons property properties ih =>
      apply Program.within_attempt
      · exact within_setProperty (hproperties property List.mem_cons_self) _ _
      · intro _
        exact ih fun other hother => hproperties other (List.mem_cons_of_mem _ hother)
      · exact within_catching (hfailure property.1 property.2)

theorem within_setPhyType {ieeePhyType : Ieee80211PhyType}
    (h : Spared watched (.SetPhyType ieeePhyType)) :
    (setPhyType platform interfaceName ieeePhyType).Within (Unwatched watched) := by
  apply within_setProperties
  · exact fun property hproperty => h property.1 (List.mem_map_of_mem hproperty)
  · intro key value what
    trivial
  · apply Program.within_attempt within_reload
    · intro _
      exact Program.within_bind (within_getStatus _) fun _ => trivial
    · exact within_catching fun what => trivial

theorem within_setFrequencyBands {frequencyBands : List Ieee80211FrequencyBand}
    (h : Spared watched (.SetFrequencyBands frequencyBands)) :
    (setFrequencyBands interfaceName frequencyBands).Within (Unwatched watched) := by
  have hband : watched ProtocolHostapd.PropertyNameSetBand = false := h _ (by simp [propertiesOf])
  have hprotection : watched ProtocolHostapd.PropertyNameIeee80211W = false :=
    h _ (by simp [propertiesOf])
  unfold setFrequencyBands
  dsimp only
  split_ifs
  · trivial
  · apply Program.within_attempt (within_setProperty hband _ _)
    · intro _
      exact Program.within_attempt (within_setProperty hprotection _ _) (fun _ => trivial)
        (within_catching fun what => trivial)
    · exact within_catching fun what => trivial
  · apply Program.within_attempt (within_setProperty hband _ _)
    · intro _
      trivial
    · exact within_catching fun what => trivial

theorem within_setAuthenticationAlgorithms
    {authenticationAlgorithms : List Ieee80211AuthenticationAlgorithm}
    (h : Spared watched (.SetAuthenticationAlgorithms authenticationAlgorithms)) :
    (setAuthenticationAlgorithms interfaceName authenticationAlgorithms).Within
      (Unwatched watched) := by
  have hname : watched ProtocolHostapd.PropertyNameAuthenticationAlgorithms = false :=
    h _ (by simp [propertiesOf])
  unfold setAuthenticationAlgorithms
  dsimp only
  split_ifs
  · trivial
  · exact Program.within_attempt (Hostapd.within_setAuthenticationAlgorithms hname _ _)
      (fun _ => trivial) (within_catching fun what => trivial)

theorem within_setAuthenticationData {authenticationData : Ieee80211AuthenticationData}
    (h : Spared watched (.SetAuthenticationData authenticationData)) :
    (setAuthenticationData interfaceName authenticationData).Within (Unwatched watched) := by
  have hpassphrase : watched ProtocolHostapd.PropertyNameWpaPassphrase = false :=
    h _ (by simp [propertiesOf])
  have hpsk : watched ProtocolHostapd.PropertyNameWpaPsk = false := h _ (by simp [propertiesOf])
  have hpassword : watched ProtocolHostapd.PropertyNameSaePassword = false :=
    h _ (by simp [propertiesOf])
  unfold setAuthenticationData
  dsimp only
  obtain ⟨psk, sae⟩ := authenticationData
  split_ifs
  · trivial
  · cases sae with
    | none =>
        cases psk with
        | none => trivial
        | some psk =>
            exact Program.within_attempt (within_setPreSharedKey hpassphrase hpsk _ _)
              (fun _ => trivial) (within_catching fun what => trivial)
    | some passwords =>
        have hsae {next : Unit → Wpa.Action AccessPointOperationStatus}
            {handler : ByteString → Wpa.Action AccessPointOperationStatus}
            (hnext : ∀ value, (next value).Within (Unwatched watched))
            (hhandler : ∀ what, (handler what).Within (Unwatched watched)) :
            ((setSaePasswords (passwords.map ieee80211RsnaPasswordToWpaSaePassword) .Now).attempt
              next (catching handler)).Within (Unwatched watched) :=
          Program.within_attempt (within_setSaePasswords hpassword _ _) hnext
            (within_catching hhandler)
        cases psk with
        | none => exact hsae (fun _ => trivial) fun what => trivial
        | some psk =>
            exact Program.within_attempt (within_setPreSharedKey hpassphrase hpsk _ _)
              (fun _ => hsae (fun _ => trivial) fun what => trivial)
              (within_catching fun what => trivial)

theorem within_setAkmSuites {akmSuites : List Ieee80211AkmSuite}
    (h : Spared watched (.SetAkmSuites akmSuites)) :
    (setAkmSuites platform interfaceName akmSuites).Within (Unwatched watched) := by
  have hnas : watched ProtocolHostapd.PropertyNameNasIdentifier = false :=
    h _ (by simp [propertiesOf])
  have hieee : watched ProtocolHostapd.PropertyNameIeee8021X = false :=
    h _ (by simp [propertiesOf])
  have hkey : watched ProtocolHostapd.PropertyNameWpaKeyManagement = false :=
    h _ (by simp [propertiesOf])
  unfold setAkmSuites
  dsimp only
  split_ifs
  · trivial
  · apply Program.within_attempt
    · exact within_setKeyManagement hnas hieee hkey _ _
    · intro _
      apply Program.within_bind (within_getConfiguration _)
      intro configuration
      exact Program.within_bind (Program.within_ofExcept _) fun _ => trivial
    · exact within_catching fun what => trivial

theorem within_setPairwiseCipherSuites {pairwiseCipherSuites : CipherSuites}
    (h : Spared watched (.SetPairwiseCipherSuites pairwiseCipherSuites)) :
    (setPairwiseCipherSuites platform interfaceName pairwiseCipherSuites).Within
      (Unwatched watched) := by
  have hname (protocol : WpaSecurityProtocol)
      (hvalid : wpaCipherPropertyName protocol ≠ ProtocolHostapd.PropertyNameInvalid) :
      watched (wpaCipherPropertyName protocol) = false := by
    apply h
    unfold wpaCipherPropertyName at hvalid ⊢
    split_ifs at hvalid ⊢
    · exact List.mem_cons_self
    · exact List.mem_cons_of_mem _ List.mem_cons_self
    · exact absurd rfl hvalid
  unfold setPairwiseCipherSuites
  dsimp only
  split_ifs
  · trivial
  · apply Program.within_attempt (Hostapd.within_setPairwiseCipherSuites hname _ _)
    · intro _
      exact Program.within_bind (within_getConfiguration _) fun _ => trivial
    · exact within_catching fun what => trivial

theorem within_setSsid {ssid : ByteString} (h : Spared watched (.SetSsid ssid)) :
    (setSsid platform interfaceName ssid).Within (Unwatched watched) := by
  have hname : watched ProtocolHostapd.PropertyNameSsid = false := h _ (by simp [propertiesOf])
  unfold setSsid
  dsimp only
  split_ifs
  · trivial
  · apply Program.within_attempt (within_setProperty hname _ _)
    · intro _
      exact Program.within_bind (within_getConfiguration _) fun _ => trivial
    · exact within_catching fun what => trivial

theorem within_setRadiusConfiguration {radiusConfiguration : Ieee8021xRadiusConfiguration}
    (h : Spared watched (.SetRadiusConfiguration radiusConfiguration)) :
    (setRadiusConfiguration interfaceName radiusConfiguration).Within (Unwatched watched) := by
  have hserver : watched ProtocolHostapd.PropertyNameEapServer = false :=
    h _ (by simp [propertiesOf])
  have haddress : watched ProtocolHostapd.PropertyNameOwnIpAddr = false :=
    h _ (by simp [propertiesOf])
  have hsettings (setting : Setting) (hsetting : ∃ endpoint, setting ∈ radiusSettings endpoint) :
      watched setting.1 = false := by
    obtain ⟨endpoint, hmem⟩ := hsetting
    apply h
    rcases fst_of_mem_radiusSettings hmem with hname | hname | hname <;> rw [hname] <;>
      cases endpoint.type <;> simp [propertiesOf]
  apply Program.within_attempt (within_addRadiusEndpoints hsettings _ _)
  · intro _
    apply Program.within_attempt (within_setProperty hserver _ _)
    · intro _
      apply Program.within_attempt (within_setProperty haddress _ _)
      · intro _
        exact Program.within_attempt within_reload (fun _ => trivial)
          (within_catching fun what => trivial)
      · exact within_catching fun what => trivial
    · exact within_catching fun what => trivial
  · exact within_catching fun what => trivial

theorem within_setOperationalState (operationalState : AccessPointOperationalState) :
    (setOperationalState platform interfaceName operationalState).Within (Unwatched watched) := by
  have hchange {change : Wpa.Action Unit} (name : ByteString)
      (h : change.Within (Unwatched watched)) :
      (setOperationalStateBy platform interfaceName change name).Within
        (Unwatched watched) := by
    apply Program.within_bind
    · exact Program.within_attempt h (fun _ => trivial) (within_catching fun what => trivial)
    · intro status
      exact Program.within_bind (within_getOperationalState platform interfaceName) fun _ =>
        trivial
  cases operationalState with
  | Enabled => exact hchange _ (within_enable _)
  | Disabled => exact hchange _ (within_disable _)

-- An operation sets its own properties and no others.
theorem within_perform {request : ControllerRequest} (h : Spared watched request) :
    (perform platform interfaceName request).Within (Unwatched watched) := by
  cases request with
  | GetOperationalState => exact within_getOperationalState platform interfaceName
  | GetCapabilities =>
      refine ⟨trivial, fun wiphy => ?_⟩
      cases wiphy with
      | error exception => trivial
      | ok wiphy => cases wiphy <;> trivial
  | SetOperationalState operationalState =>
      exact Program.within_map _
        (within_setOperationalState platform interfaceName operationalState)
  | SetPhyType ieeePhyType =>
      exact Program.within_map _ (within_setPhyType platform interfaceName h)
  | SetFrequencyBands frequencyBands =>
      exact Program.within_map _ (within_setFrequencyBands interfaceName h)
  | SetAuthenticationAlgorithms algorithms =>
      exact Program.within_map _ (within_setAuthenticationAlgorithms interfaceName h)
  | SetAuthenticationData authenticationData =>
      exact Program.within_map _ (within_setAuthenticationData interfaceName h)
  | SetAkmSuites akmSuites =>
      exact Program.within_map _ (within_setAkmSuites platform interfaceName h)
  | SetPairwiseCipherSuites pairwiseCipherSuites =>
      exact Program.within_map _ (within_setPairwiseCipherSuites platform interfaceName h)
  | SetSsid ssid => exact Program.within_map _ (within_setSsid platform interfaceName h)
  | SetNetworkBridge networkBridgeId =>
      apply Program.within_map
      exact Program.within_attempt (within_setPropertyWith (h _ List.mem_cons_self) _ _ _)
        (fun _ => trivial) (within_catching fun what => trivial)
  | SetRadiusConfiguration radiusConfiguration =>
      exact Program.within_map _ (within_setRadiusConfiguration interfaceName h)

end Within

end NetRemote.Wifi.AccessPointControllerLinux
