import NetRemote.Wifi.AccessPointControllerLinux.PhyType
import NetRemote.Wifi.AccessPointControllerLinux.RadiusServers
import NetRemote.Wpa.Hostapd.Installation

namespace NetRemote.Wifi.AccessPointControllerLinux

open Foundation Foundation.Bytes Wpa Wpa.Hostapd

-- Management frames are protected where there is a band that asks for it.
def frequencyBandSettings (frequencyBands : List Ieee80211FrequencyBand) : List Setting :=
  [(ProtocolHostapd.PropertyNameSetBand,
    (frequencyBands.flatMap fun band =>
      ieeeFrequencyBandToHostapdBand band ++ str ",").dropLast)] ++
  if frequencyBands.contains .SixGHz then
    [(ProtocolHostapd.PropertyNameIeee80211W, managementFrameProtectionToPropertyValue .Required)]
  else []

-- What an operation is for: the settings that it leaves behind when it succeeds.
def settingsOf (platform : Platform) : ControllerRequest → List Setting
  | .SetPhyType ieeePhyType => phyTypeProperties ieeePhyType
  | .SetFrequencyBands frequencyBands => frequencyBandSettings frequencyBands
  | .SetAuthenticationAlgorithms algorithms =>
      [authenticationAlgorithmsSetting
        (algorithms.map ieee80211AuthenticationAlgorithmToWpaAuthenticationAlgorithm)]
  | .SetAuthenticationData authenticationData => authenticationSettings authenticationData
  | .SetAkmSuites akmSuites =>
      keyManagementSettings (akmSuites.map ieee80211AkmSuiteToWpaKeyManagement)
  | .SetPairwiseCipherSuites pairwiseCipherSuites =>
      (platform.wpaCipherSuites.visit (ieee80211CipherSuitesToWpaCipherSuites
        platform.cipherSuites pairwiseCipherSuites)).map cipherSetting
  | .SetSsid ssid => [(ProtocolHostapd.PropertyNameSsid, ssid)]
  | .SetNetworkBridge networkBridgeId =>
      [(ProtocolHostapd.PropertyNameBridgeInterface, networkBridgeId)]
  | .SetRadiusConfiguration radiusConfiguration => radiusConfigurationSettings radiusConfiguration
  | .GetOperationalState | .GetCapabilities | .SetOperationalState _ => []

section Installs

variable (platform : Platform) (interfaceName : ByteString)

def Succeeded (status : AccessPointOperationStatus) : Prop := status.code = .Succeeded

theorem not_succeeded_invalid (status : AccessPointOperationStatus) (details : ByteString) :
    ¬ Succeeded (status.withCode .InvalidParameter details) := nofun

theorem not_succeeded_internal (status : AccessPointOperationStatus) (details : ByteString) :
    ¬ Succeeded (status.withCode .InternalError details) := nofun

theorem installs_setProperties {properties rest : List Setting}
    {fail : ByteString → ByteString → ByteString → AccessPointOperationStatus}
    {next : Wpa.Action AccessPointOperationStatus}
    (hproperties : ∀ property ∈ properties, isDrawn property.1 = false)
    (hfail : ∀ key value what, ¬ Succeeded (fail key value what))
    (hnext : Installs Succeeded rest next) :
    Installs Succeeded (properties ++ rest)
      (setProperties properties (fun key value what => .Return (fail key value what)) next) := by
  induction properties with
  | nil => exact hnext
  | cons property properties ih =>
      rw [List.forall_mem_cons] at hproperties
      have hsent : property :: properties ++ rest =
          [(property.1, property.2)] ++ (properties ++ rest) := rfl
      rw [hsent]
      exact Program.outputs_attempt (installs_setProperty hproperties.1 property.2)
        (fun _ => ih hproperties.2) (abandons_fail (hfail property.1 property.2))

theorem installs_setPhyType (ieeePhyType : Ieee80211PhyType) :
    Installs Succeeded (phyTypeProperties ieeePhyType)
      (setPhyType platform interfaceName ieeePhyType) := by
  have hproperties : ∀ property ∈ phyTypeProperties ieeePhyType,
      isDrawn property.1 = false := by
    cases ieeePhyType <;> decide
  rw [← List.append_nil (phyTypeProperties ieeePhyType)]
  apply installs_setProperties hproperties fun key value what => not_succeeded_internal _ _
  apply Program.outputs_before (installs_of_within within_reload)
  · exact fun _ => unseen_within (Program.within_bind (within_getStatus _) fun _ => trivial)
  · exact abandons_fail fun what => not_succeeded_internal _ _

theorem installs_setFrequencyBands (frequencyBands : List Ieee80211FrequencyBand) :
    Installs Succeeded (frequencyBandSettings frequencyBands)
      (setFrequencyBands interfaceName frequencyBands) := by
  unfold setFrequencyBands frequencyBandSettings
  by_cases hempty : frequencyBands = []
  · rw [if_pos hempty]
    exact installs_refuse (not_succeeded_invalid _ _)
  · rw [if_neg hempty]
    apply Program.outputs_attempt (installs_setProperty (by decide) _)
    · intro _
      split_ifs
      · exact installs_report (installs_setProperty (by decide) _) (fun _ => trivial)
          fun what => not_succeeded_internal _ _
      · exact Program.outputs_return _
    · exact abandons_fail fun what => not_succeeded_internal _ _

theorem installs_setAuthenticationAlgorithms
    (algorithms : List Ieee80211AuthenticationAlgorithm) :
    Installs Succeeded
      [authenticationAlgorithmsSetting
        (algorithms.map ieee80211AuthenticationAlgorithmToWpaAuthenticationAlgorithm)]
      (setAuthenticationAlgorithms interfaceName algorithms) := by
  unfold setAuthenticationAlgorithms
  dsimp only
  split_ifs
  · exact installs_refuse (not_succeeded_invalid _ _)
  · exact installs_report (Hostapd.installs_setAuthenticationAlgorithms _) (fun _ => trivial)
      fun what => not_succeeded_internal _ _

theorem installs_setAuthenticationData (authenticationData : Ieee80211AuthenticationData) :
    Installs Succeeded (authenticationSettings authenticationData)
      (setAuthenticationData interfaceName authenticationData) := by
  obtain ⟨psk, sae⟩ := authenticationData
  unfold setAuthenticationData authenticationSettings
  dsimp only
  by_cases hgiven : (psk.isNone && sae.isNone) = true
  · rw [if_pos hgiven]
    exact installs_refuse (not_succeeded_invalid _ _)
  · rw [if_neg hgiven]
    cases sae with
    | none =>
        cases psk with
        | none => exact Program.outputs_return _
        | some psk =>
            exact Program.outputs_attempt (installs_setPreSharedKey _)
              (fun _ => Program.outputs_return _)
              (abandons_fail fun what => not_succeeded_internal _ _)
    | some passwords =>
        have hsae {status : AccessPointOperationStatus} {details : ByteString → ByteString} :
            Installs Succeeded
              (saePasswordSettings (passwords.map ieee80211RsnaPasswordToWpaSaePassword))
              ((setSaePasswords (passwords.map ieee80211RsnaPasswordToWpaSaePassword) .Now).attempt
                (fun _ => .Return status.succeed)
                (catching fun what => .Return (status.withCode .InternalError (details what)))) :=
          installs_report (installs_setSaePasswords _) (fun _ => trivial)
            fun what => not_succeeded_internal _ _
        cases psk with
        | none => exact hsae
        | some psk =>
            exact Program.outputs_attempt (installs_setPreSharedKey _) (fun _ => hsae)
              (abandons_fail fun what => not_succeeded_internal _ _)

theorem installs_setAkmSuites (akmSuites : List Ieee80211AkmSuite) :
    Installs Succeeded (keyManagementSettings (akmSuites.map ieee80211AkmSuiteToWpaKeyManagement))
      (setAkmSuites platform interfaceName akmSuites) := by
  unfold setAkmSuites
  dsimp only
  split_ifs
  · exact installs_refuse (not_succeeded_invalid _ _)
  · apply installs_report (installs_setKeyManagement _)
    · intro _
      apply Program.within_bind (within_getConfiguration _)
      intro configuration
      exact Program.within_bind (Program.within_ofExcept _) fun _ => trivial
    · exact fun what => not_succeeded_internal _ _

theorem installs_setPairwiseCipherSuites (pairwiseCipherSuites : CipherSuites) :
    Installs Succeeded (settingsOf platform (.SetPairwiseCipherSuites pairwiseCipherSuites))
      (setPairwiseCipherSuites platform interfaceName pairwiseCipherSuites) := by
  unfold setPairwiseCipherSuites
  dsimp only
  split_ifs
  · exact installs_refuse (not_succeeded_invalid _ _)
  · apply installs_report (Hostapd.installs_setPairwiseCipherSuites _ _)
    · exact fun _ => Program.within_bind (within_getConfiguration _) fun _ => trivial
    · exact fun what => not_succeeded_internal _ _

theorem installs_setSsid (ssid : ByteString) :
    Installs Succeeded [(ProtocolHostapd.PropertyNameSsid, ssid)]
      (setSsid platform interfaceName ssid) := by
  unfold setSsid
  dsimp only
  split_ifs
  · exact installs_refuse (not_succeeded_invalid _ _)
  · apply installs_report (installs_setProperty (by decide) _)
    · exact fun _ => Program.within_bind (within_getConfiguration _) fun _ => trivial
    · exact fun what => not_succeeded_internal _ _

theorem installs_setRadiusConfiguration (radiusConfiguration : Ieee8021xRadiusConfiguration) :
    Installs Succeeded (radiusConfigurationSettings radiusConfiguration)
      (setRadiusConfiguration interfaceName radiusConfiguration) := by
  have hfail (details : ByteString) (fault : Fault) :=
    abandons_fail (fun what => not_succeeded_internal
      ⟨interfaceName, str "SetRadiusConfiguration", [], .Unknown⟩ (details ++ what)) fault
  apply Program.outputs_attempt (installs_addRadiusEndpoints _)
  · intro _
    apply Program.outputs_attempt (installs_setProperty (by decide) _)
    · intro _
      apply Program.outputs_before (installs_setProperty (by decide) _)
      · exact fun _ => unseen_within (Program.within_attempt within_reload (fun _ => trivial)
          (within_catching fun what => trivial))
      · exact hfail _
    · exact hfail _
  · exact hfail _

theorem installs_perform (request : ControllerRequest) :
    Installs (fun result => Succeeded result.1) (settingsOf platform request)
      (perform platform interfaceName request) := by
  have hmap {sent : List Setting} {program : Wpa.Action AccessPointOperationStatus}
      (h : Installs Succeeded sent program) :
      Installs (fun result : AccessPointOperationStatus × Unit => Succeeded result.1) sent
        ((·, ()) <$> program) :=
    Program.outputs_map (fun _ hvalue => hvalue) h
  cases request with
  | GetOperationalState => exact installs_of_within (within_perform platform interfaceName nofun)
  | GetCapabilities => exact installs_of_within (within_perform platform interfaceName nofun)
  | SetOperationalState operationalState =>
      exact installs_of_within (within_perform platform interfaceName nofun)
  | SetPhyType ieeePhyType => exact hmap (installs_setPhyType platform interfaceName ieeePhyType)
  | SetFrequencyBands frequencyBands =>
      exact hmap (installs_setFrequencyBands interfaceName frequencyBands)
  | SetAuthenticationAlgorithms algorithms =>
      exact hmap (installs_setAuthenticationAlgorithms interfaceName algorithms)
  | SetAuthenticationData authenticationData =>
      exact hmap (installs_setAuthenticationData interfaceName authenticationData)
  | SetAkmSuites akmSuites => exact hmap (installs_setAkmSuites platform interfaceName akmSuites)
  | SetPairwiseCipherSuites pairwiseCipherSuites =>
      exact hmap (installs_setPairwiseCipherSuites platform interfaceName pairwiseCipherSuites)
  | SetSsid ssid => exact hmap (installs_setSsid platform interfaceName ssid)
  | SetNetworkBridge networkBridgeId =>
      exact hmap (installs_report (installs_setPropertyWith (by decide) _ _) (fun _ => trivial)
        fun what => not_succeeded_internal _ _)
  | SetRadiusConfiguration radiusConfiguration =>
      exact hmap (installs_setRadiusConfiguration interfaceName radiusConfiguration)

end Installs

end NetRemote.Wifi.AccessPointControllerLinux
