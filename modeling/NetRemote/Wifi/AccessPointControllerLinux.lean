import NetRemote.Wifi.AccessPointController
import NetRemote.Wifi.Ieee80211WpaAdapters
import NetRemote.Wpa.Hostapd

namespace NetRemote.Wifi

open Foundation Foundation.Bytes Wpa Netlink

-- The choices that the language leaves open.
structure Platform extends Wpa.Platform where
  cipherSuites : Table.Traversal Ieee80211SecurityProtocol (List Ieee80211CipherSuite)
  bands : Table.Traversal Nl80211Band Nl80211WiphyBand

def nl80211WpaVersionToIeee80211SecurityProtocol (nl80211WpaVersion : UInt32) :
    Ieee80211SecurityProtocol :=
  if nl80211WpaVersion = NL80211_WPA_VERSION_1 then .Wpa
  else if nl80211WpaVersion = NL80211_WPA_VERSION_2 then .Wpa2
  else if nl80211WpaVersion = NL80211_WPA_VERSION_3 then .Wpa3
  else .Unknown

def nl80211CipherSuiteToIeee80211CipherSuite (nl80211CipherSuite : UInt32) :
    Ieee80211CipherSuite := .ofValue nl80211CipherSuite

def nl80211AkmSuiteToIeee80211AkmSuite (nl80211AkmSuite : UInt32) : Ieee80211AkmSuite :=
  .ofValue nl80211AkmSuite

-- The 60 GHz band is taken for the 6 GHz band.
def nl80211BandToIeee80211FrequencyBand : Nl80211Band → Ieee80211FrequencyBand
  | .NL80211_BAND_2GHZ => .TwoPointFourGHz
  | .NL80211_BAND_5GHZ => .FiveGHz
  | .NL80211_BAND_60GHZ => .SixGHz
  | .NL80211_BAND_6GHZ | .NL80211_BAND_S1GHZ | .NL80211_BAND_LC => .Unknown

def nl80211WiphyToIeee80211PhyTypes (platform : Platform) (nl80211Wiphy : Nl80211Wiphy) :
    List Ieee80211PhyType :=
  let phyTypes := [.B, .G] ++ (platform.bands.visit nl80211Wiphy.bands).flatMap fun entry =>
    (if entry.2.htCapabilities ≠ 0 then [.N] else []) ++
      (if entry.2.vhtCapabilities ≠ 0 then [.AC] else [])
  unique (phyTypes.mergeSort fun one other => one.ctorIdx ≤ other.ctorIdx)
where
  -- Runs of equal elements are reduced to one.
  unique : List Ieee80211PhyType → List Ieee80211PhyType
    | [] => []
    | [phyType] => [phyType]
    | phyType :: next :: rest =>
        if phyType = next then unique (next :: rest) else phyType :: unique (next :: rest)

namespace AccessPointControllerLinux

variable (platform : Platform) (interfaceName : ByteString)

-- Nothing here catches what the lookup of the wiphy throws.
def getCapabilities :
    Wpa.Action (AccessPointOperationStatus × Option Ieee80211AccessPointCapabilities) := do
  let status : AccessPointOperationStatus := ⟨interfaceName, str "GetCapabilities", [], .Unknown⟩
  let wiphy : Except NetlinkFault (Option Nl80211Wiphy) ←
    Program.ask (E := System) (.WiphyFromInterfaceName interfaceName)
  match ← Program.ofExcept (wiphy.mapError Fault.Netlink) with
  | none =>
      .Return (status.withCode .AccessPointInvalid (str "failed to get wiphy for interface"), none)
  | some wiphy =>
      let capabilities : Ieee80211AccessPointCapabilities :=
        { phyTypes := nl80211WiphyToIeee80211PhyTypes platform wiphy
          frequencyBands := (platform.bands.visit wiphy.bands).map fun entry =>
            nl80211BandToIeee80211FrequencyBand entry.1
          akmSuites := wiphy.akmSuites.map nl80211AkmSuiteToIeee80211AkmSuite
          cipherSuites := wiphy.cipherSuites.map nl80211CipherSuiteToIeee80211CipherSuite
          securityProtocols := wiphy.wpaVersions.map nl80211WpaVersionToIeee80211SecurityProtocol }
      .Return (status.succeed, some capabilities)

def getOperationalState :
    Wpa.Action (AccessPointOperationStatus × Option AccessPointOperationalState) := do
  let status : AccessPointOperationStatus :=
    ⟨interfaceName, str "GetOperationalState", [], .Unknown⟩
  if !(← Hostapd.isActive) then .Return (status.succeed, some .Disabled)
  else
    (Hostapd.getStatus platform.toPlatform).attempt
      (fun hostapdStatus =>
        let operationalState :=
          if hostapdStatus.state = .Enabled then .Enabled else .Disabled
        .Return (status.succeed, some operationalState))
      (catching fun what =>
        let details := str "failed to get operational state - " ++ what
        .Return (status.withCode .InternalError details, none))

-- The state that is read back afterwards is only logged.
def setOperationalStateBy (change : Wpa.Action Unit) (name : ByteString) :
    Wpa.Action AccessPointOperationStatus := do
  let status : AccessPointOperationStatus :=
    ⟨interfaceName, str "SetOperationalState", [], .Unknown⟩
  let status ← change.attempt (fun _ => .Return status.succeed) <| catching fun what =>
    .Return (status.withCode .InternalError
      (str "failed to set operational state to '" ++ name ++ str "' (" ++ what ++ str ")"))
  let _ ← getOperationalState platform interfaceName
  .Return status

def setOperationalState : AccessPointOperationalState → Wpa.Action AccessPointOperationStatus
  | .Enabled =>
      setOperationalStateBy platform interfaceName (Hostapd.enable platform.toPlatform)
        (str "enabled")
  | .Disabled =>
      setOperationalStateBy platform interfaceName (Hostapd.disable platform.toPlatform)
        (str "disabled")

def phyTypeProperties (ieeePhyType : Ieee80211PhyType) : List (ByteString × ByteString) :=
  let hwModeValue := hostapdHwModePropertyValue (ieeePhyTypeToHostapdHwMode ieeePhyType)
  let propertiesN :=
    [(ProtocolHostapd.PropertyNameWmmEnabled, ProtocolHostapd.PropertyEnabled),
      (ProtocolHostapd.PropertyNameIeee80211N, ProtocolHostapd.PropertyEnabled),
      (ProtocolHostapd.PropertyNameDisable11N, ProtocolHostapd.PropertyDisabled)]
  let propertiesAC :=
    [(ProtocolHostapd.PropertyNameIeee80211AC, ProtocolHostapd.PropertyEnabled),
      (ProtocolHostapd.PropertyNameDisable11AC, ProtocolHostapd.PropertyDisabled)]
  let propertiesAX :=
    [(ProtocolHostapd.PropertyNameIeee80211AX, ProtocolHostapd.PropertyEnabled),
      (ProtocolHostapd.PropertyNameDisable11AX, ProtocolHostapd.PropertyDisabled)]
  (ProtocolHostapd.PropertyNameHwMode, hwModeValue) ::
    match ieeePhyType with
    | .AX => propertiesAX ++ propertiesAC ++ propertiesN
    | .AC => propertiesAC ++ propertiesN
    | .N => propertiesN
    | _ => []

-- A property that cannot be set ends the operation, whose details name it.
def setProperties (properties : List (ByteString × ByteString))
    (onFailure : ByteString → ByteString → ByteString → Wpa.Action AccessPointOperationStatus)
    (next : Wpa.Action AccessPointOperationStatus) : Wpa.Action AccessPointOperationStatus :=
  match properties with
  | [] => next
  | (propertyKeyToSet, propertyValueToSet) :: properties =>
      (Hostapd.setProperty propertyKeyToSet propertyValueToSet .Defer).attempt
        (fun _ => setProperties properties onFailure next)
        (catching (onFailure propertyKeyToSet propertyValueToSet))

-- What the status says about the protocols is only logged.
def setPhyType (ieeePhyType : Ieee80211PhyType) : Wpa.Action AccessPointOperationStatus :=
  let status : AccessPointOperationStatus :=
    ⟨interfaceName, str "SetPhyType 802.11 " ++ ieeePhyType.enumName, [], .Unknown⟩
  setProperties (phyTypeProperties ieeePhyType)
    (fun propertyKeyToSet propertyValueToSet what =>
      .Return (status.withCode .InternalError (str "failed to set hostapd property '" ++
        propertyKeyToSet ++ str "' to '" ++ propertyValueToSet ++ str "' - " ++ what)))
    (Hostapd.reload.attempt
      (fun _ => do
        let _ ← Hostapd.getStatus platform.toPlatform
        .Return status.succeed)
      (catching fun what =>
        .Return (status.withCode .InternalError
          (str "failed to reload hostapd configuration - " ++ what))))

def setFrequencyBands (frequencyBands : List Ieee80211FrequencyBand) :
    Wpa.Action AccessPointOperationStatus :=
  let status : AccessPointOperationStatus := ⟨interfaceName, str "SetFrequencyBands", [], .Unknown⟩
  if frequencyBands = [] then
    .Return (status.withCode .InvalidParameter (str "no frequency bands specified"))
  else
    let setBandArgument := (frequencyBands.flatMap fun band =>
      ieeeFrequencyBandToHostapdBand band ++ str ",").dropLast
    (Hostapd.setProperty ProtocolHostapd.PropertyNameSetBand setBandArgument .Defer).attempt
      (fun _ =>
        if frequencyBands.contains .SixGHz then
          (Hostapd.setProperty ProtocolHostapd.PropertyNameIeee80211W
              (managementFrameProtectionToPropertyValue .Required) .Defer).attempt
            (fun _ => .Return status.succeed)
            (catching fun what =>
              .Return (status.withCode .InternalError
                (str "failed to enable protected management frames for 6GHz - " ++ what)))
        else .Return status.succeed)
      (catching fun what =>
        .Return (status.withCode .InternalError (str "failed to set hostapd property '" ++
          ProtocolHostapd.PropertyNameSetBand ++ str "' to '" ++ setBandArgument ++ str "' - " ++
          what)))

def setAuthenticationAlgorithms
    (authenticationAlgorithms : List Ieee80211AuthenticationAlgorithm) :
    Wpa.Action AccessPointOperationStatus :=
  let status : AccessPointOperationStatus :=
    ⟨interfaceName, str "SetAuthenticationAlgorithms", [], .Unknown⟩
  if authenticationAlgorithms = [] then
    .Return (status.withCode .InvalidParameter (str "no authentication algorithms specified"))
  else
    let authenticationAlgorithmsHostapd := authenticationAlgorithms.map
      ieee80211AuthenticationAlgorithmToWpaAuthenticationAlgorithm
    (Hostapd.setAuthenticationAlgorithms authenticationAlgorithmsHostapd .Now).attempt
      (fun _ => .Return status.succeed)
      (catching fun what =>
        .Return (status.withCode .InternalError
          (str "failed to set authentication algorithms - " ++ what)))

def setAuthenticationData (authenticationData : Ieee80211AuthenticationData) :
    Wpa.Action AccessPointOperationStatus :=
  let status : AccessPointOperationStatus :=
    ⟨interfaceName, str "SetAuthenticationData", [], .Unknown⟩
  if authenticationData.psk.isNone && authenticationData.sae.isNone then
    .Return (status.withCode .InvalidParameter (str "no authentication data specified"))
  else
    let setSae : Wpa.Action AccessPointOperationStatus :=
      match authenticationData.sae with
      | none => .Return status.succeed
      | some passwords =>
          let wpaSaePasswords := passwords.map ieee80211RsnaPasswordToWpaSaePassword
          (Hostapd.setSaePasswords wpaSaePasswords .Now).attempt
            (fun _ => .Return status.succeed)
            (catching fun what =>
              .Return (status.withCode .InternalError
                (str "failed to set SAE passwords - " ++ what)))
    match authenticationData.psk with
    | none => setSae
    | some psk =>
        (Hostapd.setPreSharedKey (ieee80211RsnaPskToWpaSharedKey psk) .Now).attempt
          (fun _ => setSae)
          (catching fun what =>
            .Return (status.withCode .InternalError
              (str "failed to set PSK authentication data - " ++ what)))

-- `std::equal` with the end of the first range only: the elements are compared
-- one by one until they differ, also past the end of a second range that is
-- shorter.
def equal {α : Type} [DecidableEq α] : List α → List α → Except Fault Bool
  | [], _ => .ok true
  | _ :: _, [] => .error .UndefinedBehavior
  | x :: xs, y :: ys => if x = y then equal xs ys else .ok false

-- The configuration that is read back decides about the log only, but the
-- comparison is made.
def setAkmSuites (akmSuites : List Ieee80211AkmSuite) : Wpa.Action AccessPointOperationStatus :=
  let status : AccessPointOperationStatus := ⟨interfaceName, str "SetAkmSuites", [], .Unknown⟩
  if akmSuites = [] then
    .Return (status.withCode .InvalidParameter (str "no akm suites specified"))
  else
    let wpaKeyManagements := akmSuites.map ieee80211AkmSuiteToWpaKeyManagement
    (Hostapd.setKeyManagement wpaKeyManagements .Now).attempt
      (fun _ => do
        let hostapdBssConfiguration ← Hostapd.getConfiguration platform.toPlatform
        let _ ← Program.ofExcept (equal wpaKeyManagements hostapdBssConfiguration.wpaKeyMgmt)
        .Return status.succeed)
      (catching fun what =>
        .Return (status.withCode .InternalError (str "failed to set akm suites - " ++ what)))

def setPairwiseCipherSuites (pairwiseCipherSuites : CipherSuites) :
    Wpa.Action AccessPointOperationStatus :=
  let status : AccessPointOperationStatus :=
    ⟨interfaceName, str "SetPairwiseCipherSuites", [], .Unknown⟩
  if pairwiseCipherSuites = ∅ then
    .Return (status.withCode .InvalidParameter (str "no pairwise cipher suites specified"))
  else
    let pairwiseCipherSuitesHostapd :=
      ieee80211CipherSuitesToWpaCipherSuites platform.cipherSuites pairwiseCipherSuites
    (Hostapd.setPairwiseCipherSuites platform.toPlatform pairwiseCipherSuitesHostapd .Now).attempt
      (fun _ => do
        let _ ← Hostapd.getConfiguration platform.toPlatform
        .Return status.succeed)
      (catching fun what =>
        .Return (status.withCode .InternalError
          (str "failed to set pairwise cipher suites - " ++ what)))

def setSsid (ssid : ByteString) : Wpa.Action AccessPointOperationStatus :=
  let status : AccessPointOperationStatus := ⟨interfaceName, str "SetSsid", [], .Unknown⟩
  if ssid = [] then .Return (status.withCode .InvalidParameter (str "empty SSID specified"))
  else
    (Hostapd.setProperty ProtocolHostapd.PropertyNameSsid ssid .Now).attempt
      (fun _ => do
        let _ ← Hostapd.getConfiguration platform.toPlatform
        .Return status.succeed)
      (catching fun what =>
        .Return (status.withCode .InternalError
          (str "failed to set 'ssid' property to " ++ ssid ++ str " - " ++ what)))

def setNetworkBridge (networkBridgeId : ByteString) : Wpa.Action AccessPointOperationStatus :=
  let status : AccessPointOperationStatus := ⟨interfaceName, str "SetNetworkBridge", [], .Unknown⟩
  (Hostapd.setBridgeInterface networkBridgeId .Now).attempt
    (fun _ => .Return status.succeed)
    (catching fun what =>
      .Return (status.withCode .InternalError
        (str "failed to set bridge interface to " ++ networkBridgeId ++ str " - " ++ what)))

def radiusEndpointConfigurations (radiusConfiguration : Ieee8021xRadiusConfiguration) :
    List RadiusEndpointConfiguration :=
  ([radiusConfiguration.authenticationServer] ++ radiusConfiguration.accountingServer.toList ++
      radiusConfiguration.fallbackServers).map
    ieee8021xRadiusServerEndpointConfigurationToWpaRadiusEndpointConfiguration

def setRadiusConfiguration (radiusConfiguration : Ieee8021xRadiusConfiguration) :
    Wpa.Action AccessPointOperationStatus :=
  let status : AccessPointOperationStatus :=
    ⟨interfaceName, str "SetRadiusConfiguration", [], .Unknown⟩
  let failed (details what : ByteString) : Wpa.Action AccessPointOperationStatus :=
    .Return (status.withCode .InternalError (details ++ what))
  (Hostapd.addRadiusEndpoints (radiusEndpointConfigurations radiusConfiguration) .Defer).attempt
    (fun _ =>
      (Hostapd.setProperty ProtocolHostapd.PropertyNameEapServer ProtocolHostapd.PropertyDisabled
          .Defer).attempt
        (fun _ =>
          (Hostapd.setProperty ProtocolHostapd.PropertyNameOwnIpAddr Hostapd.getIpAddress
              .Defer).attempt
            (fun _ =>
              Hostapd.reload.attempt
                (fun _ => .Return status.succeed)
                (catching (failed (str
                  "failed to reload hostapd configuration for RADIUS configuration change - "))))
            (catching (failed (str "failed to set 'own_ip_addr' property - "))))
        (catching (failed (str "failed to disable internal EAP server - "))))
    (catching (failed (str "failed to add RADIUS endpoint configurations to hostapd - ")))

def perform : (request : ControllerRequest) →
    Wpa.Action (AccessPointOperationStatus × request.Result)
  | .GetOperationalState => getOperationalState platform interfaceName
  | .GetCapabilities => getCapabilities platform interfaceName
  | .SetOperationalState operationalState =>
      (·, ()) <$> setOperationalState platform interfaceName operationalState
  | .SetPhyType ieeePhyType => (·, ()) <$> setPhyType platform interfaceName ieeePhyType
  | .SetFrequencyBands frequencyBands => (·, ()) <$> setFrequencyBands interfaceName frequencyBands
  | .SetAuthenticationAlgorithms authenticationAlgorithms =>
      (·, ()) <$> setAuthenticationAlgorithms interfaceName authenticationAlgorithms
  | .SetAuthenticationData authenticationData =>
      (·, ()) <$> setAuthenticationData interfaceName authenticationData
  | .SetAkmSuites akmSuites => (·, ()) <$> setAkmSuites platform interfaceName akmSuites
  | .SetPairwiseCipherSuites pairwiseCipherSuites =>
      (·, ()) <$> setPairwiseCipherSuites platform interfaceName pairwiseCipherSuites
  | .SetSsid ssid => (·, ()) <$> setSsid platform interfaceName ssid
  | .SetNetworkBridge networkBridgeId => (·, ()) <$> setNetworkBridge interfaceName networkBridgeId
  | .SetRadiusConfiguration radiusConfiguration =>
      (·, ()) <$> setRadiusConfiguration interfaceName radiusConfiguration

end AccessPointControllerLinux

end NetRemote.Wifi
