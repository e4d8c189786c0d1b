import NetRemote.Service.Adapters
import NetRemote.Wifi.AccessPointControllerLinux

namespace NetRemote.Service

open Foundation Foundation.Bytes Api Wifi Wpa

-- The interfaces that the service is written against. Which requests stand behind
-- a controller is left to the implementation.
abbrev IAccessPointController (E : Environment) :=
  (request : ControllerRequest) → Program E Fault (AccessPointOperationStatus × request.Result)

-- The attempt to create a controller gives none, or it throws.
structure IAccessPoint (E : Environment) where
  interfaceName : ByteString
  createController : Except Fault (Option (IAccessPointController E))

-- What is found is a weak reference, and the access point can be gone.
structure IAccessPointManager (E : Environment) where
  getAccessPoint : ByteString → Option (Option (IAccessPoint E))

-- The choices that the language leaves open.
structure Platform extends toWifi : Wifi.Platform where
  dot11CipherSuites : Table.Traversal Dot11SecurityProtocol (List Dot11CipherSuite)

-- Every operation of the controller is `noexcept`.
def accessPointControllerLinux (platform : Wifi.Platform) (interfaceName : ByteString) :
    IAccessPointController System := fun request =>
  (AccessPointControllerLinux.perform platform interfaceName request).attempt .Return fun _ =>
    .Throw .Terminate

namespace NetRemoteService

variable {E : Environment} (platform : Platform) (accessPointManager : IAccessPointManager E)
  (accessPointId : ByteString) (accessPointController : Option (IAccessPointController E))

def failed (code : WifiAccessPointOperationStatusCode) (message : ByteString) :
    WifiAccessPointOperationStatus := ⟨code, message⟩

def tryGetAccessPoint : AccessPointOperationStatus × Option (IAccessPoint E) :=
  let operationStatus : AccessPointOperationStatus :=
    ⟨accessPointId, str "TryGetAccessPoint", [], .Unknown⟩
  match accessPointManager.getAccessPoint accessPointId with
  | none =>
      (operationStatus.withCode .AccessPointInvalid (str "access point not found"), none)
  | some none =>
      (operationStatus.withCode .AccessPointInvalid (str "access point no longer valid"), none)
  | some (some accessPoint) => (operationStatus.succeed, some accessPoint)

def tryGetAccessPointController :
    Program E Fault (AccessPointOperationStatus × Option (IAccessPointController E)) :=
  match tryGetAccessPoint accessPointManager accessPointId with
  | (operationStatus, none) => .Return (operationStatus, none)
  | (_, some accessPoint) => do
      let operationStatus : AccessPointOperationStatus :=
        ⟨accessPoint.interfaceName, str "TryGetAccessPointController", [], .Unknown⟩
      match ← Program.ofExcept accessPoint.createController with
      | none =>
          .Return (operationStatus.withCode .InternalError
            (str "failed to create access point controller"), none)
      | some accessPointController => .Return (operationStatus.succeed, some accessPointController)

-- Two of the callers have a message with one placeholder less.
def withAccessPointController (message : AccessPointOperationStatus → ByteString)
    (next : IAccessPointController E → Program E Fault WifiAccessPointOperationStatus) :
    Program E Fault WifiAccessPointOperationStatus :=
  match accessPointController with
  | some accessPointController => next accessPointController
  | none => do
      match ← tryGetAccessPointController accessPointManager accessPointId with
      | (_, some accessPointController) => next accessPointController
      | (operationStatus, none) =>
          .Return (failed (toDot11AccessPointOperationStatusCode operationStatus.code)
            (message operationStatus))

def failedToCreate (operationStatus : AccessPointOperationStatus) : ByteString :=
  str "Failed to create access point controller for access point " ++ accessPointId ++ str " - " ++
    operationStatus.toString

def failedToCreateBrief (_ : AccessPointOperationStatus) : ByteString :=
  str "Failed to create access point controller for access point - " ++ accessPointId

def failedTo (what : ByteString) (operationStatus : AccessPointOperationStatus) :
    WifiAccessPointOperationStatus :=
  failed (toDot11AccessPointOperationStatusCode operationStatus.code)
    (what ++ str " for access point " ++ accessPointId ++ str " - " ++ operationStatus.toString)

def settle (what : ByteString) (operationStatus : AccessPointOperationStatus) :
    WifiAccessPointOperationStatus :=
  if operationStatus.succeeded then { code := .Succeeded }
  else failedTo accessPointId what operationStatus

def wifiAccessPointSetPhyTypeImpl (dot11PhyType : Dot11PhyType) :
    Program E Fault WifiAccessPointOperationStatus :=
  if dot11PhyType = Dot11PhyTypeUnknown then
    .Return (failed .InvalidParameter (str "No PHY type provided"))
  else
    withAccessPointController accessPointManager accessPointId accessPointController
      (failedToCreate accessPointId) fun accessPointController => do
        let ieee80211PhyType := fromDot11PhyType dot11PhyType
        let (operationStatus, accessPointCapabilities) ← accessPointController .GetCapabilities
        if !operationStatus.succeeded then
          .Return (failedTo accessPointId (str "Failed to get capabilities") operationStatus)
        else if !((accessPointCapabilities : Option Ieee80211AccessPointCapabilities).getD
            {}).phyTypes.contains ieee80211PhyType then
          .Return (failed .OperationNotSupported (str "PHY type '" ++ ieee80211PhyType.enumName ++
            str "' not supported by access point " ++ accessPointId))
        else do
          let (operationStatus, _) ← accessPointController (.SetPhyType ieee80211PhyType)
          .Return (settle accessPointId (str "Failed to set PHY type") operationStatus)

def wifiAccessPointSetFrequencyBandsImpl (dot11FrequencyBands : List Dot11FrequencyBand) :
    Program E Fault WifiAccessPointOperationStatus :=
  if dot11FrequencyBands = [] then
    .Return (failed .InvalidParameter (str "No frequency band provided"))
  else if dot11FrequencyBands.contains Dot11FrequencyBandUnknown then
    .Return (failed .InvalidParameter (str "Invalid frequency band provided"))
  else
    withAccessPointController accessPointManager accessPointId accessPointController
      (failedToCreateBrief accessPointId) fun accessPointController => do
        let ieee80211FrequencyBands := dot11FrequencyBands.map fromDot11FrequencyBand
        let (operationStatus, accessPointCapabilities) ← accessPointController .GetCapabilities
        if !operationStatus.succeeded then
          .Return (failedTo accessPointId (str "Failed to get capabilities") operationStatus)
        else
          match ieee80211FrequencyBands.find? fun requestedFrequencyBand =>
              !((accessPointCapabilities : Option Ieee80211AccessPointCapabilities).getD
                {}).frequencyBands.contains requestedFrequencyBand with
          | some requestedFrequencyBand =>
              .Return (failed .OperationNotSupported (str "Frequency band '" ++
                requestedFrequencyBand.enumName ++ str "' not supported by access point " ++
                accessPointId))
          | none => do
              let (operationStatus, _) ←
                accessPointController (.SetFrequencyBands ieee80211FrequencyBands)
              .Return (settle accessPointId (str "Failed to set frequency bands") operationStatus)

def wifiAccessPointSetNetworkBridgeImpl (networkBridgeId : ByteString) :
    Program E Fault WifiAccessPointOperationStatus :=
  withAccessPointController accessPointManager accessPointId accessPointController
    (failedToCreateBrief accessPointId) fun accessPointController => do
      let (operationStatus, _) ← accessPointController (.SetNetworkBridge networkBridgeId)
      .Return (settle accessPointId (str "Failed to set network bridge") operationStatus)

-- The list is checked for the unknown value before and after its conversion.
def wifiAccessPointSetAuthenticationAlgorithmsImpl
    (dot11AuthenticationAlgorithms : List Dot11AuthenticationAlgorithm) :
    Program E Fault WifiAccessPointOperationStatus :=
  if dot11AuthenticationAlgorithms = [] then
    .Return (failed .InvalidParameter (str "No authentication algorithms provided"))
  else if dot11AuthenticationAlgorithms.contains Dot11AuthenticationAlgorithmUnknown then
    .Return (failed .InvalidParameter (str "Invalid authentication algorithm provided"))
  else
    withAccessPointController accessPointManager accessPointId accessPointController
      (failedToCreate accessPointId) fun accessPointController => do
        let ieee80211AuthenticationAlgorithms :=
          dot11AuthenticationAlgorithms.map fromDot11AuthenticationAlgorithm
        if ieee80211AuthenticationAlgorithms.contains .Unknown then
          .Return (failed .InvalidParameter (str "Invalid authentication algorithm provided"))
        else do
          let (operationStatus, _) ← accessPointController
            (.SetAuthenticationAlgorithms ieee80211AuthenticationAlgorithms)
          .Return (settle accessPointId (str "Failed to set authentication algorithms")
            operationStatus)

def validatePsk (psk : Dot11RsnaPsk) : Option ByteString :=
  match psk.data with
  | none => str "No PSK value or passphrase provided"
  | some (.Passphrase pskPassphrase) =>
      if pskPassphrase = [] then str "No PSK passphrase provided (empty)"
      else if pskPassphrase.length < Ieee80211RsnaPskPassphraseLengthMinimum ∨
          Ieee80211RsnaPskPassphraseLengthMaximum < pskPassphrase.length then
        str "Invalid PSK passphrase size '" ++ decimal pskPassphrase.length ++
          str "' provided (expected " ++ decimal Ieee80211RsnaPskPassphraseLengthMinimum ++
          str " to " ++ decimal Ieee80211RsnaPskPassphraseLengthMaximum ++ str " characters)"
      else none
  | some (.Value pskValue) =>
      match pskValue.data with
      | none => str "No PSK value data provided"
      | some (.Hex pskHex) =>
          if pskHex.length ≠ Ieee80211RsnaPskLength * 2 then
            str "Invalid PSK hex value size '" ++ decimal pskHex.length ++
              str "' provided (expected " ++ decimal (Ieee80211RsnaPskLength * 2) ++
              str " characters)"
          else none
      | some (.Raw pskRaw) =>
          if pskRaw.length ≠ Ieee80211RsnaPskLength then
            str "Invalid PSK raw value size '" ++ decimal pskRaw.length ++
              str "' provided (expected " ++ decimal Ieee80211RsnaPskLength ++ str " bytes)"
          else none

-- The message about the first thing that is wrong.
def validateAuthenticationData (dot11AuthenticationData : Dot11AuthenticationData) :
    Option ByteString :=
  if dot11AuthenticationData.psk.isNone && dot11AuthenticationData.sae.isNone then
    str "No authentication data provided"
  else
    (dot11AuthenticationData.psk.bind fun dataPsk =>
      match dataPsk.psk with
      | none => some (str "No PSK data provided")
      | some psk => validatePsk psk).or
    (dot11AuthenticationData.sae.bind fun dataSae =>
      if dataSae.passwords = [] then some (str "No SAE passwords provided") else none)

def wifiAccessPointSetAuthenticationDataImpl (dot11AuthenticationData : Dot11AuthenticationData) :
    Program E Fault WifiAccessPointOperationStatus :=
  match validateAuthenticationData dot11AuthenticationData with
  | some message => .Return (failed .InvalidParameter message)
  | none =>
      withAccessPointController accessPointManager accessPointId accessPointController
        (failedToCreate accessPointId) fun accessPointController => do
          let ieee80211AuthenticationData := fromDot11AuthenticationData dot11AuthenticationData
          let (operationStatus, _) ←
            accessPointController (.SetAuthenticationData ieee80211AuthenticationData)
          .Return (settle accessPointId (str "Failed to set authentication data") operationStatus)

def wifiAccessPointSetAkmSuitesImpl (dot11AkmSuites : List Dot11AkmSuite) :
    Program E Fault WifiAccessPointOperationStatus :=
  if dot11AkmSuites = [] then .Return (failed .InvalidParameter (str "No akm suites provided"))
  else if dot11AkmSuites.contains Dot11AkmSuiteUnknown then
    .Return (failed .InvalidParameter (str "Invalid akm suite provided"))
  else
    withAccessPointController accessPointManager accessPointId accessPointController
      (failedToCreate accessPointId) fun accessPointController => do
        let ieee80211AkmSuites := dot11AkmSuites.map fromDot11AkmSuite
        if ieee80211AkmSuites.contains .Unknown then
          .Return (failed .InvalidParameter (str "Invalid akm suite provided"))
        else do
          let (operationStatus, _) ← accessPointController (.SetAkmSuites ieee80211AkmSuites)
          .Return (settle accessPointId (str "Failed to set akm suites") operationStatus)

-- Only the protocols are checked, not their ciphers.
def wifiAccessPointSetPairwiseCipherSuitesImpl
    (dot11PairwiseCipherSuites : Table Dot11SecurityProtocol (List Dot11CipherSuite)) :
    Program E Fault WifiAccessPointOperationStatus :=
  if dot11PairwiseCipherSuites = ∅ then
    .Return (failed .InvalidParameter (str "No cipher suites provided"))
  else if Dot11SecurityProtocolUnknown ∈ dot11PairwiseCipherSuites then
    .Return (failed .InvalidParameter (str "Invalid security protocol provided"))
  else
    withAccessPointController accessPointManager accessPointId accessPointController
      (failedToCreate accessPointId) fun accessPointController => do
        let ieee80211CipherSuites := fromDot11CipherSuiteConfigurations platform.dot11CipherSuites
          dot11PairwiseCipherSuites
        if Ieee80211SecurityProtocol.Unknown ∈ ieee80211CipherSuites then
          .Return (failed .InvalidParameter (str "Invalid security protocol provided"))
        else do
          let (operationStatus, _) ←
            accessPointController (.SetPairwiseCipherSuites ieee80211CipherSuites)
          .Return (settle accessPointId (str "Failed to set cipher suites") operationStatus)

-- The hexadecimal form is not decoded.
def wifiAccessPointSetSsidImpl (dot11Ssid : Dot11Ssid) :
    Program E Fault WifiAccessPointOperationStatus :=
  match dot11Ssid.value with
  | none => .Return (failed .InvalidParameter (str "No SSID provided"))
  | some value =>
      withAccessPointController accessPointManager accessPointId accessPointController
        (failedToCreate accessPointId) fun accessPointController => do
          let ssid :=
            match value with
            | .Name name => name
            | .Hex hex => hex
            | .Data data => data
          let (operationStatus, _) ← accessPointController (.SetSsid ssid)
          .Return (settle accessPointId (str "Failed to set SSID") operationStatus)

def validateDot1xRadiusServerEndpointConfiguration
    (dot1xRadiusServerEndpointConfiguration : Dot1xRadiusServerEndpointConfiguration) :
    Option ByteString :=
  if dot1xRadiusServerEndpointConfiguration.address = [] then str "missing address"
  else if dot1xRadiusServerEndpointConfiguration.sharedSecret = [] then str "missing shared secret"
  else none

def getDot1xRadiusServerEndpointName (dot1xRadiusServerEndpoint : Dot1xRadiusServerEndpoint) :
    ByteString :=
  if dot1xRadiusServerEndpoint = Dot1xRadiusServerEndpointAuthentication then str "authentication"
  else if dot1xRadiusServerEndpoint = Dot1xRadiusServerEndpointAccounting then str "accounting"
  else str "unknown"

def validateDot1xRadiusConfiguration (dot1xRadiusConfiguration : Dot1xRadiusConfiguration) :
    Option ByteString :=
  let check (name : ByteString) (configuration : Dot1xRadiusServerEndpointConfiguration) :
      Option ByteString :=
    (validateDot1xRadiusServerEndpointConfiguration configuration).map fun validationError =>
      str "802.1x RADIUS " ++ name ++ str " server configuration " ++ validationError
  match dot1xRadiusConfiguration.authenticationServer with
  | none => str "No 802.1x RADIUS authentication server provided"
  | some authenticationServer =>
      ((check (str "primary authentication") authenticationServer).or
        (dot1xRadiusConfiguration.accountingServer.bind (check (str "primary accounting")))).or
        (dot1xRadiusConfiguration.fallbackServers.findSome? fun fallbackServer =>
          check (str "fallback " ++ getDot1xRadiusServerEndpointName fallbackServer.endpoint)
            fallbackServer)

-- The configuration is validated when the controller is there already.
def wifiAccessPointSetAuthenticationDot1xImpl
    (dot11AuthenticationDot1x : Dot11AuthenticationDot1x) :
    Program E Fault WifiAccessPointOperationStatus :=
  match dot11AuthenticationDot1x.radius with
  | none => .Return (failed .InvalidParameter (str "No 802.1x configuration provided"))
  | some dot1xRadiusConfiguration =>
      withAccessPointController accessPointManager accessPointId accessPointController
        (failedToCreate accessPointId) fun accessPointController =>
          match validateDot1xRadiusConfiguration dot1xRadiusConfiguration with
          | some message => .Return (failed .InvalidParameter message)
          | none => do
              let ieee8021xRadiusConfiguration :=
                fromServiceDot1xRadiusConfiguration dot1xRadiusConfiguration
              let (operationStatus, _) ←
                accessPointController (.SetRadiusConfiguration ieee8021xRadiusConfiguration)
              .Return (settle accessPointId (str "Failed to set 802.1x configuration")
                operationStatus)

-- The items of a configuration that are present, in the order in which they are set.
def configurationItems (accessPointController : IAccessPointController E)
    (dot11AccessPointConfiguration : Dot11AccessPointConfiguration) :
    List (Program E Fault WifiAccessPointOperationStatus) :=
  let controller := some accessPointController
  let dot11AuthenticationData := dot11AccessPointConfiguration.authenticationData.getD {}
  (if dot11AccessPointConfiguration.phyType ≠ Dot11PhyTypeUnknown then
    [wifiAccessPointSetPhyTypeImpl accessPointManager accessPointId controller
      dot11AccessPointConfiguration.phyType]
  else []) ++
  dot11AccessPointConfiguration.authenticationDot1x.toList.map
    (wifiAccessPointSetAuthenticationDot1xImpl accessPointManager accessPointId controller) ++
  (if dot11AccessPointConfiguration.authenticationAlgorithms ≠ [] then
    [wifiAccessPointSetAuthenticationAlgorithmsImpl accessPointManager accessPointId controller
      dot11AccessPointConfiguration.authenticationAlgorithms]
  else []) ++
  (if dot11AuthenticationData.psk.isSome || dot11AuthenticationData.sae.isSome then
    [wifiAccessPointSetAuthenticationDataImpl accessPointManager accessPointId controller
      dot11AuthenticationData]
  else []) ++
  (if dot11AccessPointConfiguration.akmSuites ≠ [] then
    [wifiAccessPointSetAkmSuitesImpl accessPointManager accessPointId controller
      dot11AccessPointConfiguration.akmSuites]
  else []) ++
  (if dot11AccessPointConfiguration.pairwiseCipherSuites ≠ [] then
    [wifiAccessPointSetPairwiseCipherSuitesImpl platform accessPointManager accessPointId controller
      (toDot11CipherSuiteConfigurations dot11AccessPointConfiguration.pairwiseCipherSuites)]
  else []) ++
  dot11AccessPointConfiguration.ssid.toList.map
    (wifiAccessPointSetSsidImpl accessPointManager accessPointId controller) ++
  (if dot11AccessPointConfiguration.frequencyBands ≠ [] then
    [wifiAccessPointSetFrequencyBandsImpl accessPointManager accessPointId controller
      dot11AccessPointConfiguration.frequencyBands]
  else [])

-- The first item that fails ends the call with its status.
def setConfigurationItems (items : List (Program E Fault WifiAccessPointOperationStatus))
    (next : Program E Fault WifiAccessPointOperationStatus) :
    Program E Fault WifiAccessPointOperationStatus :=
  match items with
  | [] => next
  | item :: items => do
      let wifiOperationStatus ← item
      if wifiOperationStatus.code ≠ .Succeeded then .Return wifiOperationStatus
      else setConfigurationItems items next

-- An access point that is in the state already is left alone.
def changeOperationalState (accessPointController : IAccessPointController E)
    (operationalState : AccessPointOperationalState) (name : ByteString) :
    Program E Fault WifiAccessPointOperationStatus := do
  let (operationStatus, currentState) ← accessPointController .GetOperationalState
  if !operationStatus.succeeded then
    .Return (failed (toDot11AccessPointOperationStatusCode operationStatus.code)
      (str "Failed to get operational state for access point " ++ accessPointId))
  else if (currentState : Option AccessPointOperationalState).getD .Disabled = operationalState then
    .Return { code := .Succeeded }
  else do
    let (operationStatus, _) ← accessPointController (.SetOperationalState operationalState)
    if operationStatus.succeeded then .Return { code := .Succeeded }
    else
      .Return (failed (toDot11AccessPointOperationStatusCode operationStatus.code)
        (str "Failed to set operational state to '" ++ name ++ str "' for access point " ++
          accessPointId))

def wifiAccessPointEnableImpl
    (dot11AccessPointConfiguration : Option Dot11AccessPointConfiguration) :
    Program E Fault WifiAccessPointOperationStatus :=
  withAccessPointController accessPointManager accessPointId accessPointController
    (failedToCreate accessPointId) fun accessPointController =>
      setConfigurationItems
        (dot11AccessPointConfiguration.elim []
          (configurationItems platform accessPointManager accessPointId accessPointController))
        (changeOperationalState accessPointId accessPointController .Enabled (str "enabled"))

def wifiAccessPointDisableImpl : Program E Fault WifiAccessPointOperationStatus :=
  withAccessPointController accessPointManager accessPointId accessPointController
    (failedToCreate accessPointId) fun accessPointController =>
      changeOperationalState accessPointId accessPointController .Disabled (str "disabled")

-- The requests, which come without a controller.
def wifiAccessPointEnable (dot11AccessPointConfiguration : Option Dot11AccessPointConfiguration) :
    Program E Fault WifiAccessPointOperationStatus :=
  wifiAccessPointEnableImpl platform accessPointManager accessPointId none
    dot11AccessPointConfiguration

def wifiAccessPointSetAuthenticationDot1x (dot11AuthenticationDot1x : Dot11AuthenticationDot1x) :
    Program E Fault WifiAccessPointOperationStatus :=
  wifiAccessPointSetAuthenticationDot1xImpl accessPointManager accessPointId none
    dot11AuthenticationDot1x

end NetRemoteService

end NetRemote.Service
