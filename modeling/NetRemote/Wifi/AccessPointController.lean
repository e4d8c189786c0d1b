import NetRemote.Foundation.Program
import NetRemote.Wifi.Ieee80211

namespace NetRemote.Wifi

open Foundation Foundation.Bytes

inductive AccessPointOperationalState where
  | Disabled
  | Enabled
  deriving DecidableEq, Repr

inductive AccessPointOperationStatusCode where
  | Unknown
  | Succeeded
  | InvalidParameter
  | AccessPointInvalid
  | AccessPointNotEnabled
  | OperationNotSupported
  | InternalError
  deriving DecidableEq, Repr

def AccessPointOperationStatusCode.enumName : AccessPointOperationStatusCode → ByteString
  | .Unknown => str "Unknown"
  | .Succeeded => str "Succeeded"
  | .InvalidParameter => str "InvalidParameter"
  | .AccessPointInvalid => str "AccessPointInvalid"
  | .AccessPointNotEnabled => str "AccessPointNotEnabled"
  | .OperationNotSupported => str "OperationNotSupported"
  | .InternalError => str "InternalError"

structure AccessPointOperationStatus where
  accessPointId : ByteString
  operationName : ByteString
  details : ByteString := []
  code : AccessPointOperationStatusCode := .Unknown
  deriving DecidableEq, Repr

namespace AccessPointOperationStatus

def succeeded (status : AccessPointOperationStatus) : Bool := status.code = .Succeeded

-- The text of a build without `DEBUG`, where the caller is left empty.
def toString (status : AccessPointOperationStatus) : ByteString :=
  let result :=
    if status.succeeded then str "succeeded"
    else str "failed with code '" ++ status.code.enumName ++ str "'"
  let details := if status.details = [] then [] else str "- " ++ status.details
  str "AP '" ++ status.accessPointId ++ str "' operation " ++ status.operationName ++ str " " ++
    result ++ str " " ++ details ++ str " "

def withCode (status : AccessPointOperationStatus) (code : AccessPointOperationStatusCode)
    (details : ByteString) : AccessPointOperationStatus :=
  { status with code, details }

def succeed (status : AccessPointOperationStatus) : AccessPointOperationStatus :=
  { status with code := .Succeeded }

@[simp] theorem withCode_code (status : AccessPointOperationStatus)
    (code : AccessPointOperationStatusCode) (details : ByteString) :
    (status.withCode code details).code = code := rfl

@[simp] theorem succeed_code (status : AccessPointOperationStatus) :
    status.succeed.code = .Succeeded := rfl

end AccessPointOperationStatus

-- The operations of an access point controller with their arguments.
inductive ControllerRequest where
  | GetOperationalState
  | GetCapabilities
  | SetOperationalState (operationalState : AccessPointOperationalState)
  | SetPhyType (ieeePhyType : Ieee80211PhyType)
  | SetFrequencyBands (frequencyBands : List Ieee80211FrequencyBand)
  | SetAuthenticationAlgorithms (authenticationAlgorithms : List Ieee80211AuthenticationAlgorithm)
  | SetAuthenticationData (authenticationData : Ieee80211AuthenticationData)
  | SetAkmSuites (akmSuites : List Ieee80211AkmSuite)
  | SetPairwiseCipherSuites (pairwiseCipherSuites : CipherSuites)
  | SetSsid (ssid : ByteString)
  | SetNetworkBridge (networkBridgeId : ByteString)
  | SetRadiusConfiguration (radiusConfiguration : Ieee8021xRadiusConfiguration)

-- What an operation assigns to its output argument, if it has one and gets there.
def ControllerRequest.Result : ControllerRequest → Type
  | .GetOperationalState => Option AccessPointOperationalState
  | .GetCapabilities => Option Ieee80211AccessPointCapabilities
  | _ => Unit

-- The operations that leave the access point as it is.
def ControllerRequest.isQuery : ControllerRequest → Bool
  | .GetOperationalState | .GetCapabilities => true
  | _ => false

-- The operations that change a part of the configuration.
def ControllerRequest.configures : ControllerRequest → Bool
  | .GetOperationalState | .GetCapabilities | .SetOperationalState _ => false
  | _ => true

abbrev Controller : Environment where
  Request := ControllerRequest
  Reply request := AccessPointOperationStatus × request.Result

end NetRemote.Wifi
