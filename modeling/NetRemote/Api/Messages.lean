import NetRemote.Foundation.Bytes

namespace NetRemote.Api

open Foundation.Bytes

-- The enumerations of the messages are open: a client can send any number.
structure Dot11FrequencyBand where
  value : Int32
  deriving DecidableEq, Repr

def Dot11FrequencyBandUnknown : Dot11FrequencyBand := ⟨0⟩
def Dot11FrequencyBand2_4GHz : Dot11FrequencyBand := ⟨1⟩
def Dot11FrequencyBand5_0GHz : Dot11FrequencyBand := ⟨2⟩
def Dot11FrequencyBand6_0GHz : Dot11FrequencyBand := ⟨3⟩

structure Dot11SecurityProtocol where
  value : Int32
  deriving DecidableEq, Repr

def Dot11SecurityProtocolUnknown : Dot11SecurityProtocol := ⟨0⟩
def Dot11SecurityProtocolWpa1 : Dot11SecurityProtocol := ⟨1⟩
def Dot11SecurityProtocolWpa2 : Dot11SecurityProtocol := ⟨2⟩
def Dot11SecurityProtocolWpa3 : Dot11SecurityProtocol := ⟨3⟩

structure Dot11PhyType where
  value : Int32
  deriving DecidableEq, Repr

def Dot11PhyTypeUnknown : Dot11PhyType := ⟨0⟩
def Dot11PhyTypeB : Dot11PhyType := ⟨1⟩
def Dot11PhyTypeG : Dot11PhyType := ⟨2⟩
def Dot11PhyTypeN : Dot11PhyType := ⟨3⟩
def Dot11PhyTypeA : Dot11PhyType := ⟨4⟩
def Dot11PhyTypeAC : Dot11PhyType := ⟨5⟩
def Dot11PhyTypeAD : Dot11PhyType := ⟨6⟩
def Dot11PhyTypeAX : Dot11PhyType := ⟨7⟩
def Dot11PhyTypeBE : Dot11PhyType := ⟨8⟩

structure Dot11AuthenticationAlgorithm where
  value : Int32
  deriving DecidableEq, Repr

def Dot11AuthenticationAlgorithmUnknown : Dot11AuthenticationAlgorithm := ⟨0⟩
def Dot11AuthenticationAlgorithmSharedKey : Dot11AuthenticationAlgorithm := ⟨1⟩
def Dot11AuthenticationAlgorithmOpenSystem : Dot11AuthenticationAlgorithm := ⟨2⟩
def Dot11AuthenticationAlgorithmFastBssTransition : Dot11AuthenticationAlgorithm := ⟨3⟩
def Dot11AuthenticationAlgorithmSae : Dot11AuthenticationAlgorithm := ⟨4⟩
def Dot11AuthenticationAlgorithmFils : Dot11AuthenticationAlgorithm := ⟨5⟩
def Dot11AuthenticationAlgorithmFilsPfs : Dot11AuthenticationAlgorithm := ⟨6⟩
def Dot11AuthenticationAlgorithmFilsPublicKey : Dot11AuthenticationAlgorithm := ⟨7⟩
def Dot11AuthenticationAlgorithmVendorSpecific : Dot11AuthenticationAlgorithm := ⟨8⟩

structure Dot11AkmSuite where
  value : Int32
  deriving DecidableEq, Repr

def Dot11AkmSuiteUnknown : Dot11AkmSuite := ⟨0⟩
def Dot11AkmSuiteReserved0 : Dot11AkmSuite := ⟨1⟩
def Dot11AkmSuite8021x : Dot11AkmSuite := ⟨2⟩
def Dot11AkmSuitePsk : Dot11AkmSuite := ⟨3⟩
def Dot11AkmSuiteFt8021x : Dot11AkmSuite := ⟨4⟩
def Dot11AkmSuiteFtPsk : Dot11AkmSuite := ⟨5⟩
def Dot11AkmSuite8021xSha256 : Dot11AkmSuite := ⟨6⟩
def Dot11AkmSuitePskSha256 : Dot11AkmSuite := ⟨7⟩
def Dot11AkmSuiteTdls : Dot11AkmSuite := ⟨8⟩
def Dot11AkmSuiteSae : Dot11AkmSuite := ⟨9⟩
def Dot11AkmSuiteFtSae : Dot11AkmSuite := ⟨10⟩
def Dot11AkmSuiteApPeerKey : Dot11AkmSuite := ⟨11⟩
def Dot11AkmSuite8021xSuiteB : Dot11AkmSuite := ⟨12⟩
def Dot11AkmSuite8021xSuiteB192 : Dot11AkmSuite := ⟨13⟩
def Dot11AkmSuiteFt8021xSha384 : Dot11AkmSuite := ⟨14⟩
def Dot11AkmSuiteFilsSha256 : Dot11AkmSuite := ⟨15⟩
def Dot11AkmSuiteFilsSha384 : Dot11AkmSuite := ⟨16⟩
def Dot11AkmSuiteFtFilsSha256 : Dot11AkmSuite := ⟨17⟩
def Dot11AkmSuiteFtFilsSha384 : Dot11AkmSuite := ⟨18⟩
def Dot11AkmSuiteOwe : Dot11AkmSuite := ⟨19⟩
def Dot11AkmSuiteFtPskSha384 : Dot11AkmSuite := ⟨20⟩
def Dot11AkmSuitePskSha384 : Dot11AkmSuite := ⟨21⟩
def Dot11AkmSuitePasn : Dot11AkmSuite := ⟨22⟩

structure Dot11CipherSuite where
  value : Int32
  deriving DecidableEq, Repr

def Dot11CipherSuiteBipCmac128 : Dot11CipherSuite := ⟨1⟩
def Dot11CipherSuiteBipCmac256 : Dot11CipherSuite := ⟨2⟩
def Dot11CipherSuiteBipGmac128 : Dot11CipherSuite := ⟨3⟩
def Dot11CipherSuiteBipGmac256 : Dot11CipherSuite := ⟨4⟩
def Dot11CipherSuiteCcmp128 : Dot11CipherSuite := ⟨5⟩
def Dot11CipherSuiteCcmp256 : Dot11CipherSuite := ⟨6⟩
def Dot11CipherSuiteGcmp128 : Dot11CipherSuite := ⟨7⟩
def Dot11CipherSuiteGcmp256 : Dot11CipherSuite := ⟨8⟩
def Dot11CipherSuiteGroupAddressesTrafficNotAllowed : Dot11CipherSuite := ⟨9⟩
def Dot11CipherSuiteTkip : Dot11CipherSuite := ⟨10⟩
def Dot11CipherSuiteUseGroup : Dot11CipherSuite := ⟨11⟩
def Dot11CipherSuiteWep104 : Dot11CipherSuite := ⟨12⟩
def Dot11CipherSuiteWep40 : Dot11CipherSuite := ⟨13⟩

inductive Dot11SsidValue where
  | Name (name : ByteString)
  | Hex (hex : ByteString)
  | Data (data : ByteString)
  deriving DecidableEq, Repr

structure Dot11Ssid where
  value : Option Dot11SsidValue := none
  deriving DecidableEq, Repr

structure Dot11MacAddress where
  value : ByteString := []
  deriving DecidableEq, Repr

inductive Dot11RsnaPskDataValueData where
  | Hex (hex : ByteString)
  | Raw (raw : ByteString)
  deriving DecidableEq, Repr

structure Dot11RsnaPskDataValue where
  data : Option Dot11RsnaPskDataValueData := none
  deriving DecidableEq, Repr

inductive Dot11RsnaPskData where
  | Passphrase (passphrase : ByteString)
  | Value (value : Dot11RsnaPskDataValue)
  deriving DecidableEq, Repr

structure Dot11RsnaPsk where
  data : Option Dot11RsnaPskData := none
  deriving DecidableEq, Repr

structure Dot11RsnaPassword where
  credential : ByteString := []
  passwordId : ByteString := []
  peerMacAddress : Option Dot11MacAddress := none
  deriving DecidableEq, Repr

structure Dot11AuthenticationDataPsk where
  psk : Option Dot11RsnaPsk := none
  deriving DecidableEq, Repr

structure Dot11AuthenticationDataSae where
  passwords : List Dot11RsnaPassword := []
  deriving DecidableEq, Repr

structure Dot11AuthenticationData where
  psk : Option Dot11AuthenticationDataPsk := none
  sae : Option Dot11AuthenticationDataSae := none
  deriving DecidableEq, Repr

structure Dot1xRadiusServerEndpoint where
  value : Int32
  deriving DecidableEq, Repr

def Dot1xRadiusServerEndpointUnknown : Dot1xRadiusServerEndpoint := ⟨0⟩
def Dot1xRadiusServerEndpointAuthentication : Dot1xRadiusServerEndpoint := ⟨1⟩
def Dot1xRadiusServerEndpointAccounting : Dot1xRadiusServerEndpoint := ⟨2⟩

structure Dot1xRadiusServerEndpointConfiguration where
  endpoint : Dot1xRadiusServerEndpoint := Dot1xRadiusServerEndpointUnknown
  address : ByteString := []
  port : UInt32 := 0
  sharedSecret : ByteString := []
  deriving DecidableEq, Repr

structure Dot1xRadiusConfiguration where
  authenticationServer : Option Dot1xRadiusServerEndpointConfiguration := none
  accountingServer : Option Dot1xRadiusServerEndpointConfiguration := none
  fallbackServers : List Dot1xRadiusServerEndpointConfiguration := []
  deriving DecidableEq, Repr

structure Dot11AuthenticationDot1x where
  radius : Option Dot1xRadiusConfiguration := none
  deriving DecidableEq, Repr

structure Dot11CipherSuiteConfiguration where
  securityProtocol : Dot11SecurityProtocol := Dot11SecurityProtocolUnknown
  cipherSuites : List Dot11CipherSuite := []
  deriving DecidableEq, Repr

structure Dot11AccessPointConfiguration where
  ssid : Option Dot11Ssid := none
  bssid : Option Dot11MacAddress := none
  phyType : Dot11PhyType := Dot11PhyTypeUnknown
  authenticationData : Option Dot11AuthenticationData := none
  authenticationDot1x : Option Dot11AuthenticationDot1x := none
  authenticationAlgorithms : List Dot11AuthenticationAlgorithm := []
  pairwiseCipherSuites : List Dot11CipherSuiteConfiguration := []
  akmSuites : List Dot11AkmSuite := []
  frequencyBands : List Dot11FrequencyBand := []
  deriving DecidableEq, Repr

inductive WifiAccessPointOperationStatusCode where
  | Unknown
  | Succeeded
  | InvalidParameter
  | AccessPointInvalid
  | AccessPointNotEnabled
  | OperationNotSupported
  | InternalError
  deriving DecidableEq, Repr

structure WifiAccessPointOperationStatus where
  code : WifiAccessPointOperationStatusCode := .Unknown
  message : ByteString := []
  deriving DecidableEq, Repr

end NetRemote.Api
