import Mathlib.Data.Vector.Basic
import NetRemote.Api.Messages
import NetRemote.Wifi.AccessPointController

namespace NetRemote.Service

open Foundation Foundation.Bytes Api Wifi

def toDot11AccessPointOperationStatusCode :
    AccessPointOperationStatusCode → WifiAccessPointOperationStatusCode
  | .Succeeded => .Succeeded
  | .InvalidParameter => .InvalidParameter
  | .AccessPointInvalid => .AccessPointInvalid
  | .AccessPointNotEnabled => .AccessPointNotEnabled
  | .OperationNotSupported => .OperationNotSupported
  | .InternalError => .InternalError
  | .Unknown => .Unknown

def fromDot11SecurityProtocol (dot11SecurityProtocol : Dot11SecurityProtocol) :
    Ieee80211SecurityProtocol :=
  if dot11SecurityProtocol = Dot11SecurityProtocolWpa1 then .Wpa
  else if dot11SecurityProtocol = Dot11SecurityProtocolWpa2 then .Wpa2
  else if dot11SecurityProtocol = Dot11SecurityProtocolWpa3 then .Wpa3
  else .Unknown

def fromDot11PhyType (dot11PhyType : Dot11PhyType) : Ieee80211PhyType :=
  if dot11PhyType = Dot11PhyTypeB then .B
  else if dot11PhyType = Dot11PhyTypeG then .G
  else if dot11PhyType = Dot11PhyTypeN then .N
  else if dot11PhyType = Dot11PhyTypeA then .A
  else if dot11PhyType = Dot11PhyTypeAC then .AC
  else if dot11PhyType = Dot11PhyTypeAD then .AD
  else if dot11PhyType = Dot11PhyTypeAX then .AX
  else if dot11PhyType = Dot11PhyTypeBE then .BE
  else .Unknown

def fromDot11FrequencyBand (dot11FrequencyBand : Dot11FrequencyBand) : Ieee80211FrequencyBand :=
  if dot11FrequencyBand = Dot11FrequencyBand2_4GHz then .TwoPointFourGHz
  else if dot11FrequencyBand = Dot11FrequencyBand5_0GHz then .FiveGHz
  else if dot11FrequencyBand = Dot11FrequencyBand6_0GHz then .SixGHz
  else .Unknown

def fromDot11AuthenticationAlgorithm
    (dot11AuthenticationAlgorithm : Dot11AuthenticationAlgorithm) :
    Ieee80211AuthenticationAlgorithm :=
  if dot11AuthenticationAlgorithm = Dot11AuthenticationAlgorithmOpenSystem then .OpenSystem
  else if dot11AuthenticationAlgorithm = Dot11AuthenticationAlgorithmSharedKey then .SharedKey
  else if dot11AuthenticationAlgorithm = Dot11AuthenticationAlgorithmFastBssTransition then
    .FastBssTransition
  else if dot11AuthenticationAlgorithm = Dot11AuthenticationAlgorithmSae then .Sae
  else if dot11AuthenticationAlgorithm = Dot11AuthenticationAlgorithmFils then .Fils
  else if dot11AuthenticationAlgorithm = Dot11AuthenticationAlgorithmFilsPfs then .FilsPfs
  else if dot11AuthenticationAlgorithm = Dot11AuthenticationAlgorithmFilsPublicKey then
    .FilsPublicKey
  else if dot11AuthenticationAlgorithm = Dot11AuthenticationAlgorithmVendorSpecific then
    .VendorSpecific
  else .Unknown

def fromDot11AkmSuite (dot11AkmSuite : Dot11AkmSuite) : Ieee80211AkmSuite :=
  if dot11AkmSuite = Dot11AkmSuiteReserved0 then .Reserved0
  else if dot11AkmSuite = Dot11AkmSuite8021x then .Ieee8021x
  else if dot11AkmSuite = Dot11AkmSuitePsk then .Psk
  else if dot11AkmSuite = Dot11AkmSuiteFt8021x then .Ft8021x
  else if dot11AkmSuite = Dot11AkmSuiteFtPsk then .FtPsk
  else if dot11AkmSuite = Dot11AkmSuite8021xSha256 then .Ieee8021xSha256
  else if dot11AkmSuite = Dot11AkmSuitePskSha256 then .PskSha256
  else if dot11AkmSuite = Dot11AkmSuiteTdls then .Tdls
  else if dot11AkmSuite = Dot11AkmSuiteSae then .Sae
  else if dot11AkmSuite = Dot11AkmSuiteFtSae then .FtSae
  else if dot11AkmSuite = Dot11AkmSuiteApPeerKey then .ApPeerKey
  else if dot11AkmSuite = Dot11AkmSuite8021xSuiteB then .Ieee8021xSuiteB
  else if dot11AkmSuite = Dot11AkmSuite8021xSuiteB192 then .Ieee8011xSuiteB192
  else if dot11AkmSuite = Dot11AkmSuiteFt8021xSha384 then .Ft8021xSha384
  else if dot11AkmSuite = Dot11AkmSuiteFilsSha256 then .FilsSha256
  else if dot11AkmSuite = Dot11AkmSuiteFilsSha384 then .FilsSha384
  else if dot11AkmSuite = Dot11AkmSuiteFtFilsSha256 then .FtFilsSha256
  else if dot11AkmSuite = Dot11AkmSuiteFtFilsSha384 then .FtFilsSha384
  else if dot11AkmSuite = Dot11AkmSuiteOwe then .Owe
  else if dot11AkmSuite = Dot11AkmSuiteFtPskSha384 then .FtPskSha384
  else if dot11AkmSuite = Dot11AkmSuitePskSha384 then .PskSha384
  else if dot11AkmSuite = Dot11AkmSuitePasn then .Pasn
  else .Unknown

def fromDot11CipherSuite (dot11CipherSuite : Dot11CipherSuite) : Ieee80211CipherSuite :=
  if dot11CipherSuite = Dot11CipherSuiteBipCmac128 then .BipCmac128
  else if dot11CipherSuite = Dot11CipherSuiteBipCmac256 then .BipCmac256
  else if dot11CipherSuite = Dot11CipherSuiteBipGmac128 then .BipGmac128
  else if dot11CipherSuite = Dot11CipherSuiteBipGmac256 then .BipGmac256
  else if dot11CipherSuite = Dot11CipherSuiteCcmp128 then .Ccmp128
  else if dot11CipherSuite = Dot11CipherSuiteCcmp256 then .Ccmp256
  else if dot11CipherSuite = Dot11CipherSuiteGcmp128 then .Gcmp128
  else if dot11CipherSuite = Dot11CipherSuiteGcmp256 then .Gcmp256
  else if dot11CipherSuite = Dot11CipherSuiteGroupAddressesTrafficNotAllowed then
    .GroupAddressesTrafficNotAllowed
  else if dot11CipherSuite = Dot11CipherSuiteTkip then .Tkip
  else if dot11CipherSuite = Dot11CipherSuiteUseGroup then .UseGroup
  else if dot11CipherSuite = Dot11CipherSuiteWep104 then .Wep104
  else if dot11CipherSuite = Dot11CipherSuiteWep40 then .Wep40
  else .Unknown

-- The first configuration of a protocol stays: `emplace` drops the later ones.
def toDot11CipherSuiteConfigurations
    (dot11CipherSuiteConfigurations : List Dot11CipherSuiteConfiguration) :
    Table Dot11SecurityProtocol (List Dot11CipherSuite) :=
  dot11CipherSuiteConfigurations.foldl (fun dot11CipherSuiteConfigurationsStrong configuration =>
    dot11CipherSuiteConfigurationsStrong.emplace configuration.securityProtocol
      configuration.cipherSuites) ∅

def fromDot11CipherSuiteConfigurations
    (traversal : Table.Traversal Dot11SecurityProtocol (List Dot11CipherSuite))
    (dot11CipherSuiteConfigurations : Table Dot11SecurityProtocol (List Dot11CipherSuite)) :
    CipherSuites :=
  (traversal.visit dot11CipherSuiteConfigurations).foldl
    (fun ieee80211CipherSuiteConfigurations entry =>
      ieee80211CipherSuiteConfigurations.emplace (fromDot11SecurityProtocol entry.1)
        (entry.2.map fromDot11CipherSuite)) ∅

-- A value that is too short leaves the address all zeros.
def fromDot11MacAddress (dot11MacAddress : Dot11MacAddress) : Ieee80211MacAddress :=
  if h : MacAddressNumOctets ≤ dot11MacAddress.value.length then
    ⟨dot11MacAddress.value.take MacAddressNumOctets, by simp [h]⟩
  else .replicate _ 0

-- Only the error of a conversion is looked at, so that the second character of a
-- pair need not be a digit.
def parseHexString (hexString : ByteString) (numberOfBytesToParse : Nat) :
    Option (List.Vector UInt8 numberOfBytesToParse) :=
  if hexString.length / 2 < numberOfBytesToParse then none
  else
    List.Vector.mmap id <| List.Vector.ofFn fun i : Fin numberOfBytesToParse =>
      fromCharsHex (substr hexString (i * 2) 2)

-- The key that an object is made with: an empty passphrase.
def ieee80211RsnaPskEmpty : Ieee80211RsnaPsk := .Passphrase []

def fromDot11RsnaPsk (dot11RsnaPsk : Dot11RsnaPsk) : Ieee80211RsnaPsk :=
  match dot11RsnaPsk.data with
  | some (.Passphrase pskPassphrase) => .Passphrase pskPassphrase
  | some (.Value pskValue) =>
      match pskValue.data with
      | some (.Hex pskHex) =>
          match parseHexString pskHex Ieee80211RsnaPskLength with
          | some pskValueRaw => .Value pskValueRaw
          | none => ieee80211RsnaPskEmpty
      | some (.Raw pskRaw) =>
          if h : Ieee80211RsnaPskLength ≤ pskRaw.length then
            .Value ⟨pskRaw.take Ieee80211RsnaPskLength, by simp [h]⟩
          else ieee80211RsnaPskEmpty
      | none => ieee80211RsnaPskEmpty
  | none => ieee80211RsnaPskEmpty

def fromDot11RsnaPassword (dot11RsnaPassword : Dot11RsnaPassword) : Ieee80211RsnaPassword where
  credential := dot11RsnaPassword.credential
  peerMacAddress := dot11RsnaPassword.peerMacAddress.map fromDot11MacAddress
  passwordId := if dot11RsnaPassword.passwordId = [] then none else dot11RsnaPassword.passwordId

def fromDot11AuthenticationDataPsk (dot11AuthenticationDataPsk : Dot11AuthenticationDataPsk) :
    Ieee80211RsnaPsk :=
  dot11AuthenticationDataPsk.psk.elim ieee80211RsnaPskEmpty fromDot11RsnaPsk

def fromDot11AuthenticationDataSae (dot11AuthenticationDataSae : Dot11AuthenticationDataSae) :
    List Ieee80211RsnaPassword :=
  dot11AuthenticationDataSae.passwords.map fromDot11RsnaPassword

def fromDot11AuthenticationData (dot11AuthenticationData : Dot11AuthenticationData) :
    Ieee80211AuthenticationData where
  psk := dot11AuthenticationData.psk.map fromDot11AuthenticationDataPsk
  sae := dot11AuthenticationData.sae.map fromDot11AuthenticationDataSae

def fromServiceDot1xRadiusServerEndpoint
    (dot1xRadiusServerEndpoint : Dot1xRadiusServerEndpoint) : Ieee8021xRadiusServerEndpointType :=
  if dot1xRadiusServerEndpoint = Dot1xRadiusServerEndpointAuthentication then .Authentication
  else if dot1xRadiusServerEndpoint = Dot1xRadiusServerEndpointAccounting then .Accounting
  else .Unknown

-- The port is narrowed to 16 bits after it was compared with zero.
def fromServiceDot1xRadiusServerEndpointConfiguration
    (dot1xRadiusServerEndpointConfiguration : Dot1xRadiusServerEndpointConfiguration) :
    Ieee8021xRadiusServerEndpointConfiguration where
  type := fromServiceDot1xRadiusServerEndpoint dot1xRadiusServerEndpointConfiguration.endpoint
  address := dot1xRadiusServerEndpointConfiguration.address
  port :=
    if dot1xRadiusServerEndpointConfiguration.port ≠ 0 then
      some dot1xRadiusServerEndpointConfiguration.port.toUInt16
    else none
  sharedSecret := dot1xRadiusServerEndpointConfiguration.sharedSecret

def fromServiceDot1xRadiusConfiguration (dot1xRadiusConfiguration : Dot1xRadiusConfiguration) :
    Ieee8021xRadiusConfiguration where
  authenticationServer := dot1xRadiusConfiguration.authenticationServer.elim {}
    fromServiceDot1xRadiusServerEndpointConfiguration
  accountingServer := dot1xRadiusConfiguration.accountingServer.map
    fromServiceDot1xRadiusServerEndpointConfiguration
  fallbackServers := dot1xRadiusConfiguration.fallbackServers.map
    fromServiceDot1xRadiusServerEndpointConfiguration

end NetRemote.Service
