import Mathlib.Data.Vector.Defs
import NetRemote.Foundation.Bytes
import NetRemote.Netlink.Nl80211

namespace NetRemote.Wpa

open Foundation.Bytes

-- Everything that can leave a function of the program other than by returning.
-- Nothing can catch the last two: an exception that reaches a `noexcept`
-- boundary ends the process.
inductive Fault where
  | Std (exception : StdException)
  | Hostapd (message : ByteString)
  | Netlink (exception : Netlink.NetlinkFault)
  | UndefinedBehavior
  | Terminate
  deriving DecidableEq, Repr

-- `HostapdException::what` is a C string.
def what (message : ByteString) : ByteString := message.takeWhile (· ≠ 0)

namespace ProtocolWpa

def KeyValueDelimiter : UInt8 := 61
def KeyValueLineDelimeter : UInt8 := 10
def KeyValueIndexDelimeterStart : UInt8 := 91
def KeyValueIndexDelimeterEnd : UInt8 := 93

def ResponsePayloadOk : ByteString := str "OK"
def ResponsePayloadFail : ByteString := str "FAIL"
def ResponsePayloadPing : ByteString := str "PONG"

def PropertyNameWpaSecurityProtocol : ByteString := str "wpa"

def isResponseOk (response : ByteString) : Bool := ResponsePayloadOk.isPrefixOf response

def isResponseFail (response : ByteString) : Bool := ResponsePayloadFail.isPrefixOf response

end ProtocolWpa

namespace ProtocolHostapd

def ResponsePayloadStatusUninitialized : ByteString := str "UNINITIALIZED"
def ResponsePayloadStatusDisabled : ByteString := str "DISABLED"
def ResponsePayloadStatusEnabled : ByteString := str "ENABLED"
def ResponsePayloadStatusCountryUpdate : ByteString := str "COUNTRY_UPDATE"
def ResponsePayloadStatusAcs : ByteString := str "ACS"
def ResponsePayloadStatusHtScan : ByteString := str "HT_SCAN"
def ResponsePayloadStatusDfs : ByteString := str "DFS"
def ResponsePayloadStatusNoIr : ByteString := str "NO_IR"

def PropertyEnabled : ByteString := str "1"
def PropertyDisabled : ByteString := str "0"
def PropertyNameInvalid : ByteString := str "invalid"

def PropertyNameSetBand : ByteString := str "setband"
def PropertySetBandValue2G : ByteString := str "2G"
def PropertySetBandValue5G : ByteString := str "5G"
def PropertySetBandValue6G : ByteString := str "6G"

def PropertyNameHwMode : ByteString := str "hw_mode"
def PropertyHwModeValueB : ByteString := str "b"
def PropertyHwModeValueG : ByteString := str "g"
def PropertyHwModeValueA : ByteString := str "a"
def PropertyHwModeValueAD : ByteString := str "ad"
def PropertyHwModeValueAny : ByteString := str "any"

def PropertyNameAuthenticationAlgorithms : ByteString := str "auth_algs"
def PropertyNameSsid : ByteString := str "ssid"

def PropertyNameIeee80211N : ByteString := str "ieee80211n"
def PropertyNameDisable11N : ByteString := str "disable_11n"
def PropertyNameIeee80211AC : ByteString := str "ieee80211ac"
def PropertyNameDisable11AC : ByteString := str "disable_11ac"
def PropertyNameIeee80211AX : ByteString := str "ieee80211ax"
def PropertyNameDisable11AX : ByteString := str "disable_11ax"
def PropertyNameWmmEnabled : ByteString := str "wmm_enabled"
def PropertyNameState : ByteString := str "state"

def PropertyNameIeee80211W : ByteString := str "ieee80211w"
def PropertyValueIeee80211WNone : ByteString := str "0"
def PropertyValueIeee80211WOptional : ByteString := str "1"
def PropertyValueIeee80211WRequired : ByteString := str "2"

def PropertyNameBridgeInterface : ByteString := str "bridge"

def PropertyNameIeee8021X : ByteString := str "ieee8021x"
def PropertyNameEapServer : ByteString := str "eap_server"

def PropertyNameOwnIpAddr : ByteString := str "own_ip_addr"
def PropertyNameNasIdentifier : ByteString := str "nas_identifier"

def PropertyNameRadiusAuthServerAddr : ByteString := str "auth_server_addr"
def PropertyNameRadiusAuthServerPort : ByteString := str "auth_server_port"
def PropertyNameRadiusAuthServerShared : ByteString := str "auth_server_shared_secret"

def PropertyNameRadiusAcctServerAddr : ByteString := str "acct_server_addr"
def PropertyNameRadiusAcctServerPort : ByteString := str "acct_server_port"
def PropertyNameRadiusAcctServerShared : ByteString := str "acct_server_shared_secret"

def PropertyNameBss : ByteString := str "bss"
def PropertyNameBssBssid : ByteString := str "bssid"
def PropertyNameBssSsid : ByteString := str "ssid"
def PropertyNameBssNumStations : ByteString := str "num_sta"

def PropertyNameWpaKeyManagement : ByteString := str "wpa_key_mgmt"
def PropertyNameWpaPairwise : ByteString := str "wpa_pairwise"
def PropertyNameWpaPassphrase : ByteString := str "wpa_passphrase"
def PropertyNameWpaPsk : ByteString := str "wpa_psk"
def PropertyNameRsnPairwise : ByteString := str "rsn_pairwise"

def PropertyNameSaePassword : ByteString := str "sae_password"
def PropertyValueSaePasswordKeyPeerMac : ByteString := str "mac"
def PropertyValueSaePasswordKeyPasswordId : ByteString := str "id"
def PropertyValueSaePasswordKeyVlanId : ByteString := str "vlanid"
def PropertyValueSaePasswordClearAll : ByteString := str ""
def PropertyValueSaeKeyValueSeparator : ByteString := str "|"

def PropertyNameKeyManagement : ByteString := str "key_mgmt"
def PropertyNameGroupCipher : ByteString := str "group_cipher"
def PropertyNameRsnPairwiseCipher : ByteString := str "rsn_pairwise_cipher"
def PropertyNameWpaPairwiseCipher : ByteString := str "wpa_pairwise_cipher"

def ResponseStatusPropertyKeyState : ByteString := PropertyNameState
def ResponseStatusPropertyKeyIeee80211N : ByteString := PropertyNameIeee80211N
def ResponseStatusPropertyKeyDisable11N : ByteString := PropertyNameDisable11N
def ResponseStatusPropertyKeyIeee80211AC : ByteString := PropertyNameIeee80211AC
def ResponseStatusPropertyKeyDisableAC : ByteString := PropertyNameDisable11AC
def ResponseStatusPropertyKeyIeee80211AX : ByteString := PropertyNameIeee80211AX
def ResponseStatusPropertyKeyDisableAX : ByteString := PropertyNameDisable11AX

def ResponseGetConfigPropertyKeyBssid : ByteString := PropertyNameBssBssid
def ResponseGetConfigPropertyKeySsid : ByteString := PropertyNameBssSsid
def ResponseGetConfigPropertyKeyWpa : ByteString := ProtocolWpa.PropertyNameWpaSecurityProtocol
def ResponseGetConfigPropertyKeyWpaKeyMgmt : ByteString := PropertyNameKeyManagement
def ResponseGetConfigPropertyKeyGroupCipher : ByteString := PropertyNameGroupCipher
def ResponseGetConfigPropertyKeyRsnPairwiseCipher : ByteString := PropertyNameRsnPairwiseCipher
def ResponseGetConfigPropertyKeyWpaPairwiseCipher : ByteString := PropertyNameWpaPairwiseCipher

end ProtocolHostapd

inductive HostapdInterfaceState where
  | Uninitialized
  | Disabled
  | Enabled
  | CountryUpdate
  | Acs
  | HtScan
  | Dfs
  | NoIr
  | Unknown
  deriving DecidableEq, Repr

def HostapdInterfaceState.enumName : HostapdInterfaceState → ByteString
  | .Uninitialized => str "Uninitialized"
  | .Disabled => str "Disabled"
  | .Enabled => str "Enabled"
  | .CountryUpdate => str "CountryUpdate"
  | .Acs => str "Acs"
  | .HtScan => str "HtScan"
  | .Dfs => str "Dfs"
  | .NoIr => str "NoIr"
  | .Unknown => str "Unknown"

-- Prefixes are compared, so that a state is also found in an unparsed payload.
def hostapdInterfaceStateFromString (state : ByteString) : HostapdInterfaceState :=
  if ProtocolHostapd.ResponsePayloadStatusUninitialized.isPrefixOf state then .Uninitialized
  else if ProtocolHostapd.ResponsePayloadStatusDisabled.isPrefixOf state then .Disabled
  else if ProtocolHostapd.ResponsePayloadStatusEnabled.isPrefixOf state then .Enabled
  else if ProtocolHostapd.ResponsePayloadStatusCountryUpdate.isPrefixOf state then .CountryUpdate
  else if ProtocolHostapd.ResponsePayloadStatusAcs.isPrefixOf state then .Acs
  else if ProtocolHostapd.ResponsePayloadStatusHtScan.isPrefixOf state then .HtScan
  else if ProtocolHostapd.ResponsePayloadStatusDfs.isPrefixOf state then .Dfs
  else if ProtocolHostapd.ResponsePayloadStatusNoIr.isPrefixOf state then .NoIr
  else .Unknown

def isHostapdStateOperational : HostapdInterfaceState → Bool
  | .Enabled | .CountryUpdate | .Acs | .HtScan | .Dfs | .NoIr => true
  | .Uninitialized | .Disabled | .Unknown => false

inductive HostapdHwMode where
  | Unknown
  | Ieee80211b
  | Ieee80211g
  | Ieee80211a
  | Ieee80211ad
  | Ieee80211any
  deriving DecidableEq, Repr

def hostapdHwModePropertyValue : HostapdHwMode → ByteString
  | .Ieee80211b => ProtocolHostapd.PropertyHwModeValueB
  | .Ieee80211g => ProtocolHostapd.PropertyHwModeValueG
  | .Ieee80211a => ProtocolHostapd.PropertyHwModeValueA
  | .Ieee80211ad => ProtocolHostapd.PropertyHwModeValueAD
  | .Ieee80211any => ProtocolHostapd.PropertyHwModeValueAny
  | .Unknown => str "UNKNOWN"

inductive ManagementFrameProtection where
  | Unknown
  | None
  | Optional
  | Required
  deriving DecidableEq, Repr

def managementFrameProtectionToPropertyValue : ManagementFrameProtection → ByteString
  | .None => ProtocolHostapd.PropertyValueIeee80211WNone
  | .Optional => ProtocolHostapd.PropertyValueIeee80211WOptional
  | .Required => ProtocolHostapd.PropertyValueIeee80211WRequired
  | .Unknown => str "UNKNOWN"

-- The enumerations below are bit sets in a `uint32_t`, and values other than
-- their enumerators occur.
structure WpaAuthenticationAlgorithm where
  value : UInt32
  deriving DecidableEq, Repr

namespace WpaAuthenticationAlgorithm

def Invalid : WpaAuthenticationAlgorithm := ⟨0⟩
def OpenSystem : WpaAuthenticationAlgorithm := ⟨1⟩
def SharedKey : WpaAuthenticationAlgorithm := ⟨2⟩
def Leap : WpaAuthenticationAlgorithm := ⟨4⟩
def Ft : WpaAuthenticationAlgorithm := ⟨8⟩
def Sae : WpaAuthenticationAlgorithm := ⟨16⟩
def Fils : WpaAuthenticationAlgorithm := ⟨32⟩
def FilsSkPfs : WpaAuthenticationAlgorithm := ⟨64⟩

end WpaAuthenticationAlgorithm

def WpaAuthenticationAlgorithmMask : UInt32 :=
  WpaAuthenticationAlgorithm.OpenSystem.value ||| WpaAuthenticationAlgorithm.SharedKey.value

def WpaAuthenticationAlgorithmsUnsupported : List WpaAuthenticationAlgorithm :=
  [.Invalid, .Leap, .Ft, .Sae, .Fils, .FilsSkPfs]

def isWpaAuthenticationAlgorithmSupported (algorithm : WpaAuthenticationAlgorithm) : Bool :=
  !WpaAuthenticationAlgorithmsUnsupported.contains algorithm

-- WPA3 has no value of its own in hostapd.
structure WpaSecurityProtocol where
  value : UInt32
  deriving DecidableEq, Repr

namespace WpaSecurityProtocol

def Unknown : WpaSecurityProtocol := ⟨0⟩
def Wpa : WpaSecurityProtocol := ⟨1⟩
def Wpa2 : WpaSecurityProtocol := ⟨2⟩
def Wpa3 : WpaSecurityProtocol := ⟨2⟩

-- Two enumerators share a value, and magic_enum names it after the first.
def enumName (protocol : WpaSecurityProtocol) : ByteString :=
  if protocol = Unknown then str "Unknown"
  else if protocol = Wpa then str "Wpa"
  else if protocol = Wpa2 then str "Wpa2"
  else []

end WpaSecurityProtocol

def isWpaSecurityProtocolSupported (protocol : WpaSecurityProtocol) : Bool :=
  protocol ≠ WpaSecurityProtocol.Unknown

def WpaSecurityProtocolMask : UInt32 :=
  WpaSecurityProtocol.Wpa.value ||| WpaSecurityProtocol.Wpa2.value |||
    WpaSecurityProtocol.Wpa3.value

inductive WpaCipher where
  | Unknown
  | None
  | Wep40
  | Wep104
  | Tkip
  | Ccmp
  | Aes128Cmac
  | Gcmp
  | Sms4
  | Gcmp256
  | Ccmp256
  | BipGmac128
  | BipGmac256
  | BipCmac256
  | GtkNotUsed
  deriving DecidableEq, Repr

-- magic_enum knows names up to the value 255 only.
def WpaCipher.enumName : WpaCipher → ByteString
  | .Unknown => str "Unknown"
  | .None => str "None"
  | .Wep40 => str "Wep40"
  | .Wep104 => str "Wep104"
  | .Tkip => str "Tkip"
  | .Ccmp => str "Ccmp"
  | .Aes128Cmac => str "Aes128Cmac"
  | .Gcmp => str "Gcmp"
  | .Sms4 => str "Sms4"
  | _ => []

def WpaCipherInvalidValue : ByteString := str "UNKNOWN"

def wpaCipherPropertyValue : WpaCipher → ByteString
  | .None => str "NONE"
  | .Wep40 => str "WEP40"
  | .Wep104 => str "WEP104"
  | .Tkip => str "TKIP"
  | .Ccmp => str "CCMP"
  | .Aes128Cmac => str "AES-128-CMAC"
  | .Gcmp => str "GCMP"
  | .Gcmp256 => str "GCMP-256"
  | .Ccmp256 => str "CCMP-256"
  | .BipGmac128 => str "BIP-GMAC-128"
  | .BipGmac256 => str "BIP-GMAC-256"
  | .BipCmac256 => str "BIP-CMAC-256"
  | .GtkNotUsed => str "GTK_NOT_USED"
  | .Sms4 | .Unknown => WpaCipherInvalidValue

def wpaCipherFromPropertyValue (wpaCipherProperty : ByteString) : WpaCipher :=
  if wpaCipherProperty = str "NONE" then .None
  else if wpaCipherProperty = str "WEP40" then .Wep40
  else if wpaCipherProperty = str "WEP104" then .Wep104
  else if wpaCipherProperty = str "TKIP" then .Tkip
  else if wpaCipherProperty = str "CCMP" then .Ccmp
  else if wpaCipherProperty = str "AES-128-CMAC" then .Aes128Cmac
  else if wpaCipherProperty = str "GCMP" then .Gcmp
  else if wpaCipherProperty = str "GCMP-256" then .Gcmp256
  else if wpaCipherProperty = str "CCMP-256" then .Ccmp256
  else if wpaCipherProperty = str "BIP-GMAC-128" then .BipGmac128
  else if wpaCipherProperty = str "BIP-GMAC-256" then .BipGmac256
  else if wpaCipherProperty = str "BIP-CMAC-256" then .BipCmac256
  else if wpaCipherProperty = str "GTK_NOT_USED" then .GtkNotUsed
  else .Unknown

def wpaCipherPropertyName (protocol : WpaSecurityProtocol) : ByteString :=
  if protocol = WpaSecurityProtocol.Wpa then ProtocolHostapd.PropertyNameWpaPairwise
  else if protocol = WpaSecurityProtocol.Wpa2 then ProtocolHostapd.PropertyNameRsnPairwise
  else ProtocolHostapd.PropertyNameInvalid

inductive WpaKeyManagement where
  | Unknown
  | Ieee8021x
  | Psk
  | None
  | Ieee8021xNoWpa
  | WpaNone
  | FtIeee8021x
  | FtPsk
  | Ieee8021xSha256
  | PskSha256
  | Wps
  | Sae
  | FtSae
  | WapiPsk
  | WapiCert
  | Cckm
  | Osen
  | Ieee8021xSuiteB
  | Ieee8021xSuiteB192
  | FilsSha256
  | FilsSha384
  | FtFilsSha256
  | FtFilsSha384
  | Owe
  | Dpp
  | FtIeee8021xSha384
  | Pasn
  deriving DecidableEq, Repr

def WpaKeyManagement.enumName : WpaKeyManagement → ByteString
  | .Unknown => str "Unknown"
  | .Ieee8021x => str "Ieee8021x"
  | .Psk => str "Psk"
  | .None => str "None"
  | .Ieee8021xNoWpa => str "Ieee8021xNoWpa"
  | .WpaNone => str "WpaNone"
  | .FtIeee8021x => str "FtIeee8021x"
  | .FtPsk => str "FtPsk"
  | .Ieee8021xSha256 => str "Ieee8021xSha256"
  | _ => []

def WpaKeyManagementInvalidValue : ByteString := str "UNKNOWN"

-- The values without a name are not accepted for the configuration file.
def wpaKeyManagementPropertyValue : WpaKeyManagement → ByteString
  | .Ieee8021x => str "WPA-EAP"
  | .Psk => str "WPA-PSK"
  | .FtIeee8021x => str "FT-EAP"
  | .FtPsk => str "FT-PSK"
  | .Ieee8021xSha256 => str "WPA-EAP-SHA256"
  | .PskSha256 => str "WPA-PSK-SHA256"
  | .Sae => str "SAE"
  | .FtSae => str "FT-SAE"
  | .Osen => str "OSEN"
  | .Ieee8021xSuiteB => str "WPA-EAP-SUITE-B"
  | .Ieee8021xSuiteB192 => str "WPA-EAP-SUITE-B-192"
  | .FilsSha256 => str "FILS-SHA256"
  | .FilsSha384 => str "FILS-SHA384"
  | .FtFilsSha256 => str "FT-FILS-SHA256"
  | .FtFilsSha384 => str "FT-FILS-SHA384"
  | .Owe => str "OWE"
  | .Dpp => str "DPP"
  | .FtIeee8021xSha384 => str "FT-EAP-SHA384"
  | .Pasn => str "PASN"
  | _ => WpaKeyManagementInvalidValue

def wpaKeyManagementFromPropertyValue (wpaKeyManagementProperty : ByteString) :
    WpaKeyManagement :=
  if wpaKeyManagementProperty = str "WPA-EAP" then .Ieee8021x
  else if wpaKeyManagementProperty = str "WPA-PSK" then .Psk
  else if wpaKeyManagementProperty = str "FT-EAP" then .FtIeee8021x
  else if wpaKeyManagementProperty = str "FT-PSK" then .FtPsk
  else if wpaKeyManagementProperty = str "WPA-EAP-SHA256" then .Ieee8021xSha256
  else if wpaKeyManagementProperty = str "WPA-PSK-SHA256" then .PskSha256
  else if wpaKeyManagementProperty = str "SAE" then .Sae
  else if wpaKeyManagementProperty = str "FT-SAE" then .FtSae
  else if wpaKeyManagementProperty = str "OSEN" then .Osen
  else if wpaKeyManagementProperty = str "WPA-EAP-SUITE-B" then .Ieee8021xSuiteB
  else if wpaKeyManagementProperty = str "WPA-EAP-SUITE-B-192" then .Ieee8021xSuiteB192
  else if wpaKeyManagementProperty = str "FILS-SHA256" then .FilsSha256
  else if wpaKeyManagementProperty = str "FILS-SHA384" then .FilsSha384
  else if wpaKeyManagementProperty = str "FT-FILS-SHA256" then .FtFilsSha256
  else if wpaKeyManagementProperty = str "FT-FILS-SHA384" then .FtFilsSha384
  else if wpaKeyManagementProperty = str "OWE" then .Owe
  else if wpaKeyManagementProperty = str "DPP" then .Dpp
  else if wpaKeyManagementProperty = str "FT-EAP-SHA384" then .FtIeee8021xSha384
  else if wpaKeyManagementProperty = str "PASN" then .Pasn
  else .Unknown

def wpaKeyManagementsFromPropertyValue (wpaKeyManagementProperty : ByteString) :
    List WpaKeyManagement :=
  (split 32 wpaKeyManagementProperty).map wpaKeyManagementFromPropertyValue

def isKeyManagementFastTransition (wpaKeyManagement : WpaKeyManagement) : Bool :=
  wpaKeyManagement ∈ [.Ieee8021x, .FtIeee8021x, .FtPsk, .FtIeee8021xSha384, .FtSae,
    .FtFilsSha256, .FtFilsSha384]

def isKeyManagementIeee8021x (wpaKeyManagement : WpaKeyManagement) : Bool :=
  wpaKeyManagement ∈ [.Ieee8021x, .FtIeee8021x, .FtIeee8021xSha384, .Cckm, .Osen,
    .Ieee8021xSha256, .Ieee8021xSuiteB, .Ieee8021xSuiteB192, .FilsSha256, .FilsSha384,
    .FtFilsSha256, .FtFilsSha384]

def WpaPskValueLength : Nat := 64

inductive WpaPreSharedKey where
  | WpaPskPassphraseT (passphrase : ByteString)
  | WpaPskValueT (value : List.Vector UInt8 WpaPskValueLength)
  deriving DecidableEq

def wpaPreSharedKeyPropertyValue : WpaPreSharedKey → ByteString
  | .WpaPskPassphraseT passphrase => passphrase
  | .WpaPskValueT value => value.toList

def wpaPreSharedKeyPropertyKeyAndValue (wpaPreSharedKey : WpaPreSharedKey) :
    ByteString × ByteString :=
  let propertyName :=
    match wpaPreSharedKey with
    | .WpaPskPassphraseT _ => ProtocolHostapd.PropertyNameWpaPassphrase
    | .WpaPskValueT _ => ProtocolHostapd.PropertyNameWpaPsk
  (propertyName, wpaPreSharedKeyPropertyValue wpaPreSharedKey)

structure SaePassword where
  credential : ByteString
  passwordId : Option ByteString := none
  peerMacAddress : Option ByteString := none
  vlanId : Option Int32 := none
  deriving DecidableEq, Repr

inductive RadiusEndpointType where
  | Unknown
  | Authentication
  | Accounting
  deriving DecidableEq, Repr

structure RadiusEndpointConfiguration where
  type : RadiusEndpointType := .Unknown
  address : ByteString := []
  port : Option UInt16 := none
  sharedSecret : ByteString := []
  deriving DecidableEq, Repr

def getRadiusEndpointPropertyNames : RadiusEndpointType → ByteString × ByteString × ByteString
  | .Authentication => (ProtocolHostapd.PropertyNameRadiusAuthServerAddr,
      ProtocolHostapd.PropertyNameRadiusAuthServerPort,
      ProtocolHostapd.PropertyNameRadiusAuthServerShared)
  | .Accounting => (ProtocolHostapd.PropertyNameRadiusAcctServerAddr,
      ProtocolHostapd.PropertyNameRadiusAcctServerPort,
      ProtocolHostapd.PropertyNameRadiusAcctServerShared)
  | .Unknown => (ProtocolHostapd.PropertyNameInvalid, ProtocolHostapd.PropertyNameInvalid,
      ProtocolHostapd.PropertyNameInvalid)

end NetRemote.Wpa
