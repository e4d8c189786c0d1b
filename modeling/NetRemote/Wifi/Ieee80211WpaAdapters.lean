import NetRemote.Wifi.Ieee80211
import NetRemote.Wpa.ProtocolHostapd

namespace NetRemote.Wifi

open Foundation Foundation.Bytes Wpa

def ieeePhyTypeToHostapdHwMode : Ieee80211PhyType → HostapdHwMode
  | .B => .Ieee80211b
  | .G => .Ieee80211g
  | .N => .Ieee80211a
  | .A => .Ieee80211a
  | .AC => .Ieee80211a
  | .AD => .Ieee80211ad
  | .AX => .Ieee80211a
  | .BE => .Ieee80211a
  | .Unknown => .Unknown

def ieeeFrequencyBandToHostapdBand : Ieee80211FrequencyBand → ByteString
  | .TwoPointFourGHz => ProtocolHostapd.PropertySetBandValue2G
  | .FiveGHz => ProtocolHostapd.PropertySetBandValue5G
  | .SixGHz => ProtocolHostapd.PropertySetBandValue6G
  | .Unknown => str "invalid"

def ieee80211AuthenticationAlgorithmToWpaAuthenticationAlgorithm :
    Ieee80211AuthenticationAlgorithm → WpaAuthenticationAlgorithm
  | .OpenSystem => WpaAuthenticationAlgorithm.OpenSystem
  | .SharedKey => WpaAuthenticationAlgorithm.SharedKey
  | .FastBssTransition => WpaAuthenticationAlgorithm.Ft
  | .Sae => WpaAuthenticationAlgorithm.Sae
  | .Fils => WpaAuthenticationAlgorithm.Fils
  | .FilsPfs | .FilsPublicKey => WpaAuthenticationAlgorithm.FilsSkPfs
  | .VendorSpecific | .Unknown => WpaAuthenticationAlgorithm.Invalid

def ieee80211SecurityProtocolToWpaSecurityProtocol :
    Ieee80211SecurityProtocol → WpaSecurityProtocol
  | .Wpa => WpaSecurityProtocol.Wpa
  | .Wpa2 => WpaSecurityProtocol.Wpa2
  | .Wpa3 => WpaSecurityProtocol.Wpa3
  | .Unknown => WpaSecurityProtocol.Unknown

-- Two suites, `FilsSha384` and `FtFilsSha384`, become the same key management.
def ieee80211AkmSuiteToWpaKeyManagement : Ieee80211AkmSuite → WpaKeyManagement
  | .Ieee8021x => .Ieee8021x
  | .Psk => .Psk
  | .Ft8021x => .FtIeee8021x
  | .FtPsk => .FtPsk
  | .Ieee8021xSha256 => .Ieee8021xSha256
  | .PskSha256 => .PskSha256
  | .Sae => .Sae
  | .FtSae => .FtSae
  | .Ieee8021xSuiteB => .Ieee8021xSuiteB
  | .Ieee8011xSuiteB192 => .Ieee8021xSuiteB192
  | .Ft8021xSha384 => .FtIeee8021xSha384
  | .FilsSha256 => .FilsSha256
  | .FilsSha384 => .FilsSha384
  | .FtFilsSha256 => .FtFilsSha256
  | .FtFilsSha384 => .FilsSha384
  | .Owe => .Owe
  | .Reserved0 | .Tdls | .ApPeerKey | .FtPskSha384 | .PskSha384 | .Pasn | .Unknown
  | .Other _ => .Unknown

def ieee80211CipherSuiteToWpaCipher : Ieee80211CipherSuite → WpaCipher
  | .BipCmac128 => .Aes128Cmac
  | .BipCmac256 => .BipCmac256
  | .BipGmac128 => .BipGmac128
  | .BipGmac256 => .BipGmac256
  | .Ccmp128 => .Ccmp
  | .Ccmp256 => .Ccmp256
  | .Gcmp128 => .Gcmp
  | .Gcmp256 => .Gcmp256
  | .GroupAddressesTrafficNotAllowed => .GtkNotUsed
  | .Tkip => .Tkip
  | .UseGroup => .None
  | .Wep104 => .Wep104
  | .Wep40 => .Wep40
  | .Unknown | .Other _ => .Unknown

-- Protocols that hostapd does not tell apart share an entry, and the first of them
-- fills it.
def ieee80211CipherSuitesToWpaCipherSuites
    (traversal : Table.Traversal Ieee80211SecurityProtocol (List Ieee80211CipherSuite))
    (ieee80211CipherSuitesConfigurations : CipherSuites) :
    Table WpaSecurityProtocol (List WpaCipher) :=
  (traversal.visit ieee80211CipherSuitesConfigurations).foldl
    (fun wpaCipherSuites entry =>
      wpaCipherSuites.emplace (ieee80211SecurityProtocolToWpaSecurityProtocol entry.1)
        (entry.2.map ieee80211CipherSuiteToWpaCipher)) ∅

-- The array that `emplace` makes of a raw key starts with zeros.
def wpaPskValueZero : List.Vector UInt8 WpaPskValueLength := List.Vector.replicate _ 0

-- The copy runs from the array of the result to the encoded text, so that the
-- result stays as it was made.
def ieee80211RsnaPskToWpaSharedKey : Ieee80211RsnaPsk → WpaPreSharedKey
  | .Passphrase passphrase => .WpaPskPassphraseT passphrase
  | .Value value =>
      let pskValueHex := toHexEncodedValue value
      let wpaPskValueHex := wpaPskValueZero
      let _pskValueHex :=
        if pskValueHex.length = WpaPskValueLength then wpaPskValueHex.toList else pskValueHex
      .WpaPskValueT wpaPskValueHex

def ieee80211RsnaPasswordToWpaSaePassword (ieee80211RsnaPassword : Ieee80211RsnaPassword) :
    SaePassword where
  credential := ieee80211RsnaPassword.credential
  passwordId := ieee80211RsnaPassword.passwordId
  peerMacAddress := ieee80211RsnaPassword.peerMacAddress.map ieee80211MacAddressToString

def ieee8021xRadiusEndpointTypeToWpaRadiusEndpointType :
    Ieee8021xRadiusServerEndpointType → RadiusEndpointType
  | .Authentication => .Authentication
  | .Accounting => .Accounting
  | .Unknown => .Unknown

def ieee8021xRadiusServerEndpointConfigurationToWpaRadiusEndpointConfiguration
    (configuration : Ieee8021xRadiusServerEndpointConfiguration) : RadiusEndpointConfiguration where
  type := ieee8021xRadiusEndpointTypeToWpaRadiusEndpointType configuration.type
  address := configuration.address
  port := configuration.port
  sharedSecret := configuration.sharedSecret

end NetRemote.Wifi
