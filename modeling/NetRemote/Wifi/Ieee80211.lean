import Mathlib.Data.Vector.Defs
import NetRemote.Foundation.Bytes
import NetRemote.Foundation.Table

namespace NetRemote.Wifi

open Foundation Foundation.Bytes

inductive Ieee80211SecurityProtocol where
  | Unknown
  | Wpa
  | Wpa2
  | Wpa3
  deriving DecidableEq, Repr

inductive Ieee80211FrequencyBand where
  | Unknown
  | TwoPointFourGHz
  | FiveGHz
  | SixGHz
  deriving DecidableEq, Repr

def Ieee80211FrequencyBand.enumName : Ieee80211FrequencyBand → ByteString
  | .Unknown => str "Unknown"
  | .TwoPointFourGHz => str "TwoPointFourGHz"
  | .FiveGHz => str "FiveGHz"
  | .SixGHz => str "SixGHz"

inductive Ieee80211PhyType where
  | Unknown
  | B
  | G
  | N
  | A
  | AC
  | AD
  | AX
  | BE
  deriving DecidableEq, Repr

def Ieee80211PhyType.enumName : Ieee80211PhyType → ByteString
  | .Unknown => str "Unknown"
  | .B => str "B"
  | .G => str "G"
  | .N => str "N"
  | .A => str "A"
  | .AC => str "AC"
  | .AD => str "AD"
  | .AX => str "AX"
  | .BE => str "BE"

inductive Ieee80211AuthenticationAlgorithm where
  | Unknown
  | OpenSystem
  | SharedKey
  | FastBssTransition
  | Sae
  | Fils
  | FilsPfs
  | FilsPublicKey
  | VendorSpecific
  deriving DecidableEq, Repr

def MakeIeeeSuite (oui : UInt32) (suiteId : UInt8) : UInt32 :=
  ((oui &&& 0x00FFFFFF) <<< 8) ||| suiteId.toUInt32

def OuiIeee80211 : UInt32 := 0x00000FAC
def OuiInvalid : UInt32 := 0x00FFFFFF

def MakeIeee80211Suite (suiteId : UInt8) : UInt32 := MakeIeeeSuite OuiIeee80211 suiteId

-- The suites that the kernel reports are cast to the enumerations, whether or not
-- they have an enumerator of their own.
inductive Ieee80211AkmSuite where
  | Unknown
  | Reserved0
  | Ieee8021x
  | Psk
  | Ft8021x
  | FtPsk
  | Ieee8021xSha256
  | PskSha256
  | Tdls
  | Sae
  | FtSae
  | ApPeerKey
  | Ieee8021xSuiteB
  | Ieee8011xSuiteB192
  | Ft8021xSha384
  | FilsSha256
  | FilsSha384
  | FtFilsSha256
  | FtFilsSha384
  | Owe
  | FtPskSha384
  | PskSha384
  | Pasn
  | Other (value : UInt32)
  deriving DecidableEq, Repr

def Ieee80211AkmSuite.ofValue (value : UInt32) : Ieee80211AkmSuite :=
  if value = MakeIeeeSuite OuiInvalid 0 then .Unknown
  else if value = MakeIeee80211Suite 0 then .Reserved0
  else if value = MakeIeee80211Suite 1 then .Ieee8021x
  else if value = MakeIeee80211Suite 2 then .Psk
  else if value = MakeIeee80211Suite 3 then .Ft8021x
  else if value = MakeIeee80211Suite 4 then .FtPsk
  else if value = MakeIeee80211Suite 5 then .Ieee8021xSha256
  else if value = MakeIeee80211Suite 6 then .PskSha256
  else if value = MakeIeee80211Suite 7 then .Tdls
  else if value = MakeIeee80211Suite 8 then .Sae
  else if value = MakeIeee80211Suite 9 then .FtSae
  else if value = MakeIeee80211Suite 10 then .ApPeerKey
  else if value = MakeIeee80211Suite 11 then .Ieee8021xSuiteB
  else if value = MakeIeee80211Suite 12 then .Ieee8011xSuiteB192
  else if value = MakeIeee80211Suite 13 then .Ft8021xSha384
  else if value = MakeIeee80211Suite 14 then .FilsSha256
  else if value = MakeIeee80211Suite 15 then .FilsSha384
  else if value = MakeIeee80211Suite 16 then .FtFilsSha256
  else if value = MakeIeee80211Suite 17 then .FtFilsSha384
  else if value = MakeIeee80211Suite 18 then .Owe
  else if value = MakeIeee80211Suite 19 then .FtPskSha384
  else if value = MakeIeee80211Suite 20 then .PskSha384
  else if value = MakeIeee80211Suite 21 then .Pasn
  else .Other value

-- The identifiers of the known suites are without a gap.
def AllIeee80211Akms : List UInt32 :=
  MakeIeeeSuite OuiInvalid 0 :: (List.range 22).map fun id => MakeIeee80211Suite (.ofNat id)

def wpaAkmSuites : Ieee80211SecurityProtocol → List Ieee80211AkmSuite
  | .Wpa | .Wpa2 => [.Ieee8021x, .Psk]
  | .Wpa3 => [.Ieee8021x, .Ft8021x, .FtSae, .Ieee8021xSuiteB, .Ieee8011xSuiteB192, .Sae, .Owe]
  | .Unknown => []

inductive Ieee80211CipherSuite where
  | Unknown
  | BipCmac128
  | BipCmac256
  | BipGmac128
  | BipGmac256
  | Ccmp128
  | Ccmp256
  | Gcmp128
  | Gcmp256
  | GroupAddressesTrafficNotAllowed
  | Tkip
  | UseGroup
  | Wep104
  | Wep40
  | Other (value : UInt32)
  deriving DecidableEq, Repr

def Ieee80211CipherSuite.ofValue (value : UInt32) : Ieee80211CipherSuite :=
  if value = MakeIeeeSuite OuiInvalid 0 then .Unknown
  else if value = MakeIeee80211Suite 0 then .UseGroup
  else if value = MakeIeee80211Suite 1 then .Wep40
  else if value = MakeIeee80211Suite 2 then .Tkip
  else if value = MakeIeee80211Suite 4 then .Ccmp128
  else if value = MakeIeee80211Suite 5 then .Wep104
  else if value = MakeIeee80211Suite 6 then .BipCmac128
  else if value = MakeIeee80211Suite 7 then .GroupAddressesTrafficNotAllowed
  else if value = MakeIeee80211Suite 8 then .Gcmp128
  else if value = MakeIeee80211Suite 9 then .Gcmp256
  else if value = MakeIeee80211Suite 10 then .Ccmp256
  else if value = MakeIeee80211Suite 11 then .BipGmac128
  else if value = MakeIeee80211Suite 12 then .BipGmac256
  else if value = MakeIeee80211Suite 13 then .BipCmac256
  else .Other value

def wpaCipherSuites : Ieee80211SecurityProtocol → List Ieee80211CipherSuite
  | .Wpa => [.Tkip]
  | .Wpa2 => [.Tkip, .Ccmp128]
  | .Wpa3 => [.Tkip, .Ccmp128, .Ccmp256, .Gcmp128, .Gcmp256]
  | .Unknown => []

abbrev CipherSuites := Table Ieee80211SecurityProtocol (List Ieee80211CipherSuite)

def hexDigitUpper (digit : UInt8) : UInt8 := if digit < 10 then digit + 48 else digit + 55

-- `{:02X}`
def hexByte (byte : UInt8) : ByteString := [hexDigitUpper (byte / 16), hexDigitUpper (byte % 16)]

def MacAddressNumOctets : Nat := 6

abbrev Ieee80211MacAddress := List.Vector UInt8 MacAddressNumOctets

def ieee80211MacAddressToString (macAddress : Ieee80211MacAddress) : ByteString :=
  (str ":").intercalate (macAddress.toList.map hexByte)

def Ieee80211RsnaPskLength : Nat := 32
def Ieee80211RsnaPskPassphraseLengthMinimum : Nat := 8
def Ieee80211RsnaPskPassphraseLengthMaximum : Nat := 63

abbrev Ieee80211RsnaPskValue := List.Vector UInt8 Ieee80211RsnaPskLength

-- The encoding of a key is the alternative that it holds.
inductive Ieee80211RsnaPsk where
  | Passphrase (passphrase : ByteString)
  | Value (value : Ieee80211RsnaPskValue)
  deriving DecidableEq

def toHexEncodedValue (value : Ieee80211RsnaPskValue) : ByteString := value.toList.flatMap hexByte

structure Ieee80211RsnaPassword where
  credential : ByteString := []
  passwordId : Option ByteString := none
  peerMacAddress : Option Ieee80211MacAddress := none
  deriving DecidableEq

structure Ieee80211AuthenticationData where
  psk : Option Ieee80211RsnaPsk := none
  sae : Option (List Ieee80211RsnaPassword) := none
  deriving DecidableEq

inductive Ieee8021xRadiusServerEndpointType where
  | Unknown
  | Authentication
  | Accounting
  deriving DecidableEq, Repr

structure Ieee8021xRadiusServerEndpointConfiguration where
  type : Ieee8021xRadiusServerEndpointType := .Unknown
  address : ByteString := []
  port : Option UInt16 := none
  sharedSecret : List UInt8 := []
  deriving DecidableEq, Repr

structure Ieee8021xRadiusConfiguration where
  authenticationServer : Ieee8021xRadiusServerEndpointConfiguration := {}
  accountingServer : Option Ieee8021xRadiusServerEndpointConfiguration := none
  fallbackServers : List Ieee8021xRadiusServerEndpointConfiguration := []
  deriving DecidableEq, Repr

structure Ieee80211AccessPointCapabilities where
  securityProtocols : List Ieee80211SecurityProtocol := []
  phyTypes : List Ieee80211PhyType := []
  frequencyBands : List Ieee80211FrequencyBand := []
  akmSuites : List Ieee80211AkmSuite := []
  cipherSuites : List Ieee80211CipherSuite := []
  deriving DecidableEq, Repr

end NetRemote.Wifi
