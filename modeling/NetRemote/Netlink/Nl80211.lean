import NetRemote.Foundation.Bytes
import NetRemote.Foundation.Table

namespace NetRemote.Netlink

open Foundation Foundation.Bytes

-- What the lookups throw: `std::system_error` and `NetlinkException`.
inductive NetlinkFault where
  | SystemError (code : Int) (what : ByteString)
  | NetlinkException (code : Int) (what : ByteString)
  deriving DecidableEq, Repr

inductive Nl80211Band where
  | NL80211_BAND_2GHZ
  | NL80211_BAND_5GHZ
  | NL80211_BAND_60GHZ
  | NL80211_BAND_6GHZ
  | NL80211_BAND_S1GHZ
  | NL80211_BAND_LC
  deriving DecidableEq, Repr

structure Nl80211WiphyBand where
  htCapabilities : UInt16
  vhtCapabilities : UInt32
  deriving DecidableEq, Repr

-- Interface types, suites and WPA versions are numbers that the kernel hands out.
structure Nl80211Wiphy where
  supportedInterfaceTypes : List UInt32
  akmSuites : List UInt32
  cipherSuites : List UInt32
  bands : Table Nl80211Band Nl80211WiphyBand
  wpaVersions : List UInt32

def NL80211_IFTYPE_AP : UInt32 := 3
def NL80211_IFTYPE_AP_VLAN : UInt32 := 4

def Nl80211AccessPointInterfaceTypes : List UInt32 := [NL80211_IFTYPE_AP, NL80211_IFTYPE_AP_VLAN]

def NL80211_CMD_NEW_INTERFACE : UInt8 := 7
def NL80211_CMD_DEL_INTERFACE : UInt8 := 8

structure Nl80211Interface where
  name : String
  wiphyIndex : UInt32
  deriving DecidableEq, Repr

-- The lookup of the wiphy asks the kernel, which may not know the index any more.
def Nl80211Interface.supportsAccessPointMode (nl80211Interface : Nl80211Interface)
    (fromIndex : UInt32 → Option Nl80211Wiphy) : Bool :=
  ((fromIndex nl80211Interface.wiphyIndex).map fun wiphy =>
    wiphy.supportedInterfaceTypes.any fun interfaceType =>
      interfaceType ∈ Nl80211AccessPointInterfaceTypes).getD false

def NL80211_WPA_VERSION_1 : UInt32 := 1
def NL80211_WPA_VERSION_2 : UInt32 := 2
def NL80211_WPA_VERSION_3 : UInt32 := 4

end NetRemote.Netlink
