import NetRemote.Foundation.Attributes
import NetRemote.Wifi.AccessPointControllerLinux

namespace NetRemote.Netlink

open Foundation Foundation.Bytes Foundation.Attributes Wifi

-- What the library makes of a stream of attributes: their table, unless it finds fault
-- with the stream, and the attributes in turn, each with its type.
structure Libnl where
  nlaParse : ByteString → Option AttributeTable
  nlaForEachNested : ByteString → List (UInt16 × ByteString)

structure Nl80211Message where
  hasValidHeader : Bool
  attributes : ByteString

section Attributes

def NL80211_ATTR_WIPHY : Nat := 1
def NL80211_ATTR_WIPHY_NAME : Nat := 2
def NL80211_ATTR_IFINDEX : Nat := 3
def NL80211_ATTR_IFNAME : Nat := 4
def NL80211_ATTR_IFTYPE : Nat := 5
def NL80211_ATTR_MAC : Nat := 6
def NL80211_ATTR_WIPHY_BANDS : Nat := 22
def NL80211_ATTR_SUPPORTED_IFTYPES : Nat := 32
def NL80211_ATTR_CIPHER_SUITES : Nat := 57
def NL80211_ATTR_AKM_SUITES : Nat := 76
def NL80211_ATTR_ROAM_SUPPORT : Nat := 131

def NL80211_BAND_ATTR_FREQS : Nat := 1
def NL80211_BAND_ATTR_RATES : Nat := 2
def NL80211_BAND_ATTR_HT_CAPA : Nat := 4
def NL80211_BAND_ATTR_VHT_MCS_SET : Nat := 7
def NL80211_BAND_ATTR_VHT_CAPA : Nat := 8

def NL80211_FREQUENCY_ATTR_FREQ : Nat := 1
def NL80211_FREQUENCY_ATTR_DISABLED : Nat := 2
def NL80211_FREQUENCY_ATTR_OFFSET : Nat := 20

def NL80211_BITRATE_ATTR_RATE : Nat := 1

def NUM_NL80211_BANDS : UInt16 := 6

end Attributes

structure WiphyBandFrequency where
  frequency : UInt32
  frequencyOffset : Option UInt32
  isDisabled : Bool
  deriving DecidableEq, Repr

structure Nl80211WiphyBandDetails extends Nl80211WiphyBand where
  frequencies : List WiphyBandFrequency
  bitrates : List UInt32
  vhtMcsSet : Option ByteString
  deriving DecidableEq, Repr

structure Nl80211WiphyDetails where
  index : UInt32
  name : ByteString
  akmSuites : List UInt32
  cipherSuites : List UInt32
  bands : Table UInt16 Nl80211WiphyBandDetails
  supportedInterfaceTypes : List UInt16
  wpaVersions : List UInt32
  supportsRoaming : Bool

structure Nl80211InterfaceDetails where
  name : ByteString
  macAddress : ByteString
  type : UInt32
  index : UInt32
  wiphyIndex : UInt32
  deriving DecidableEq, Repr

def Nl80211MacAddressNumOctets : Nat := 6
def VhtMcsSetNumBytes : Nat := 32

variable (libnl : Libnl)

-- An attribute that is absent has no attributes nested in it.
def nested (nla : Option ByteString) : List (UInt16 × ByteString) :=
  nla.elim [] libnl.nlaForEachNested

def WiphyBandFrequency.parse (wiphyBandFrequency : ByteString) :
    Read (Option WiphyBandFrequency) :=
  (libnl.nlaParse wiphyBandFrequency).elim (.ok none) fun wiphyBandFrequenciesAttributes =>
    if (wiphyBandFrequenciesAttributes NL80211_FREQUENCY_ATTR_FREQ).isNone then .ok none
    else do
      let isDisabled := (wiphyBandFrequenciesAttributes NL80211_FREQUENCY_ATTR_DISABLED).isSome
      let frequency ← getU32 (wiphyBandFrequenciesAttributes NL80211_FREQUENCY_ATTR_FREQ)
      let frequencyOffset ←
        ifPresent (wiphyBandFrequenciesAttributes NL80211_FREQUENCY_ATTR_OFFSET) none
          fun nla => do return some (← getU32 nla)
      return some { frequency, frequencyOffset, isDisabled }

-- A bit rate whose attributes are faulty ends the band.
def parseBitRates : List (UInt16 × ByteString) → Read (Option (List UInt32))
  | [] => .ok (some [])
  | (_, bitRate) :: rest =>
      match libnl.nlaParse bitRate with
      | none => .ok none
      | some bitRateAttributes =>
          if (bitRateAttributes NL80211_BITRATE_ATTR_RATE).isNone then parseBitRates rest
          else do
            let bitRateValue ← getU32 (bitRateAttributes NL80211_BITRATE_ATTR_RATE)
            let bitRates ← parseBitRates rest
            return bitRates.map (bitRateValue :: ·)

-- The set is looked at only when there are capabilities.
def parseVht (wiphyBandAttributes : AttributeTable) : Read (UInt32 × Option ByteString) :=
  ifPresent (wiphyBandAttributes NL80211_BAND_ATTR_VHT_CAPA) (0, none) fun nla => do
    let vhtCapabilities ← getU32 nla
    let vhtMcsSet ← ifPresent (wiphyBandAttributes NL80211_BAND_ATTR_VHT_MCS_SET) none fun nla => do
      return some (← getBytes nla VhtMcsSetNumBytes)
    return (vhtCapabilities, vhtMcsSet)

def Nl80211WiphyBand.parse (wiphyBand : ByteString) : Read (Option Nl80211WiphyBandDetails) :=
  (libnl.nlaParse wiphyBand).elim (.ok none) fun wiphyBandAttributes => do
    let htCapabilities ← ifPresent (wiphyBandAttributes NL80211_BAND_ATTR_HT_CAPA) 0 getU16
    let vht ← parseVht wiphyBandAttributes
    let frequencies ← (nested libnl (wiphyBandAttributes NL80211_BAND_ATTR_FREQS)).mapM
      fun wiphyBandFrequency => WiphyBandFrequency.parse libnl wiphyBandFrequency.2
    let bitRates ← parseBitRates libnl (nested libnl (wiphyBandAttributes NL80211_BAND_ATTR_RATES))
    return bitRates.map fun bitrates =>
      { htCapabilities
        vhtCapabilities := vht.1
        vhtMcsSet := vht.2
        frequencies := frequencies.filterMap id
        bitrates }

def isWpaVersionSupported (wpaVersion : UInt32) (cipherSuites akmSuites : List UInt32) : Bool :=
  let ieee80211SecurityProtocol := nl80211WpaVersionToIeee80211SecurityProtocol wpaVersion
  (cipherSuites.any fun cipherSuite =>
    .ofValue cipherSuite ∈ wpaCipherSuites ieee80211SecurityProtocol) &&
  akmSuites.any fun akmSuite => .ofValue akmSuite ∈ wpaAkmSuites ieee80211SecurityProtocol

-- The library says by one or zero whether the header is valid.
def genlmsgValidHdr (nl80211Message : Nl80211Message) : Int :=
  if nl80211Message.hasValidHeader then 1 else 0

-- The attributes of a message, unless it is null or they are faulty. The check of the
-- header is one for an error code.
def parseMessage (nl80211Message : Option Nl80211Message) : Option AttributeTable := do
  let nl80211Message ← nl80211Message
  if genlmsgValidHdr nl80211Message < 0 then none
  else libnl.nlaParse nl80211Message.attributes

def parseWiphyBands (wiphyBands : List (UInt16 × ByteString)) :
    Read (Table UInt16 Nl80211WiphyBandDetails) := do
  let known := wiphyBands.filter fun wiphyBand => wiphyBand.1 ≠ NUM_NL80211_BANDS
  let nl80211Bands ← known.mapM fun wiphyBand => do
    let nl80211Band ← Nl80211WiphyBand.parse libnl wiphyBand.2
    return nl80211Band.map fun nl80211Band => (wiphyBand.1, nl80211Band)
  return (nl80211Bands.filterMap id).foldl (fun bands entry => bands.emplace entry.1 entry.2) ∅

def Nl80211Wiphy.parse (nl80211Message : Option Nl80211Message) :
    Read (Option Nl80211WiphyDetails) :=
  (parseMessage libnl nl80211Message).elim (.ok none) fun wiphyAttributes =>
    if (wiphyAttributes NL80211_ATTR_WIPHY).isNone ∨
        (wiphyAttributes NL80211_ATTR_WIPHY_NAME).isNone then .ok none
    else do
      let wiphyIndex ← getU32 (wiphyAttributes NL80211_ATTR_WIPHY)
      let bands ← parseWiphyBands libnl
        (nested libnl (wiphyAttributes NL80211_ATTR_WIPHY_BANDS))
      let akmSuites := (wiphyAttributes NL80211_ATTR_AKM_SUITES).elim AllIeee80211Akms words
      let cipherSuites := (wiphyAttributes NL80211_ATTR_CIPHER_SUITES).elim [] words
      let supportedInterfaceTypes :=
        (nested libnl (wiphyAttributes NL80211_ATTR_SUPPORTED_IFTYPES)).map Prod.fst
      let supportsRoaming := (wiphyAttributes NL80211_ATTR_ROAM_SUPPORT).isSome
      let wpaVersions :=
        [NL80211_WPA_VERSION_1, NL80211_WPA_VERSION_2, NL80211_WPA_VERSION_3].filter
          fun wpaVersion => isWpaVersionSupported wpaVersion cipherSuites akmSuites
      let wiphyName ← getString (wiphyAttributes NL80211_ATTR_WIPHY_NAME)
      return some
        { index := wiphyIndex
          name := wiphyName
          akmSuites, cipherSuites, bands, supportedInterfaceTypes, wpaVersions, supportsRoaming }

-- The data of an attribute that is absent is not at the null pointer, so that the check of
-- the address for one never fails.
def Nl80211Interface.parse (nl80211Message : Option Nl80211Message) :
    Read (Option Nl80211InterfaceDetails) :=
  (parseMessage libnl nl80211Message).elim (.ok none) fun interfaceMessageAttributes => do
    let interfaceType ← getU32 (interfaceMessageAttributes NL80211_ATTR_IFTYPE)
    let interfaceIndex ← getU32 (interfaceMessageAttributes NL80211_ATTR_IFINDEX)
    let wiphyIndex ← getU32 (interfaceMessageAttributes NL80211_ATTR_WIPHY)
    let macAddress ←
      getBytes (interfaceMessageAttributes NL80211_ATTR_MAC) Nl80211MacAddressNumOctets
    let interfaceName ← getString (interfaceMessageAttributes NL80211_ATTR_IFNAME)
    return some
      { name := interfaceName
        macAddress
        type := interfaceType
        index := interfaceIndex
        wiphyIndex }

end NetRemote.Netlink
