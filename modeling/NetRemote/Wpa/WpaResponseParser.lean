import NetRemote.Foundation.Table
import NetRemote.Wpa.ProtocolHostapd

namespace NetRemote.Wpa

open Foundation Foundation.Bytes

-- The value of a property and the index that its key carried in brackets.
structure PropertyValue where
  value : ByteString
  index : Option Nat
  deriving DecidableEq, Repr

abbrev Properties := Table ByteString PropertyValue

namespace WpaResponseParser

-- A line with a key and a value, the key split at its brackets: what the line
-- says before the index is converted.
structure KeyValueLine where
  key : ByteString
  indexString : Option ByteString
  value : ByteString
  deriving DecidableEq, Repr

-- An end bracket in front of the start bracket makes the length wrap around, so
-- that the index string is the rest of the key.
def splitKey (key : ByteString) : ByteString × Option ByteString :=
  match key.findIdx? (· = ProtocolWpa.KeyValueIndexDelimeterStart) with
  | none => (key, none)
  | some indexStart =>
      match key.findIdx? (· = ProtocolWpa.KeyValueIndexDelimeterEnd) with
      | none => (key, none)
      | some indexEnd =>
          let count := (indexEnd + 2 ^ 64 - indexStart - 1) % 2 ^ 64
          (key.take indexStart, some (substr key (indexStart + 1) count))

-- Lines without a delimiter and lines with an empty key are skipped.
def readLine (line : ByteString) : Option KeyValueLine :=
  match split ProtocolWpa.KeyValueDelimiter line with
  | key :: value :: _ =>
      if key = [] then none
      else some ⟨(splitKey key).1, (splitKey key).2, value⟩
  | _ => none

def lines (responsePayload : ByteString) : List ByteString :=
  split ProtocolWpa.KeyValueLineDelimeter responsePayload

def toProperty (line : KeyValueLine) : Except Fault (ByteString × PropertyValue) :=
  match line.indexString with
  | none => .ok (line.key, ⟨line.value, none⟩)
  | some indexString =>
      match stoul indexString with
      | .ok index => .ok (line.key, ⟨line.value, some index⟩)
      | .error exception => .error (.Std exception)

-- The properties are keyed by the name in front of the bracket, and a later
-- line overwrites an earlier one with the same key.
def addLine (properties : Properties) (line : ByteString) : Except Fault Properties :=
  match readLine line with
  | none => .ok properties
  | some keyValueLine => do
      let property ← toProperty keyValueLine
      .ok (properties.insert property.1 property.2)

-- The list of properties to parse only decides whether anything is parsed;
-- required properties that are missing are not noticed.
def tryParseProperties (propertiesToParse : List ByteString) (responsePayload : ByteString) :
    Except Fault (Bool × Properties) :=
  if propertiesToParse = [] then .ok (true, ∅)
  else do
    let properties ← (lines responsePayload).foldlM addLine ∅
    .ok (true, properties)

end WpaResponseParser

structure BssInfo where
  index : Int := 0
  numStations : Int := 0
  bssid : ByteString := []
  interface : ByteString := []
  ssid : ByteString := []
  deriving DecidableEq, Repr

structure HostapdStatus where
  state : HostapdInterfaceState := .Unknown
  ieee80211n : Int := 0
  ieee80211ac : Int := 0
  ieee80211ax : Int := 0
  disable11n : Int := 0
  disable11ac : Int := 0
  disable11ax : Int := 0
  bss : List BssInfo := []
  deriving DecidableEq, Repr

-- `max_size` of the vector of BSS entries, whose elements take 152 bytes.
def bssSizeMax : Nat := (2 ^ 63 - 1) / 152

-- The largest vector of BSS entries that can be allocated. How large it is the code
-- does not know; one entry can always be had.
structure BssCapacity where
  entries : Nat
  pos : 0 < entries
  le_max : entries ≤ bssSizeMax

instance : Inhabited BssCapacity := ⟨⟨bssSizeMax, by decide, Nat.le_refl _⟩⟩

def parseInt (value : ByteString) (valueInt : Int) : Int := (fromCharsInt value valueInt).1

namespace WpaStatusResponseParser

def propertiesToParse : List ByteString :=
  [ProtocolHostapd.ResponseStatusPropertyKeyState,
    ProtocolHostapd.ResponseStatusPropertyKeyIeee80211N,
    ProtocolHostapd.ResponseStatusPropertyKeyIeee80211AC,
    ProtocolHostapd.ResponseStatusPropertyKeyIeee80211AX,
    ProtocolHostapd.PropertyNameBss,
    ProtocolHostapd.PropertyNameBssSsid,
    ProtocolHostapd.PropertyNameBssBssid,
    ProtocolHostapd.PropertyNameBssNumStations]

variable (bssCapacity : BssCapacity)

-- `std::vector::resize` throws, one exception above `max_size` and another where there
-- is no memory for the entries.
def enforceRequiredBssInfoSize (bss : List BssInfo) (sizeRequired : Nat) :
    Except Fault (List BssInfo) :=
  if bss.length < sizeRequired then
    if bssSizeMax < sizeRequired then .error (.Std .LengthError)
    else if bssCapacity.entries < sizeRequired then .error (.Std .BadAlloc)
    else .ok (bss ++ List.replicate (sizeRequired - bss.length) ({} : BssInfo))
  else .ok bss

-- The four indexed properties differ in the field they assign. The size that
-- an index requires is computed in a `size_t`.
def assignBss (status : HostapdStatus) (index : Option Nat) (assign : BssInfo → BssInfo) :
    Except Fault HostapdStatus :=
  match index with
  | none => .error (.Std .BadOptionalAccess)
  | some index => do
      let bss ← enforceRequiredBssInfoSize bssCapacity status.bss ((index + 1) % 2 ^ 64)
      if index < bss.length then .ok { status with bss := bss.modify index assign }
      else .error .UndefinedBehavior

def assignProperty (status : HostapdStatus) (property : ByteString × PropertyValue) :
    Except Fault HostapdStatus :=
  let key := property.1
  let value := property.2.value
  let index := property.2.index
  if key = ProtocolHostapd.ResponseStatusPropertyKeyState then
    .ok { status with state := hostapdInterfaceStateFromString value }
  else if key = ProtocolHostapd.ResponseStatusPropertyKeyIeee80211N then
    .ok { status with ieee80211n := parseInt value status.ieee80211n }
  else if key = ProtocolHostapd.ResponseStatusPropertyKeyDisable11N then
    .ok { status with disable11n := parseInt value status.disable11n }
  else if key = ProtocolHostapd.ResponseStatusPropertyKeyIeee80211AC then
    .ok { status with ieee80211ac := parseInt value status.ieee80211ac }
  else if key = ProtocolHostapd.ResponseStatusPropertyKeyDisableAC then
    .ok { status with disable11ac := parseInt value status.disable11ac }
  else if key = ProtocolHostapd.ResponseStatusPropertyKeyIeee80211AX then
    .ok { status with ieee80211ax := parseInt value status.ieee80211ax }
  else if key = ProtocolHostapd.ResponseStatusPropertyKeyDisableAX then
    .ok { status with disable11ax := parseInt value status.disable11ax }
  else if key = ProtocolHostapd.PropertyNameBss then
    assignBss bssCapacity status index fun bss => { bss with interface := value }
  else if key = ProtocolHostapd.PropertyNameBssBssid then
    assignBss bssCapacity status index fun bss => { bss with bssid := value }
  else if key = ProtocolHostapd.PropertyNameBssSsid then
    assignBss bssCapacity status index fun bss => { bss with ssid := value }
  else if key = ProtocolHostapd.PropertyNameBssNumStations then
    assignBss bssCapacity status index fun bss =>
      { bss with numStations := parseInt value bss.numStations }
  else .ok status

def parsePayload (traversal : Table.Traversal ByteString PropertyValue)
    (properties : Properties) : Except Fault HostapdStatus :=
  (traversal.visit properties).foldlM (assignProperty bssCapacity) {}

-- `none` is the null response of a failed first pass.
def parse (traversal : Table.Traversal ByteString PropertyValue) (responsePayload : ByteString) :
    Except Fault (Option HostapdStatus) := do
  let (parsed, properties) ←
    WpaResponseParser.tryParseProperties propertiesToParse responsePayload
  if parsed then
    let status ← parsePayload bssCapacity traversal properties
    .ok (some status)
  else .ok none

end WpaStatusResponseParser

-- A response is value-initialized, so its members start at zero.
structure HostapdBssConfiguration where
  bssid : ByteString := []
  ssid : ByteString := []
  wpa : WpaSecurityProtocol := .Unknown
  wpaKeyMgmt : List WpaKeyManagement := []
  groupCipher : WpaCipher := .Unknown
  rsnPairwiseCipher : WpaCipher := .Unknown
  wpaPairwiseCipher : WpaCipher := .Unknown
  deriving DecidableEq, Repr

namespace WpaGetConfigResponseParser

def propertiesToParse : List ByteString :=
  [ProtocolHostapd.ResponseGetConfigPropertyKeyBssid,
    ProtocolHostapd.ResponseGetConfigPropertyKeySsid,
    ProtocolHostapd.ResponseGetConfigPropertyKeyWpa,
    ProtocolHostapd.ResponseGetConfigPropertyKeyWpaKeyMgmt,
    ProtocolHostapd.ResponseGetConfigPropertyKeyGroupCipher,
    ProtocolHostapd.ResponseGetConfigPropertyKeyRsnPairwiseCipher,
    ProtocolHostapd.ResponseGetConfigPropertyKeyWpaPairwiseCipher]

-- `uninitialized` is what the local variable holds that a failed conversion of
-- the `wpa` property leaves as it is.
def assignProperty (uninitialized : Int) (configuration : HostapdBssConfiguration)
    (property : ByteString × PropertyValue) : HostapdBssConfiguration :=
  let key := property.1
  let value := property.2.value
  if key = ProtocolHostapd.ResponseGetConfigPropertyKeyBssid then
    { configuration with bssid := value }
  else if key = ProtocolHostapd.ResponseGetConfigPropertyKeySsid then
    { configuration with ssid := value }
  else if key = ProtocolHostapd.ResponseGetConfigPropertyKeyWpa then
    { configuration with wpa := ⟨UInt32.ofInt (parseInt value uninitialized)⟩ }
  else if key = ProtocolHostapd.ResponseGetConfigPropertyKeyWpaKeyMgmt then
    { configuration with wpaKeyMgmt := wpaKeyManagementsFromPropertyValue value }
  else if key = ProtocolHostapd.ResponseGetConfigPropertyKeyGroupCipher then
    { configuration with groupCipher := wpaCipherFromPropertyValue value }
  else if key = ProtocolHostapd.ResponseGetConfigPropertyKeyRsnPairwiseCipher then
    { configuration with rsnPairwiseCipher := wpaCipherFromPropertyValue value }
  else if key = ProtocolHostapd.ResponseGetConfigPropertyKeyWpaPairwiseCipher then
    { configuration with wpaPairwiseCipher := wpaCipherFromPropertyValue value }
  else configuration

def parsePayload (traversal : Table.Traversal ByteString PropertyValue) (uninitialized : Int)
    (properties : Properties) : HostapdBssConfiguration :=
  (traversal.visit properties).foldl (assignProperty uninitialized) {}

def parse (traversal : Table.Traversal ByteString PropertyValue) (uninitialized : Int)
    (responsePayload : ByteString) : Except Fault (Option HostapdBssConfiguration) := do
  let (parsed, properties) ←
    WpaResponseParser.tryParseProperties propertiesToParse responsePayload
  if parsed then .ok (some (parsePayload traversal uninitialized properties))
  else .ok none

end WpaGetConfigResponseParser

end NetRemote.Wpa
