import NetRemote.Netlink.Nl80211Messages

namespace NetRemote.Netlink

open Foundation Foundation.Bytes Foundation.Attributes

variable (libnl : Libnl)

def Identified (table : Option AttributeTable) (identifying : List Nat) : Prop :=
  ∃ attributes, table = some attributes ∧ ∀ type ∈ identifying, (attributes type).isSome

-- The message is read within its bounds, and without what identifies an object it yields
-- none.
structure Guarded {α : Type} (table : Option AttributeTable) (identifying : List Nat)
    (parsed : Read (Option α)) : Prop where
  inBounds : InBounds parsed
  unidentified : ¬Identified table identifying → parsed = .ok none

-- What the payloads have to hold, attribute by attribute.
section Fits

@[mk_iff]
structure FrequencyFits (attributes : AttributeTable) : Prop where
  frequency : HasBytes (attributes NL80211_FREQUENCY_ATTR_FREQ) 4
  frequencyOffset : (attributes NL80211_FREQUENCY_ATTR_OFFSET).isSome →
    HasBytes (attributes NL80211_FREQUENCY_ATTR_OFFSET) 4

def FrequencyReadable (wiphyBandFrequency : ByteString) : Prop :=
  ∀ attributes, libnl.nlaParse wiphyBandFrequency = some attributes →
    (attributes NL80211_FREQUENCY_ATTR_FREQ).isSome → FrequencyFits attributes

-- The bit rates after a faulty one are not read.
def BitRatesReadable (bitRates : List (UInt16 × ByteString)) : Prop :=
  ∀ bitRate ∈ bitRates.takeWhile fun bitRate => (libnl.nlaParse bitRate.2).isSome,
    ∀ attributes, libnl.nlaParse bitRate.2 = some attributes →
      (attributes NL80211_BITRATE_ATTR_RATE).isSome →
        HasBytes (attributes NL80211_BITRATE_ATTR_RATE) 4

@[mk_iff]
structure BandFits (attributes : AttributeTable) : Prop where
  htCapabilities : (attributes NL80211_BAND_ATTR_HT_CAPA).isSome →
    HasBytes (attributes NL80211_BAND_ATTR_HT_CAPA) 2
  vhtCapabilities : (attributes NL80211_BAND_ATTR_VHT_CAPA).isSome →
    HasBytes (attributes NL80211_BAND_ATTR_VHT_CAPA) 4
  vhtMcsSet : (attributes NL80211_BAND_ATTR_VHT_CAPA).isSome →
    (attributes NL80211_BAND_ATTR_VHT_MCS_SET).isSome →
      HasBytes (attributes NL80211_BAND_ATTR_VHT_MCS_SET) VhtMcsSetNumBytes
  frequencies : ∀ wiphyBandFrequency ∈ nested libnl (attributes NL80211_BAND_ATTR_FREQS),
    FrequencyReadable libnl wiphyBandFrequency.2
  bitRates : BitRatesReadable libnl (nested libnl (attributes NL80211_BAND_ATTR_RATES))

def BandReadable (wiphyBand : ByteString) : Prop :=
  ∀ attributes, libnl.nlaParse wiphyBand = some attributes → BandFits libnl attributes

@[mk_iff]
structure WiphyFits (attributes : AttributeTable) : Prop where
  wiphy : HasBytes (attributes NL80211_ATTR_WIPHY) 4
  wiphyName : HasString (attributes NL80211_ATTR_WIPHY_NAME)
  bands : ∀ wiphyBand ∈ nested libnl (attributes NL80211_ATTR_WIPHY_BANDS),
    wiphyBand.1 ≠ NUM_NL80211_BANDS → BandReadable libnl wiphyBand.2

-- Whether the header of a message is valid makes no difference.
def tableOf (nl80211Message : Option Nl80211Message) : Option AttributeTable :=
  nl80211Message.bind fun nl80211Message => libnl.nlaParse nl80211Message.attributes

def WiphyReadable (nl80211Message : Option Nl80211Message) : Prop :=
  ∀ attributes, tableOf libnl nl80211Message = some attributes →
    (attributes NL80211_ATTR_WIPHY).isSome → (attributes NL80211_ATTR_WIPHY_NAME).isSome →
      WiphyFits libnl attributes

@[mk_iff]
structure InterfaceFits (attributes : AttributeTable) : Prop where
  interfaceType : HasBytes (attributes NL80211_ATTR_IFTYPE) 4
  interfaceIndex : HasBytes (attributes NL80211_ATTR_IFINDEX) 4
  wiphy : HasBytes (attributes NL80211_ATTR_WIPHY) 4
  macAddress : HasBytes (attributes NL80211_ATTR_MAC) Nl80211MacAddressNumOctets
  interfaceName : HasString (attributes NL80211_ATTR_IFNAME)

def InterfaceReadable (nl80211Message : Option Nl80211Message) : Prop :=
  ∀ attributes, tableOf libnl nl80211Message = some attributes → InterfaceFits attributes

end Fits

-- The check of the header never fails.
theorem parseMessage_eq (nl80211Message : Option Nl80211Message) :
    parseMessage libnl nl80211Message = tableOf libnl nl80211Message := by
  cases nl80211Message with
  | none => rfl
  | some message =>
      have hcode : ¬ genlmsgValidHdr message < 0 := by
        unfold genlmsgValidHdr
        split_ifs <;> decide
      exact if_neg hcode

section Frequency

theorem frequency_inBounds_iff (wiphyBandFrequency : ByteString) :
    InBounds (WiphyBandFrequency.parse libnl wiphyBandFrequency) ↔
      FrequencyReadable libnl wiphyBandFrequency := by
  apply inBounds_table
  intro attributes
  rw [inBounds_unless_absent]
  apply imp_congr_right
  intro _
  rw [frequencyFits_iff, ← inBounds_getU32, ← inBounds_getU32]
  apply inBounds_bind
  intro frequency
  exact inBounds_last.trans (inBounds_ifPresent.trans (imp_congr_right fun _ => inBounds_last))

end Frequency

section Band

theorem bitRates_inBounds_iff (bitRates : List (UInt16 × ByteString)) :
    InBounds (parseBitRates libnl bitRates) ↔ BitRatesReadable libnl bitRates := by
  unfold BitRatesReadable
  induction bitRates with
  | nil => exact iff_of_true (inBounds_ok _) nofun
  | cons bitRate bitRates ih =>
      obtain ⟨type, bitRate⟩ := bitRate
      unfold parseBitRates
      cases hparse : libnl.nlaParse bitRate with
      | none =>
          rw [List.takeWhile_cons_of_neg (by simp [hparse])]
          exact iff_of_true (inBounds_ok _) nofun
      | some attributes =>
          rw [List.takeWhile_cons_of_pos (by simp [hparse]), List.forall_mem_cons, ← ih]
          simp only [hparse, Option.some.injEq, forall_eq']
          cases hrate : attributes NL80211_BITRATE_ATTR_RATE with
          | none => simp
          | some rate =>
              simp only [Option.isNone_some, Option.isSome_some, forall_const]
              rw [← inBounds_getU32]
              exact inBounds_bind fun _ => inBounds_last

theorem vht_inBounds_iff (attributes : AttributeTable) :
    InBounds (parseVht attributes) ↔
      ((attributes NL80211_BAND_ATTR_VHT_CAPA).isSome →
        HasBytes (attributes NL80211_BAND_ATTR_VHT_CAPA) 4) ∧
      ((attributes NL80211_BAND_ATTR_VHT_CAPA).isSome →
        (attributes NL80211_BAND_ATTR_VHT_MCS_SET).isSome →
          HasBytes (attributes NL80211_BAND_ATTR_VHT_MCS_SET) VhtMcsSetNumBytes) := by
  rw [← imp_and, ← inBounds_getU32]
  apply inBounds_ifPresent.trans
  apply imp_congr_right
  intro _
  apply inBounds_bind
  intro vhtCapabilities
  apply inBounds_last.trans
  apply inBounds_ifPresent.trans
  exact imp_congr_right fun _ => inBounds_last.trans inBounds_getBytes

theorem band_inBounds_iff (wiphyBand : ByteString) :
    InBounds (Nl80211WiphyBand.parse libnl wiphyBand) ↔ BandReadable libnl wiphyBand := by
  apply inBounds_table
  intro attributes
  have hht : InBounds (ifPresent (attributes NL80211_BAND_ATTR_HT_CAPA) 0 getU16) ↔
      ((attributes NL80211_BAND_ATTR_HT_CAPA).isSome →
        HasBytes (attributes NL80211_BAND_ATTR_HT_CAPA) 2) :=
    inBounds_ifPresent.trans (imp_congr_right fun _ => inBounds_getU16)
  rw [bandFits_iff, ← hht, ← and_assoc (b := _ → _ → _), ← vht_inBounds_iff]
  apply inBounds_bind
  intro htCapabilities
  apply inBounds_bind
  intro vht
  simp only [← frequency_inBounds_iff, ← inBounds_mapM, ← bitRates_inBounds_iff]
  apply inBounds_bind
  intro frequencies
  exact inBounds_last

end Band

section Wiphy

theorem bands_inBounds_iff (wiphyBands : List (UInt16 × ByteString)) :
    InBounds (parseWiphyBands libnl wiphyBands) ↔
      ∀ wiphyBand ∈ wiphyBands,
        wiphyBand.1 ≠ NUM_NL80211_BANDS → BandReadable libnl wiphyBand.2 := by
  apply inBounds_last.trans
  rw [inBounds_mapM]
  simp only [List.mem_filter, decide_eq_true_eq, and_imp]
  apply forall₃_congr
  intro wiphyBand _ _
  exact inBounds_last.trans (band_inBounds_iff libnl wiphyBand.2)

theorem wiphy_inBounds_iff (nl80211Message : Option Nl80211Message) :
    InBounds (Nl80211Wiphy.parse libnl nl80211Message) ↔ WiphyReadable libnl nl80211Message := by
  rw [Nl80211Wiphy.parse, parseMessage_eq]
  apply inBounds_table
  intro attributes
  rw [inBounds_unless, not_or, and_imp]
  simp only [Bool.not_eq_true, Option.isNone_eq_false_iff]
  apply imp_congr_right
  intro _
  apply imp_congr_right
  intro _
  rw [wiphyFits_iff, ← inBounds_getU32, ← inBounds_getString, ← bands_inBounds_iff]
  apply inBounds_bind
  intro wiphyIndex
  rw [and_comm]
  apply inBounds_bind
  intro bands
  exact inBounds_last

end Wiphy

section Interface

theorem interface_inBounds_iff (nl80211Message : Option Nl80211Message) :
    InBounds (Nl80211Interface.parse libnl nl80211Message) ↔
      InterfaceReadable libnl nl80211Message := by
  rw [Nl80211Interface.parse, parseMessage_eq]
  apply inBounds_table
  intro attributes
  rw [interfaceFits_iff, ← inBounds_getU32, ← inBounds_getU32, ← inBounds_getU32,
    ← inBounds_getBytes, ← inBounds_getString]
  apply inBounds_bind
  intro interfaceType
  apply inBounds_bind
  intro interfaceIndex
  apply inBounds_bind
  intro wiphyIndex
  apply inBounds_bind
  intro macAddress
  exact inBounds_last

end Interface

section Guarded

variable {α : Type} {table : Option AttributeTable} {identifying : List Nat}

-- An object without one of what identifies it has to be given up.
theorem guarded_table {read : AttributeTable → Read (Option α)}
    (h : InBounds (table.elim (.ok none) read) → ∀ attributes, table = some attributes →
      ∀ type ∈ identifying, attributes type = none → read attributes = .ok none) :
    Guarded table identifying (table.elim (.ok none) read) ↔
      InBounds (table.elim (.ok none) read) := by
  refine ⟨Guarded.inBounds, fun hinBounds => ⟨hinBounds, ?_⟩⟩
  intro hunidentified
  cases htable : table with
  | none => rfl
  | some attributes =>
      rw [Option.elim_some]
      by_contra hyields
      refine hunidentified ⟨attributes, htable, ?_⟩
      intro type hmem
      rw [← Option.ne_none_iff_isSome]
      intro habsent
      exact hyields (h hinBounds attributes htable type hmem habsent)

theorem not_guarded_of_error {parsed : Read (Option α)} {fault : BadRead}
    (h : parsed = .error fault) : ¬Guarded table identifying parsed := by
  intro hguarded
  have hinBounds := hguarded.inBounds
  rw [h] at hinBounds
  exact inBounds_error _ hinBounds

variable (nl80211Message : Option Nl80211Message) (payload : ByteString)

theorem interface_guarded_iff :
    Guarded (tableOf libnl nl80211Message) [NL80211_ATTR_IFNAME, NL80211_ATTR_IFINDEX]
        (Nl80211Interface.parse libnl nl80211Message) ↔
      InterfaceReadable libnl nl80211Message := by
  rw [← interface_inBounds_iff, Nl80211Interface.parse, parseMessage_eq]
  apply guarded_table
  intro hinBounds attributes htable type hmem habsent
  rw [← parseMessage_eq] at hinBounds
  -- Both are read whether they are there or not.
  have hfits := (interface_inBounds_iff libnl nl80211Message).mp hinBounds attributes htable
  have hpresent : (attributes type).isSome := by
    rcases List.mem_pair.mp hmem with rfl | rfl
    · exact hfits.interfaceName.isSome
    · exact hfits.interfaceIndex.isSome
  rw [habsent] at hpresent
  exact Bool.noConfusion hpresent

theorem wiphy_guarded_iff :
    Guarded (tableOf libnl nl80211Message) [NL80211_ATTR_WIPHY, NL80211_ATTR_WIPHY_NAME]
        (Nl80211Wiphy.parse libnl nl80211Message) ↔
      WiphyReadable libnl nl80211Message := by
  rw [← wiphy_inBounds_iff, Nl80211Wiphy.parse, parseMessage_eq]
  apply guarded_table
  intro _ attributes _ type hmem habsent
  apply if_pos
  rcases List.mem_pair.mp hmem with rfl | rfl
  · left
    rw [habsent]
    rfl
  · right
    rw [habsent]
    rfl

theorem band_guarded_iff :
    Guarded (libnl.nlaParse payload) [] (Nl80211WiphyBand.parse libnl payload) ↔
      BandReadable libnl payload := by
  rw [← band_inBounds_iff]
  exact guarded_table fun _ _ _ _ => nofun

theorem frequency_guarded_iff :
    Guarded (libnl.nlaParse payload) [NL80211_FREQUENCY_ATTR_FREQ]
        (WiphyBandFrequency.parse libnl payload) ↔
      FrequencyReadable libnl payload := by
  rw [← frequency_inBounds_iff]
  apply guarded_table
  intro _ attributes _ type hmem habsent
  apply if_pos
  obtain rfl := List.mem_singleton.mp hmem
  rw [habsent]
  rfl

theorem parse_guarded_iff :
    (Guarded (tableOf libnl nl80211Message) [NL80211_ATTR_IFNAME, NL80211_ATTR_IFINDEX]
        (Nl80211Interface.parse libnl nl80211Message) ↔
      InterfaceReadable libnl nl80211Message) ∧
    (Guarded (tableOf libnl nl80211Message) [NL80211_ATTR_WIPHY, NL80211_ATTR_WIPHY_NAME]
        (Nl80211Wiphy.parse libnl nl80211Message) ↔
      WiphyReadable libnl nl80211Message) ∧
    (Guarded (libnl.nlaParse payload) [] (Nl80211WiphyBand.parse libnl payload) ↔
      BandReadable libnl payload) ∧
    (Guarded (libnl.nlaParse payload) [NL80211_FREQUENCY_ATTR_FREQ]
        (WiphyBandFrequency.parse libnl payload) ↔
      FrequencyReadable libnl payload) :=
  ⟨interface_guarded_iff libnl nl80211Message, wiphy_guarded_iff libnl nl80211Message,
    band_guarded_iff libnl payload, frequency_guarded_iff libnl payload⟩

end Guarded

-- A stream of attributes, each with its length, its type and padding.
def streamed : Nat → ByteString → List (UInt16 × ByteString)
  | fuel + 1, length₀ :: length₁ :: type₀ :: type₁ :: rest =>
      let length := littleEndian [length₀, length₁]
      if length < 4 ∨ rest.length + 4 < length then []
      else
        (UInt16.ofNat (littleEndian [type₀, type₁]), rest.take (length - 4)) ::
          streamed fuel (rest.drop ((length + 3) / 4 * 4 - 4))
  | _, _ => []

-- Without a policy, no attribute is at fault, and the last of a type is kept.
def streamLibnl : Libnl where
  nlaParse stream := some fun type =>
    ((streamed stream.length stream).reverse.find? fun entry =>
      entry.1.toNat % 2 ^ 14 = type).map Prod.snd
  nlaForEachNested stream := streamed stream.length stream

-- A device for peer-to-peer connections has no network interface, and the set of a band
-- takes eight bytes.
def peerToPeerDevice : Nl80211Message where
  hasValidHeader := true
  attributes :=
    [8, 0, 5, 0, 10, 0, 0, 0, 8, 0, 1, 0, 0, 0, 0, 0, 10, 0, 6, 0, 2, 0, 0, 0, 0, 1, 0, 0]

def vhtBand : ByteString :=
  [8, 0, 8, 0, 178, 89, 128, 3, 12, 0, 7, 0, 250, 255, 0, 0, 250, 255, 0, 0]

-- A message that ends where its attributes would begin, in the header that comes first.
def headerOnly : Nl80211Message where
  hasValidHeader := false
  attributes := []

theorem parse_unguarded :
    Nl80211Interface.parse streamLibnl (some peerToPeerDevice) = .error .Absent ∧
      Nl80211Interface.parse streamLibnl (some headerOnly) = .error .Absent ∧
      Nl80211WiphyBand.parse streamLibnl vhtBand = .error .PastEnd ∧
      ¬Guarded (tableOf streamLibnl (some peerToPeerDevice))
        [NL80211_ATTR_IFNAME, NL80211_ATTR_IFINDEX]
        (Nl80211Interface.parse streamLibnl (some peerToPeerDevice)) ∧
      ¬Guarded (tableOf streamLibnl (some headerOnly)) [NL80211_ATTR_IFNAME, NL80211_ATTR_IFINDEX]
        (Nl80211Interface.parse streamLibnl (some headerOnly)) ∧
      ¬Guarded (streamLibnl.nlaParse vhtBand) [] (Nl80211WiphyBand.parse streamLibnl vhtBand) := by
  have hdevice : Nl80211Interface.parse streamLibnl (some peerToPeerDevice) =
      .error .Absent := by decide +kernel
  have hheader : Nl80211Interface.parse streamLibnl (some headerOnly) = .error .Absent := by
    decide +kernel
  have hband : Nl80211WiphyBand.parse streamLibnl vhtBand = .error .PastEnd := by decide +kernel
  exact ⟨hdevice, hheader, hband, not_guarded_of_error hdevice, not_guarded_of_error hheader,
    not_guarded_of_error hband⟩

end NetRemote.Netlink
