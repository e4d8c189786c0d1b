import NetRemote.Cli.NetRemoteCli
import NetRemote.Strings.StringParsing

namespace NetRemote.Cli.MacAddress

open Foundation.Bytes Wifi Strings

-- What is left of the text when the delimiters are dropped.
def withoutDelimiters (macAddress : ByteString) : ByteString :=
  macAddress.filter fun c => !(c = 58 || c = 45)

def IsMacAddress (macAddress : ByteString) : Prop :=
  (withoutDelimiters macAddress).length = 12 ∧ AllHex (withoutDelimiters macAddress)

-- A text becomes an address exactly where it is one, and then that of its digits.
structure Exact (macAddress : ByteString) (parsed : Option Ieee80211MacAddress) : Prop where
  accepted : (∃ address, parsed = some address) ↔ IsMacAddress macAddress
  decoded : ∀ address, parsed = some address →
    decodeHex (withoutDelimiters macAddress) = some address.toList

section Vector

theorem mmap_ofFn_eq_some_iff {α : Type} {n : Nat} (parts : Fin n → Option α)
    (vector : List.Vector α n) :
    List.Vector.mmap id (List.Vector.ofFn parts) = some vector ↔
      ∀ i, parts i = some (vector.get i) := by
  induction n with
  | zero => simp [List.Vector.ofFn, List.Vector.eq_nil vector]
  | succ n ih =>
      obtain ⟨head, tail, rfl⟩ := vector.exists_eq_cons
      rw [Fin.forall_fin_succ, List.Vector.ofFn, List.Vector.mmap_cons]
      simp only [id_eq, Option.bind_eq_bind, Option.bind_eq_some_iff, Option.pure_def,
        Option.some.injEq, List.Vector.get_cons_succ, List.Vector.get_zero, List.Vector.head_cons]
      constructor
      · rintro ⟨first, hfirst, rest, hrest, heq⟩
        have hhead := congrArg List.Vector.head heq
        have htail := congrArg List.Vector.tail heq
        rw [List.Vector.head_cons, List.Vector.head_cons] at hhead
        rw [List.Vector.tail_cons, List.Vector.tail_cons] at htail
        exact ⟨hhead ▸ hfirst, (ih _ _).mp (htail ▸ hrest)⟩
      · rintro ⟨hfirst, hrest⟩
        exact ⟨head, hfirst, tail, (ih _ _).mpr hrest, rfl⟩

end Vector

section Parser

-- The parser of the array that is as long as what is asked for, as an array that is
-- filled.
theorem parseHexString_eq_some_iff (hexString : ByteString) (numberOfBytesToParse : Nat)
    (bytes : List.Vector UInt8 numberOfBytesToParse) :
    Service.parseHexString hexString numberOfBytesToParse = some bytes ↔
      2 * numberOfBytesToParse ≤ hexString.length ∧
        ∀ i : Fin numberOfBytesToParse,
          fromCharsHex (substr hexString (i * 2) 2) = some (bytes.get i) := by
  unfold Service.parseHexString
  split_ifs with hshort
  · exact iff_of_false nofun fun h => absurd h.1 (by omega)
  · rw [mmap_ofFn_eq_some_iff, and_iff_right (by omega)]

theorem parseHexString_isSome_iff (hexString : ByteString) (numberOfBytesToParse : Nat) :
    (∃ bytes, Service.parseHexString hexString numberOfBytesToParse = some bytes) ↔
      2 * numberOfBytesToParse ≤ hexString.length ∧
        ∀ i < numberOfBytesToParse, HexAt hexString (i * 2) := by
  simp only [parseHexString_eq_some_iff, exists_and_left]
  refine and_congr_right fun _ => ⟨?_, fun hdigits => ?_⟩
  · rintro ⟨bytes, hbytes⟩ i hi
    rw [← fromCharsHex_substr_isSome_iff, hbytes ⟨i, hi⟩, Option.isSome_some]
  · have hpieces : ∀ i : Fin numberOfBytesToParse,
        ∃ byte, fromCharsHex (substr hexString (i * 2) 2) = some byte := by
      intro i
      rw [← Option.isSome_iff_exists, fromCharsHex_substr_isSome_iff]
      exact hdigits i i.isLt
    choose bytes hbytes using hpieces
    exact ⟨List.Vector.ofFn bytes, fun i => by rw [List.Vector.get_ofFn, hbytes]⟩

-- What the parser returns is what the loop leaves in an array of that size.
theorem parseHexString_refines (hexString : ByteString) (result : List UInt8)
    (bytes : List.Vector UInt8 result.length)
    (h : Service.parseHexString hexString result.length = some bytes) :
    Strings.parseHexString hexString result result.length = (.ok true, bytes.toList) := by
  obtain ⟨hlong, hpieces⟩ := (parseHexString_eq_some_iff _ _ _).mp h
  have hdigits := ((parseHexString_isSome_iff _ _).mp ⟨bytes, h⟩).2
  have hdigits' : ∀ j < result.length, HexAt hexString ((0 + j) * 2) := by simpa using hdigits
  rw [Strings.parseHexString, if_neg (by omega)]
  refine Prod.ext ((parseHexBytes_true_iff hexString 0 result).mpr hdigits') ?_
  refine List.ext_getElem? fun j => ?_
  by_cases hj : j < result.length
  · rw [getElem?_parseHexBytes hdigits' hj, Nat.zero_add, hpieces ⟨j, hj⟩,
      List.getElem?_eq_getElem (by rwa [List.Vector.toList_length]), List.Vector.get_eq_get_toList]
    rfl
  · rw [List.getElem?_eq_none (by rw [length_parseHexBytes]; omega),
      List.getElem?_eq_none (by rw [List.Vector.toList_length]; omega)]

end Parser

section MacAddress

variable (macAddress : ByteString)

theorem isSome_iff :
    (∃ address, ieee80211MacAddressFromString macAddress = some address) ↔
      12 ≤ (withoutDelimiters macAddress).length ∧
        ∀ i < MacAddressNumOctets, HexAt (withoutDelimiters macAddress) (i * 2) :=
  parseHexString_isSome_iff (withoutDelimiters macAddress) MacAddressNumOctets

theorem hexAt_of_isMacAddress (h : IsMacAddress macAddress) {i : Nat}
    (hi : i < MacAddressNumOctets) : HexAt (withoutDelimiters macAddress) (i * 2) := by
  have hlt : i * 2 < (withoutDelimiters macAddress).length := by
    rw [h.1]
    unfold MacAddressNumOctets at hi
    omega
  exact ⟨_, List.getElem?_eq_getElem hlt, h.2 _ (List.getElem_mem hlt)⟩

theorem decodeHex_of_isMacAddress (h : IsMacAddress macAddress) {address : Ieee80211MacAddress}
    (hparsed : ieee80211MacAddressFromString macAddress = some address) :
    decodeHex (withoutDelimiters macAddress) = some address.toList := by
  obtain ⟨-, hpieces⟩ := (parseHexString_eq_some_iff _ _ _).mp hparsed
  apply decodeHex_of_pairs
  · rw [h.1, List.Vector.toList_length]
    rfl
  · exact h.2
  · intro j hj
    rw [List.Vector.toList_length] at hj
    have hpiece := hpieces ⟨j, hj⟩
    rw [List.getElem?_eq_getElem (by rwa [List.Vector.toList_length])]
    rw [List.Vector.get_eq_get_toList] at hpiece
    exact hpiece.symm

-- The second character of a pair need not be a digit, and what follows the sixth pair
-- is not looked at.
theorem macAddress_exact_iff :
    Exact macAddress (ieee80211MacAddressFromString macAddress) ↔
      (withoutDelimiters macAddress).length < 12 ∨
      (∃ i < MacAddressNumOctets, ¬ HexAt (withoutDelimiters macAddress) (i * 2)) ∨
      IsMacAddress macAddress := by
  have hsome := isSome_iff macAddress
  constructor
  · intro hexact
    by_cases haddress : IsMacAddress macAddress
    · exact .inr (.inr haddress)
    · have hnone := mt hexact.accepted.mp haddress
      rw [hsome, not_and_or, Nat.not_le] at hnone
      simpa only [not_forall, exists_prop, haddress, or_false] using hnone
  · intro hcondition
    have haddress : ∀ address, ieee80211MacAddressFromString macAddress = some address →
        IsMacAddress macAddress := by
      intro address hparsed
      obtain ⟨hlong, hdigits⟩ := hsome.mp ⟨address, hparsed⟩
      rcases hcondition with hshort | ⟨i, hi, hnot⟩ | haddress
      · omega
      · exact absurd (hdigits i hi) hnot
      · exact haddress
    refine ⟨⟨fun ⟨address, hparsed⟩ => haddress address hparsed, fun h => ?_⟩, ?_⟩
    · exact hsome.mpr ⟨h.1.ge, fun i hi => hexAt_of_isMacAddress macAddress h hi⟩
    · intro address hparsed
      exact decodeHex_of_isMacAddress macAddress (haddress address hparsed) hparsed

-- A letter that is no digit, and a text of seven octets.
theorem macAddress_inexact :
    ieee80211MacAddressFromString (str "0g:11:22:33:44:55") = some ⟨[0, 17, 34, 51, 68, 85], rfl⟩ ∧
      ¬ Exact (str "0g:11:22:33:44:55")
        (ieee80211MacAddressFromString (str "0g:11:22:33:44:55")) ∧
      ieee80211MacAddressFromString (str "00-11-22-33-44-55-66") =
        some ⟨[0, 17, 34, 51, 68, 85], rfl⟩ ∧
      ¬ Exact (str "00-11-22-33-44-55-66")
        (ieee80211MacAddressFromString (str "00-11-22-33-44-55-66")) := by
  have hletter : ieee80211MacAddressFromString (str "0g:11:22:33:44:55") =
      some ⟨[0, 17, 34, 51, 68, 85], rfl⟩ := by rfl
  have hlong : ieee80211MacAddressFromString (str "00-11-22-33-44-55-66") =
      some ⟨[0, 17, 34, 51, 68, 85], rfl⟩ := by rfl
  rw [hletter, hlong]
  refine ⟨rfl, fun hexact => ?_, rfl, fun hexact => ?_⟩
  · exact absurd (hexact.accepted.mp ⟨_, rfl⟩).2 (by decide)
  · exact absurd (hexact.accepted.mp ⟨_, rfl⟩).1 (by decide)

end MacAddress

end NetRemote.Cli.MacAddress
