import NetRemote.Net.NetworkIpAddress

namespace NetRemote.Net.Grammar

open Foundation.Bytes Foundation.Regex

-- Nothing, or a colon and decimal digits.
def DecimalPort (port : ByteString) : Prop :=
  port = [] ∨ ∃ number, number ≠ [] ∧ (∀ digit ∈ number, isDigit digit) ∧ port = str ":" ++ number

-- Nothing, or a colon and a number of 16 bits as it is written.
def NumberPort (port : ByteString) : Prop :=
  port = [] ∨ ∃ number < 65536, port = str ":" ++ decimal number

-- Up to three digits, leading zeros included.
def Octet (octet : ByteString) : Prop :=
  1 ≤ octet.length ∧ octet.length ≤ 3 ∧ (∀ digit ∈ octet, isDigit digit) ∧ ofDigits octet ≤ 255

instance (octet : ByteString) : Decidable (Octet octet) :=
  letI : Decidable (∀ digit ∈ octet, isDigit digit) := List.decidableBAll _ octet
  inferInstanceAs (Decidable (_ ∧ _ ∧ (∀ digit ∈ octet, isDigit digit) ∧ _))

def IsAny (ipAddress : ByteString) : Prop :=
  ∃ port, DecimalPort port ∧
    (ipAddress = str "0.0.0.0" ++ port ∨ ipAddress = str "::" ++ port ∨
      ipAddress = str "[::]" ++ port)

def dotted (first second third fourth : ByteString) : ByteString :=
  first ++ str "." ++ second ++ str "." ++ third ++ str "." ++ fourth

def IsIpv4 (ipAddress : ByteString) : Prop :=
  ∃ first second third fourth port,
    Octet first ∧ Octet second ∧ Octet third ∧ Octet fourth ∧ NumberPort port ∧
      dotted first second third fourth ≠ str "0.0.0.0" ∧
      ipAddress = dotted first second third fourth ++ port

-- What a text is taken for is what its form says.
structure Follows (ipAddress : ByteString) : Prop where
  any : isAnyAddress ipAddress = true ↔ IsAny ipAddress
  ipv4 : getIpAddressCategory ipAddress = .Ipv4 ↔ IsIpv4 ipAddress

-- Four zeros with other characters between them than dots.
def ZerosWithoutDots (ipAddress : ByteString) : Prop :=
  ∃ first second third port,
    (∀ separator ∈ [first, second, third], separator ≠ 10 ∧ separator ≠ 13) ∧
      [first, second, third] ≠ [46, 46, 46] ∧ DecimalPort port ∧
      ipAddress = [48, first, 48, second, 48, third, 48] ++ port

-- One bracket of the two.
def OneBracket (ipAddress : ByteString) : Prop :=
  ∃ port, DecimalPort port ∧ (ipAddress = str "[::" ++ port ∨ ipAddress = str "::]" ++ port)

section Digits

theorem mem_byteRange_iff {first last byte : UInt8} :
    byte ∈ byteRange first last ↔ first ≤ byte ∧ byte ≤ last := by
  refine ⟨fun h => ?_, fun h => mem_byteRange h.1 h.2⟩
  obtain ⟨n, hn, rfl⟩ := List.mem_map.mp h
  rw [List.mem_range'_1] at hn
  have hlast := last.toNat_lt
  rw [UInt8.le_iff_toNat_le, UInt8.le_iff_toNat_le, UInt8.toNat_ofNat']
  omega

theorem mem_digits_iff {first last : Nat} (hfirst : first ≤ last) (hlast : last < 10)
    {text : ByteString} :
    text ∈ (digits first last).matches' ↔ ∃ n, first ≤ n ∧ n ≤ last ∧ text = [digitOf n] := by
  constructor
  · intro h
    obtain ⟨byte, hbyte, rfl⟩ := mem_oneOf.mp h
    obtain ⟨hlow, hhigh⟩ := mem_byteRange_iff.mp hbyte
    rw [UInt8.le_iff_toNat_le, toNat_digitOf (by omega)] at hlow
    rw [UInt8.le_iff_toNat_le, toNat_digitOf hlast] at hhigh
    refine ⟨byte.toNat - 48, by omega, by omega, ?_⟩
    rw [digitOf, Nat.add_sub_cancel' (by omega), UInt8.ofNat_toNat]
  · rintro ⟨n, hlow, hhigh, rfl⟩
    exact digitOf_mem_digits hlast hlow hhigh

theorem mem_anyDigit_symbols {byte : UInt8} :
    byte ∈ byteRange (digitOf 0) (digitOf 9) ↔ isDigit byte := by
  rw [mem_byteRange_iff, isDigit, Bool.and_eq_true, decide_eq_true_eq, decide_eq_true_eq]
  rfl

theorem mem_decimalPort_iff {port : ByteString} :
    port ∈ (optional (literal (str ":") * oneOrMore anyDigit)).matches' ↔ DecimalPort port := by
  have hdigits : ∀ number : ByteString, number ∈ (oneOrMore anyDigit).matches' ↔
      number ≠ [] ∧ ∀ digit ∈ number, isDigit digit := by
    intro number
    rw [anyDigit, digits, mem_oneOrMore_iff]
    simp only [mem_anyDigit_symbols]
  rw [mem_optional, mem_literal_mul, DecimalPort]
  simp only [hdigits, and_assoc, eq_comm (a := port)]

end Digits

section Octet

theorem ofDigits_cons {n : Nat} (hn : n < 10) (rest : ByteString) :
    ofDigits (digitOf n :: rest) = n * 10 ^ rest.length + ofDigits rest := by
  rw [← List.singleton_append, ofDigits_append, ofDigits_singleton hn]

theorem octet_iff {octet : ByteString} :
    Octet octet ↔
      (∃ a < 10, octet = [digitOf a]) ∨
      (∃ a < 10, ∃ b < 10, octet = [digitOf a, digitOf b]) ∨
      ∃ a < 10, ∃ b < 10, ∃ c < 10, 100 * a + 10 * b + c ≤ 255 ∧
        octet = [digitOf a, digitOf b, digitOf c] := by
  constructor
  · rintro ⟨hlow, hhigh, hdigits, hvalue⟩
    match octet, hlow, hhigh, hdigits, hvalue with
    | [first], _, _, hdigits, _ =>
        obtain ⟨a, ha, rfl⟩ := isDigit_iff.mp (hdigits first (by simp))
        exact .inl ⟨a, ha, rfl⟩
    | [first, second], _, _, hdigits, _ =>
        obtain ⟨a, ha, rfl⟩ := isDigit_iff.mp (hdigits first (by simp))
        obtain ⟨b, hb, rfl⟩ := isDigit_iff.mp (hdigits second (by simp))
        exact .inr (.inl ⟨a, ha, b, hb, rfl⟩)
    | [first, second, third], _, _, hdigits, hvalue =>
        obtain ⟨a, ha, rfl⟩ := isDigit_iff.mp (hdigits first (by simp))
        obtain ⟨b, hb, rfl⟩ := isDigit_iff.mp (hdigits second (by simp))
        obtain ⟨c, hc, rfl⟩ := isDigit_iff.mp (hdigits third (by simp))
        rw [ofDigits_cons ha, ofDigits_cons hb, ofDigits_singleton hc] at hvalue
        simp only [List.length_cons, List.length_nil] at hvalue
        exact .inr (.inr ⟨a, ha, b, hb, c, hc, by omega, rfl⟩)
  · have hdigit : ∀ {n : Nat}, n < 10 → isDigit (digitOf n) :=
      fun hn => isDigit_iff.mpr ⟨_, hn, rfl⟩
    rintro (⟨a, ha, rfl⟩ | ⟨a, ha, b, hb, rfl⟩ | ⟨a, ha, b, hb, c, hc, hvalue, rfl⟩)
    · refine ⟨by simp, by simp, by simpa using hdigit ha, ?_⟩
      rw [ofDigits_singleton ha]
      omega
    · refine ⟨by simp, by simp, by simpa using ⟨hdigit ha, hdigit hb⟩, ?_⟩
      rw [ofDigits_cons ha, ofDigits_singleton hb]
      simp only [List.length_cons, List.length_nil]
      omega
    · refine ⟨by simp, by simp, by simpa using ⟨hdigit ha, hdigit hb, hdigit hc⟩, ?_⟩
      rw [ofDigits_cons ha, ofDigits_cons hb, ofDigits_singleton hc]
      simp only [List.length_cons, List.length_nil]
      omega

theorem mem_octetPattern_iff {octet : ByteString} :
    octet ∈ octetPattern.matches' ↔ Octet octet := by
  rw [octet_iff]
  constructor
  · intro h
    rcases mem_add.mp h with h | h
    · rcases mem_add.mp h with h | h
      · obtain ⟨last, hlast, rfl⟩ := mem_literal_mul.mp h
        obtain ⟨c, -, hc, rfl⟩ := (mem_digits_iff (by decide) (by decide)).mp hlast
        exact .inr (.inr ⟨2, by decide, 5, by decide, c, by omega, by omega, rfl⟩)
      · obtain ⟨front, hfront, last, hlast, rfl⟩ := mem_mul.mp h
        obtain ⟨middle, hmiddle, rfl⟩ := mem_literal_mul.mp hfront
        obtain ⟨b, -, hb, rfl⟩ := (mem_digits_iff (by decide) (by decide)).mp hmiddle
        obtain ⟨c, -, hc, rfl⟩ := (mem_digits_iff (by decide) (by decide)).mp hlast
        exact .inr (.inr ⟨2, by decide, b, by omega, c, by omega, by omega, rfl⟩)
    · obtain ⟨front, hfront, last, hlast, rfl⟩ := mem_mul.mp h
      obtain ⟨first, hfirst, middle, hmiddle, rfl⟩ := mem_mul.mp hfront
      obtain ⟨b, -, hb, rfl⟩ := (mem_digits_iff (by decide) (by decide)).mp hmiddle
      rcases mem_optional.mp hfirst with rfl | hfirst <;>
        rcases mem_optional.mp hlast with rfl | hlast
      · exact .inl ⟨b, by omega, rfl⟩
      · obtain ⟨c, -, hc, rfl⟩ := (mem_digits_iff (by decide) (by decide)).mp hlast
        exact .inr (.inl ⟨b, by omega, c, by omega, rfl⟩)
      · obtain ⟨a, -, ha, rfl⟩ := (mem_digits_iff (by decide) (by decide)).mp hfirst
        exact .inr (.inl ⟨a, by omega, b, by omega, rfl⟩)
      · obtain ⟨a, -, ha, rfl⟩ := (mem_digits_iff (by decide) (by decide)).mp hfirst
        obtain ⟨c, -, hc, rfl⟩ := (mem_digits_iff (by decide) (by decide)).mp hlast
        exact .inr (.inr ⟨a, by omega, b, by omega, c, by omega, by omega, rfl⟩)
  · have hnine : ∀ {n : Nat}, n < 10 → [digitOf n] ∈ (digits 0 9).matches' :=
      fun hn => digitOf_mem_digits_zero (by decide) (by omega)
    have hshort : ∀ {first last : ByteString} {b : Nat}, b < 10 →
        first ∈ (optional (digits 0 1)).matches' → last ∈ (optional (digits 0 9)).matches' →
          first ++ [digitOf b] ++ last ∈ octetPattern.matches' :=
      fun hb hfirst hlast => mem_add_right (mem_mul_of_mem (mem_mul_of_mem hfirst (hnine hb)) hlast)
    rintro (⟨a, ha, rfl⟩ | ⟨a, ha, b, hb, rfl⟩ | ⟨a, ha, b, hb, c, hc, hvalue, rfl⟩)
    · exact hshort ha (nil_mem_optional _) (nil_mem_optional _)
    · exact hshort ha (nil_mem_optional _) (mem_optional_of_mem (hnine hb))
    · by_cases hone : a ≤ 1
      · have hfirst : [digitOf a] ∈ (digits 0 1).matches' :=
          digitOf_mem_digits_zero (by decide) hone
        exact hshort hb (mem_optional_of_mem hfirst) (mem_optional_of_mem (hnine hc))
      · obtain rfl : a = 2 := by omega
        by_cases hfour : b ≤ 4
        · have hmiddle : [digitOf b] ∈ (digits 0 4).matches' :=
            digitOf_mem_digits_zero (by decide) hfour
          have hfront := mem_mul_of_mem (mem_literal.mpr (rfl : str "2" = str "2")) hmiddle
          exact mem_add_left (mem_add_right (mem_mul_of_mem hfront (hnine hc)))
        · obtain rfl : b = 5 := by omega
          have hlast : [digitOf c] ∈ (digits 0 5).matches' :=
            digitOf_mem_digits_zero (by decide) (by omega)
          exact mem_add_left (mem_add_left (mem_mul_of_mem (mem_literal.mpr rfl) hlast))

end Octet

section Port

-- A front without a leading zero, and as many digits more as still fit 16 bits.
theorem number_of_append {front rest : ByteString} {count : Nat} (hne : front ≠ [])
    (hfront : ∀ digit ∈ front, isDigit digit) (hzero : front.head? ≠ some 48)
    (hrest : ∀ digit ∈ rest, isDigit digit) (hcount : rest.length = count)
    (hvalue : (ofDigits front + 1) * 10 ^ count ≤ 65536) :
    ∃ number < 65536, front ++ rest = decimal number := by
  have hbelow := ofDigits_lt hrest
  rw [hcount] at hbelow
  refine ⟨ofDigits (front ++ rest), ?_, ?_⟩
  · rw [ofDigits_append, hcount]
    rw [Nat.add_mul, Nat.one_mul] at hvalue
    omega
  · refine (decimal_ofDigits (by simp [hne]) (List.forall_mem_append.mpr ⟨hfront, hrest⟩) ?_).symm
    intro hhead
    rw [List.head?_append_of_ne_nil _ hne] at hhead
    exact absurd hhead hzero

theorem number_of_literal {text rest : ByteString} {m n count : Nat} (htext : decimal m = text)
    (hzero : text.head? ≠ some 48) (hn : n < 10) (hrest : ∀ digit ∈ rest, isDigit digit)
    (hcount : rest.length = count) (hvalue : (10 * m + n + 1) * 10 ^ count ≤ 65536) :
    ∃ number < 65536, text ++ [digitOf n] ++ rest = decimal number := by
  have hne : text ≠ [] := htext ▸ decimal_ne_nil m
  have hall : ∀ digit ∈ text ++ [digitOf n], isDigit digit := by
    rw [List.forall_mem_append]
    refine ⟨fun digit hdigit => isDigit_decimal (htext ▸ hdigit), ?_⟩
    exact List.forall_mem_singleton.mpr (isDigit_iff.mpr ⟨n, hn, rfl⟩)
  have hfront : ofDigits (text ++ [digitOf n]) = 10 * m + n := by
    rw [ofDigits_append, ofDigits_singleton hn, ← htext, ofDigits_decimal, List.length_singleton]
    omega
  refine number_of_append (by simp) hall ?_ hrest hcount (by rwa [hfront])
  rwa [List.head?_append_of_ne_nil _ hne]

theorem number_of_digit {first last n : Nat} {rest : ByteString} (hfirst : first ≤ n)
    (hlast : n ≤ last) (hpos : 0 < first) (hten : last < 10)
    (hrest : ∀ digit ∈ rest, isDigit digit)
    (hvalue : (last + 1) * 10 ^ rest.length ≤ 65536) :
    ∃ number < 65536, [digitOf n] ++ rest = decimal number := by
  have hn : n < 10 := by omega
  refine number_of_append (by simp) ?_ ?_ hrest rfl ?_
  · exact List.forall_mem_singleton.mpr (isDigit_iff.mpr ⟨n, hn, rfl⟩)
  · intro hhead
    have htoNat := congrArg UInt8.toNat (Option.some.inj hhead)
    rw [toNat_digitOf hn] at htoNat
    simp only [UInt8.reduceToNat] at htoNat
    omega
  · rw [ofDigits_singleton hn]
    exact (Nat.mul_le_mul_right _ (by omega)).trans hvalue

-- A number of the pattern by the one of its forms that it has.
theorem number_of_mem_portPattern {port : ByteString} (h : port ∈ portPattern.matches') :
    ∃ number < 65536, port = decimal number := by
  have hany : ∀ {least most : Nat} {rest : ByteString}, least ≤ most →
      rest ∈ (repeated anyDigit least most).matches' →
        least ≤ rest.length ∧ rest.length ≤ most ∧ ∀ digit ∈ rest, isDigit digit := by
    intro least most rest hle hmem
    rw [anyDigit, digits, mem_repeated_iff hle] at hmem
    simpa only [mem_anyDigit_symbols] using hmem
  simp only [portPattern, mem_add, or_assoc] at h
  rcases h with h | h | h | h | h | h | h
  · obtain ⟨n, -, hn, rfl⟩ := (mem_digits_iff (by decide) (by decide)).mp h
    exact ⟨n, by omega, (decimal_of_lt (by omega)).symm⟩
  · obtain ⟨front, hfront, rest, hrest, rfl⟩ := mem_mul.mp h
    obtain ⟨n, hlow, hhigh, rfl⟩ := (mem_digits_iff (by decide) (by decide)).mp hfront
    obtain ⟨-, hmost, hall⟩ := hany (by decide) hrest
    have hthousand : 10 ^ rest.length ≤ 10 ^ 3 := Nat.pow_le_pow_right (by decide) hmost
    exact number_of_digit hlow hhigh (by decide) (by decide) hall (by omega)
  · obtain ⟨front, hfront, rest, hrest, rfl⟩ := mem_mul.mp h
    obtain ⟨n, hlow, hhigh, rfl⟩ := (mem_digits_iff (by decide) (by decide)).mp hfront
    obtain ⟨-, hmost, hall⟩ := hany (by decide) hrest
    have hthousand : 10 ^ rest.length ≤ 10 ^ 4 := Nat.pow_le_pow_right (by decide) hmost
    exact number_of_digit hlow hhigh (by decide) (by decide) hall (by omega)
  · obtain ⟨front, hfront, rest, hrest, rfl⟩ := mem_mul.mp h
    obtain ⟨last, hlast, rfl⟩ := mem_literal_mul.mp hfront
    obtain ⟨n, -, hn, rfl⟩ := (mem_digits_iff (by decide) (by decide)).mp hlast
    obtain ⟨hleast, hmost, hall⟩ := hany (by decide) hrest
    exact number_of_literal (by decide : decimal 6 = str "6") (by decide) (by omega) hall
      (by omega : rest.length = 3) (by omega)
  · obtain ⟨front, hfront, rest, hrest, rfl⟩ := mem_mul.mp h
    obtain ⟨last, hlast, rfl⟩ := mem_literal_mul.mp hfront
    obtain ⟨n, -, hn, rfl⟩ := (mem_digits_iff (by decide) (by decide)).mp hlast
    obtain ⟨hleast, hmost, hall⟩ := hany (by decide) hrest
    exact number_of_literal (by decide : decimal 65 = str "65") (by decide) (by omega) hall
      (by omega : rest.length = 2) (by omega)
  · obtain ⟨front, hfront, rest, hrest, rfl⟩ := mem_mul.mp h
    obtain ⟨last, hlast, rfl⟩ := mem_literal_mul.mp hfront
    obtain ⟨n, -, hn, rfl⟩ := (mem_digits_iff (by decide) (by decide)).mp hlast
    obtain ⟨m, -, hm, rfl⟩ := (mem_digits_iff (by decide) (by decide)).mp hrest
    have hdigit : ∀ digit ∈ [digitOf m], isDigit digit :=
      List.forall_mem_singleton.mpr (isDigit_iff.mpr ⟨m, by omega, rfl⟩)
    exact number_of_literal (by decide : decimal 655 = str "655") (by decide) (by omega) hdigit
      (rfl : _ = 1) (by omega)
  · obtain ⟨last, hlast, rfl⟩ := mem_literal_mul.mp h
    obtain ⟨n, -, hn, rfl⟩ := (mem_digits_iff (by decide) (by decide)).mp hlast
    have hnumber := number_of_literal (by decide : decimal 6553 = str "6553") (by decide)
      (by omega : n < 10) (List.forall_mem_nil _) (rfl : _ = 0) (by omega)
    rwa [List.append_nil] at hnumber

theorem mem_numberPort_iff {port : ByteString} :
    port ∈ (optional (literal (str ":") * portPattern)).matches' ↔ NumberPort port := by
  rw [mem_optional, mem_literal_mul, NumberPort]
  refine or_congr_right ⟨?_, ?_⟩
  · rintro ⟨text, htext, rfl⟩
    obtain ⟨number, hnumber, rfl⟩ := number_of_mem_portPattern htext
    exact ⟨number, hnumber, rfl⟩
  · rintro ⟨number, hnumber, rfl⟩
    exact ⟨_, decimal_mem_portPattern hnumber, rfl⟩

end Port

section Category

variable {ipAddress : ByteString}

theorem mem_anyCharacter_iff {text : ByteString} :
    text ∈ anyCharacter.matches' ↔ ∃ byte, (byte ≠ 10 ∧ byte ≠ 13) ∧ text = [byte] := by
  have hall : ∀ byte : UInt8, byte ∈ byteRange 0 255 := by
    intro byte
    have hbelow := byte.toNat_lt
    rw [mem_byteRange_iff, UInt8.le_iff_toNat_le, UInt8.le_iff_toNat_le]
    exact ⟨Nat.zero_le _, Nat.le_of_lt_succ hbelow⟩
  rw [anyCharacter, mem_oneOf]
  simp only [List.mem_filter, hall, true_and, decide_eq_true_eq]

theorem dots_are_separators :
    ∀ separator ∈ ([46, 46, 46] : ByteString), separator ≠ 10 ∧ separator ≠ 13 := by
  simp

theorem mem_ipv4Any_iff :
    ipAddress ∈ RegexIpv4AnyAddressWithOptionalPort.matches' ↔
      ∃ first second third port,
        (∀ separator ∈ [first, second, third], separator ≠ 10 ∧ separator ≠ 13) ∧
          DecimalPort port ∧ ipAddress = [48, first, 48, second, 48, third, 48] ++ port := by
  simp only [List.forall_mem_cons]
  constructor
  · intro h
    obtain ⟨text₆, h₆, port, hport, rfl⟩ := mem_mul.mp h
    obtain ⟨text₅, h₅, rfl⟩ := mem_mul_literal.mp h₆
    obtain ⟨text₄, h₄, last, hlast, rfl⟩ := mem_mul.mp h₅
    obtain ⟨text₃, h₃, rfl⟩ := mem_mul_literal.mp h₄
    obtain ⟨text₂, h₂, middle, hmiddle, rfl⟩ := mem_mul.mp h₃
    obtain ⟨text₁, h₁, rfl⟩ := mem_mul_literal.mp h₂
    obtain ⟨head, hhead, rfl⟩ := mem_literal_mul.mp h₁
    obtain ⟨first, hfirst, rfl⟩ := mem_anyCharacter_iff.mp hhead
    obtain ⟨second, hsecond, rfl⟩ := mem_anyCharacter_iff.mp hmiddle
    obtain ⟨third, hthird, rfl⟩ := mem_anyCharacter_iff.mp hlast
    exact ⟨first, second, third, port, ⟨hfirst, hsecond, hthird, List.forall_mem_nil _⟩,
      mem_decimalPort_iff.mp hport, rfl⟩
  · rintro ⟨first, second, third, port, ⟨hfirst, hsecond, hthird, -⟩, hport, rfl⟩
    have hzero : str "0" ∈ (literal (str "0")).matches' := mem_literal.mpr rfl
    have hany : ∀ {byte : UInt8}, byte ≠ 10 ∧ byte ≠ 13 → [byte] ∈ anyCharacter.matches' :=
      fun hbyte => mem_anyCharacter_iff.mpr ⟨_, hbyte, rfl⟩
    have hfront := mem_mul_of_mem (mem_mul_of_mem (mem_mul_of_mem hzero (hany hfirst)) hzero)
      (hany hsecond)
    have hzeros := mem_mul_of_mem (mem_mul_of_mem (mem_mul_of_mem hfront hzero) (hany hthird)) hzero
    exact mem_mul_of_mem hzeros (mem_decimalPort_iff.mpr hport)

theorem mem_ipv6Any_iff :
    ipAddress ∈ RegexIpv6AnyAddressWithOptionalPort.matches' ↔
      ∃ port, DecimalPort port ∧
        (ipAddress = str "::" ++ port ∨ ipAddress = str "[::]" ++ port ∨
          ipAddress = str "[::" ++ port ∨ ipAddress = str "::]" ++ port) := by
  constructor
  · intro h
    obtain ⟨text₂, h₂, port, hport, rfl⟩ := mem_mul.mp h
    obtain ⟨text₁, h₁, close, hclose, rfl⟩ := mem_mul.mp h₂
    obtain ⟨front, hfront, rfl⟩ := mem_mul_literal.mp h₁
    refine ⟨port, mem_decimalPort_iff.mp hport, ?_⟩
    rcases mem_optional.mp hfront with rfl | hopen <;>
      rcases mem_optional.mp hclose with rfl | hclose
    · exact .inl rfl
    · obtain rfl := mem_literal.mp hclose
      exact .inr (.inr (.inr rfl))
    · obtain rfl := mem_literal.mp hopen
      exact .inr (.inr (.inl rfl))
    · obtain rfl := mem_literal.mp hclose
      obtain rfl := mem_literal.mp hopen
      exact .inr (.inl rfl)
  · rintro ⟨port, hport, hform⟩
    have hcolons : str "::" ∈ (literal (str "::")).matches' := mem_literal.mpr rfl
    have hopen : str "[" ∈ (optional (literal (str "["))).matches' :=
      mem_optional_of_mem (mem_literal.mpr rfl)
    have hclose : str "]" ∈ (optional (literal (str "]"))).matches' :=
      mem_optional_of_mem (mem_literal.mpr rfl)
    have hmatch : ∀ {front back : ByteString}, front ∈ (optional (literal (str "["))).matches' →
        back ∈ (optional (literal (str "]"))).matches' →
          front ++ str "::" ++ back ++ port ∈ RegexIpv6AnyAddressWithOptionalPort.matches' :=
      fun hfront hback => mem_mul_of_mem (mem_mul_of_mem (mem_mul_of_mem hfront hcolons) hback)
        (mem_decimalPort_iff.mpr hport)
    rcases hform with rfl | rfl | rfl | rfl
    · exact hmatch (nil_mem_optional _) (nil_mem_optional _)
    · exact hmatch hopen hclose
    · exact hmatch hopen (nil_mem_optional _)
    · exact hmatch (nil_mem_optional _) hclose

theorem mem_ipv4_iff :
    ipAddress ∈ RegexIpv4AddressWithOptionalPort.matches' ↔
      ∃ first second third fourth port,
        Octet first ∧ Octet second ∧ Octet third ∧ Octet fourth ∧ NumberPort port ∧
          ipAddress = dotted first second third fourth ++ port := by
  constructor
  · intro h
    obtain ⟨text₆, h₆, port, hport, rfl⟩ := mem_mul.mp h
    obtain ⟨text₅, h₅, fourth, hfourth, rfl⟩ := mem_mul.mp h₆
    obtain ⟨text₄, h₄, rfl⟩ := mem_mul_literal.mp h₅
    obtain ⟨text₃, h₃, third, hthird, rfl⟩ := mem_mul.mp h₄
    obtain ⟨text₂, h₂, rfl⟩ := mem_mul_literal.mp h₃
    obtain ⟨text₁, h₁, second, hsecond, rfl⟩ := mem_mul.mp h₂
    obtain ⟨first, hfirst, rfl⟩ := mem_mul_literal.mp h₁
    rw [mem_octetPattern_iff] at hfirst hsecond hthird hfourth
    exact ⟨first, second, third, fourth, port, hfirst, hsecond, hthird, hfourth,
      mem_numberPort_iff.mp hport, rfl⟩
  · rintro ⟨first, second, third, fourth, port, hfirst, hsecond, hthird, hfourth, hport, rfl⟩
    rw [← mem_octetPattern_iff] at hfirst hsecond hthird hfourth
    have hdot : str "." ∈ (literal (str ".")).matches' := mem_literal.mpr rfl
    have hfront := mem_mul_of_mem (mem_mul_of_mem (mem_mul_of_mem hfirst hdot) hsecond) hdot
    have hoctets := mem_mul_of_mem (mem_mul_of_mem (mem_mul_of_mem hfront hthird) hdot) hfourth
    exact mem_mul_of_mem hoctets (mem_numberPort_iff.mpr hport)

end Category

section Ipv4

theorem not_mem_of_digits {byte : UInt8} (hbyte : isDigit byte = false) {text : ByteString}
    (h : ∀ digit ∈ text, isDigit digit) : byte ∉ text := by
  intro hmem
  rw [h byte hmem] at hbyte
  cases hbyte

theorem decimalPort_of_numberPort {port : ByteString} (h : NumberPort port) : DecimalPort port := by
  rcases h with rfl | ⟨number, -, rfl⟩
  · exact .inl rfl
  · exact .inr ⟨decimal number, decimal_ne_nil number, fun _ => isDigit_decimal, rfl⟩

theorem count_dot_decimalPort {port : ByteString} (h : DecimalPort port) :
    port.count 46 = 0 := by
  rcases h with rfl | ⟨number, -, hdigits, rfl⟩
  · rfl
  · rw [List.count_append, List.count_eq_zero_of_not_mem (not_mem_of_digits (by decide) hdigits)]
    rfl

theorem count_dot_dotted {first second third fourth : ByteString} (hfirst : Octet first)
    (hsecond : Octet second) (hthird : Octet third) (hfourth : Octet fourth) :
    (dotted first second third fourth).count 46 = 3 := by
  have hnone : ∀ {octet : ByteString}, Octet octet → octet.count 46 = 0 :=
    fun hoctet => List.count_eq_zero_of_not_mem (not_mem_of_digits (by decide) hoctet.2.2.1)
  simp only [dotted, List.count_append, hnone hfirst, hnone hsecond, hnone hthird, hnone hfourth]
  decide

theorem takeWhile_colon {text port : ByteString} (htext : (58 : UInt8) ∉ text)
    (hport : DecimalPort port) : (text ++ port).takeWhile (· ≠ 58) = text := by
  have hall : ∀ byte ∈ text, decide (byte ≠ 58) = true := by
    intro byte hbyte
    rw [decide_eq_true_eq]
    rintro rfl
    exact htext hbyte
  rw [List.takeWhile_append_of_pos hall]
  rcases hport with rfl | ⟨number, -, -, rfl⟩
  · rw [List.takeWhile_nil, List.append_nil]
  · exact List.append_nil text

theorem colon_not_mem_dotted {first second third fourth : ByteString} (hfirst : Octet first)
    (hsecond : Octet second) (hthird : Octet third) (hfourth : Octet fourth) :
    (58 : UInt8) ∉ dotted first second third fourth := by
  have hnone : ∀ {octet : ByteString}, Octet octet → (58 : UInt8) ∉ octet :=
    fun hoctet => not_mem_of_digits (by decide) hoctet.2.2.1
  have hdot : (58 : UInt8) ∉ str "." := by decide
  simp only [dotted, List.mem_append, hnone hfirst, hnone hsecond, hnone hthird, hnone hfourth,
    hdot, or_self, not_false_eq_true]

-- Zeros with an address between them that is in dotted notation have dots between them.
theorem dotted_eq_zeros {first second third fourth port port' : ByteString} {a b c : UInt8}
    (hfirst : Octet first) (hsecond : Octet second) (hthird : Octet third)
    (hfourth : Octet fourth) (hport : DecimalPort port) (hport' : DecimalPort port')
    (heq : dotted first second third fourth ++ port = [48, a, 48, b, 48, c, 48] ++ port') :
    dotted first second third fourth = str "0.0.0.0" := by
  have hcount := congrArg (List.count 46) heq
  rw [List.count_append, List.count_append, count_dot_dotted hfirst hsecond hthird hfourth,
    count_dot_decimalPort hport, count_dot_decimalPort hport'] at hcount
  have hdots : a = 46 ∧ b = 46 ∧ c = 46 := by
    by_contra hnot
    simp only [List.count_cons, List.count_nil] at hcount
    split_ifs at hcount <;> simp_all
  obtain ⟨rfl, rfl, rfl⟩ := hdots
  have hsplit := congrArg (List.takeWhile (· ≠ 58)) heq
  rwa [takeWhile_colon (colon_not_mem_dotted hfirst hsecond hthird hfourth) hport,
    takeWhile_colon (by decide) hport'] at hsplit

-- The first character tells the two apart.
theorem isDigit_head_dotted {first second third fourth port : ByteString} (hfirst : Octet first) :
    ∃ digit rest, dotted first second third fourth ++ port = digit :: rest ∧ isDigit digit := by
  obtain ⟨hpos, -, hdigits, -⟩ := hfirst
  obtain ⟨digit, rest, rfl⟩ := List.exists_cons_of_ne_nil (List.ne_nil_of_length_pos hpos)
  exact ⟨digit, _, rfl, hdigits digit List.mem_cons_self⟩

theorem not_mem_ipv6Any_of_digit {digit : UInt8} (hdigit : isDigit digit) (rest : ByteString) :
    digit :: rest ∉ RegexIpv6AnyAddressWithOptionalPort.matches' := by
  rw [mem_ipv6Any_iff]
  rintro ⟨port, -, heq | heq | heq | heq⟩ <;>
    exact absurd (List.head_eq_of_cons_eq heq ▸ hdigit) (by decide)

variable (ipAddress : ByteString)

theorem getIpAddressCategory_eq_ipv4_iff :
    getIpAddressCategory ipAddress = .Ipv4 ↔ IsIpv4 ipAddress := by
  have hcategory : getIpAddressCategory ipAddress = .Ipv4 ↔
      ipAddress ∉ RegexIpv4AnyAddressWithOptionalPort.matches' ∧
        ipAddress ∉ RegexIpv6AnyAddressWithOptionalPort.matches' ∧
        ipAddress ∈ RegexIpv4AddressWithOptionalPort.matches' := by
    simp only [← regexMatch_iff, getIpAddressCategory]
    split_ifs <;> simp_all
  rw [hcategory]
  constructor
  · rintro ⟨hany, -, hmem⟩
    obtain ⟨first, second, third, fourth, port, hfirst, hsecond, hthird, hfourth, hport, rfl⟩ :=
      mem_ipv4_iff.mp hmem
    refine ⟨first, second, third, fourth, port, hfirst, hsecond, hthird, hfourth, hport, ?_, rfl⟩
    intro hzeros
    refine hany (mem_ipv4Any_iff.mpr ⟨46, 46, 46, port, dots_are_separators, ?_, ?_⟩)
    · exact decimalPort_of_numberPort hport
    · rw [hzeros]
      rfl
  · rintro ⟨first, second, third, fourth, port, hfirst, hsecond, hthird, hfourth, hport, hne, rfl⟩
    refine ⟨fun hany => ?_, ?_, ?_⟩
    · obtain ⟨a, b, c, port', -, hport', heq⟩ := mem_ipv4Any_iff.mp hany
      exact hne (dotted_eq_zeros hfirst hsecond hthird hfourth (decimalPort_of_numberPort hport)
        hport' heq)
    · obtain ⟨digit, rest, heq, hdigit⟩ := isDigit_head_dotted hfirst
      rw [heq]
      exact not_mem_ipv6Any_of_digit hdigit rest
    · exact mem_ipv4_iff.mpr
        ⟨first, second, third, fourth, port, hfirst, hsecond, hthird, hfourth, hport, rfl⟩

end Ipv4

section Any

variable {ipAddress : ByteString}

theorem isAnyAddress_iff_mem :
    isAnyAddress ipAddress = true ↔
      ipAddress ∈ RegexIpv4AnyAddressWithOptionalPort.matches' ∨
        ipAddress ∈ RegexIpv6AnyAddressWithOptionalPort.matches' := by
  simp only [← regexMatch_iff, isAnyAddress, getIpAddressCategory]
  split_ifs <;> simp_all

-- An address in dotted notation is taken for the any-address where it is that address.
theorem isAnyAddress_dotted {first second third fourth port : ByteString} (hfirst : Octet first)
    (hsecond : Octet second) (hthird : Octet third) (hfourth : Octet fourth)
    (hport : DecimalPort port) (hne : dotted first second third fourth ≠ str "0.0.0.0") :
    isAnyAddress (dotted first second third fourth ++ port) = false := by
  rw [← Bool.not_eq_true, isAnyAddress_iff_mem]
  rintro (hany | hany)
  · obtain ⟨a, b, c, port', -, hport', heq⟩ := mem_ipv4Any_iff.mp hany
    exact hne (dotted_eq_zeros hfirst hsecond hthird hfourth hport hport' heq)
  · obtain ⟨digit, rest, heq, hdigit⟩ := isDigit_head_dotted hfirst
    rw [heq] at hany
    exact not_mem_ipv6Any_of_digit hdigit rest hany

theorem isAnyAddress_iff :
    isAnyAddress ipAddress = true ↔
      IsAny ipAddress ∨ ZerosWithoutDots ipAddress ∨ OneBracket ipAddress := by
  rw [isAnyAddress_iff_mem, mem_ipv4Any_iff, mem_ipv6Any_iff]
  constructor
  · rintro (⟨first, second, third, port, hseparators, hport, rfl⟩ | ⟨port, hport, hform⟩)
    · by_cases hdots : [first, second, third] = [46, 46, 46]
      · simp only [List.cons.injEq, and_true] at hdots
        obtain ⟨rfl, rfl, rfl⟩ := hdots
        exact .inl ⟨port, hport, .inl rfl⟩
      · exact .inr (.inl ⟨first, second, third, port, hseparators, hdots, hport, rfl⟩)
    · rcases hform with hform | hform | hform
      · exact .inl ⟨port, hport, .inr (.inl hform)⟩
      · exact .inl ⟨port, hport, .inr (.inr hform)⟩
      · exact .inr (.inr ⟨port, hport, hform⟩)
  · rintro (⟨port, hport, rfl | hform⟩ | ⟨first, second, third, port, hseparators, -, hport, rfl⟩ |
      ⟨port, hport, hform⟩)
    · exact .inl ⟨46, 46, 46, port, dots_are_separators, hport, rfl⟩
    · rcases hform with hform | hform
      · exact .inr ⟨port, hport, .inl hform⟩
      · exact .inr ⟨port, hport, .inr (.inl hform)⟩
    · exact .inl ⟨first, second, third, port, hseparators, hport, rfl⟩
    · exact .inr ⟨port, hport, .inr (.inr hform)⟩

-- A port does not begin with a bracket.
theorem ne_bracket_of_decimalPort {port rest : ByteString} (h : DecimalPort port) :
    port ≠ 93 :: rest := by
  rcases h with rfl | ⟨number, -, -, rfl⟩
  · nofun
  · intro heq
    exact absurd (List.head_eq_of_cons_eq heq) (by decide)

theorem not_isAny_of_zerosWithoutDots (h : ZerosWithoutDots ipAddress) : ¬ IsAny ipAddress := by
  obtain ⟨first, second, third, port, -, hdots, -, rfl⟩ := h
  rintro ⟨port', -, heq | heq | heq⟩
  · have hzeros := (List.append_inj heq rfl).1
    have hcharacters : [48, first, 48, second, 48, third, 48] =
        [48, 46, 48, 46, 48, 46, (48 : UInt8)] := hzeros
    simp only [List.cons.injEq, true_and, and_true] at hcharacters
    obtain ⟨rfl, rfl, rfl⟩ := hcharacters
    exact hdots rfl
  · exact absurd (List.head_eq_of_cons_eq heq) (by decide)
  · exact absurd (List.head_eq_of_cons_eq heq) (by decide)

theorem not_isAny_of_oneBracket (h : OneBracket ipAddress) : ¬ IsAny ipAddress := by
  obtain ⟨port, hport, rfl | rfl⟩ := h
  · rintro ⟨port', hport', heq | heq | heq⟩
    · exact absurd (List.head_eq_of_cons_eq heq) (by decide)
    · exact absurd (List.head_eq_of_cons_eq heq) (by decide)
    · exact ne_bracket_of_decimalPort hport (List.append_cancel_left heq : port = 93 :: port')
  · rintro ⟨port', hport', heq | heq | heq⟩
    · exact absurd (List.head_eq_of_cons_eq heq) (by decide)
    · have hback : str "::" ++ 93 :: port = str "::" ++ port' := heq
      exact ne_bracket_of_decimalPort hport' (List.append_cancel_left hback).symm
    · exact absurd (List.head_eq_of_cons_eq heq) (by decide)

-- The dots of the pattern stand for any characters, and each bracket is optional by itself.
theorem addressCategory_follows_iff (ipAddress : ByteString) :
    Follows ipAddress ↔ ¬ ZerosWithoutDots ipAddress ∧ ¬ OneBracket ipAddress := by
  constructor
  · rintro ⟨hany, -⟩
    refine ⟨fun hzeros => ?_, fun hbracket => ?_⟩
    · have haccepted := isAnyAddress_iff.mpr (.inr (.inl hzeros))
      exact not_isAny_of_zerosWithoutDots hzeros (hany.mp haccepted)
    · have haccepted := isAnyAddress_iff.mpr (.inr (.inr hbracket))
      exact not_isAny_of_oneBracket hbracket (hany.mp haccepted)
  · rintro ⟨hzeros, hbracket⟩
    refine ⟨?_, getIpAddressCategory_eq_ipv4_iff ipAddress⟩
    rw [isAnyAddress_iff]
    simp only [hzeros, hbracket, or_false]

-- `0x0y0z0` and `[::`.
theorem addressCategory_strays :
    isAnyAddress (str "0x0y0z0") = true ∧ ¬ Follows (str "0x0y0z0") ∧
      isAnyAddress (str "[::") = true ∧ ¬ Follows (str "[::") := by
  have hzeros : ZerosWithoutDots (str "0x0y0z0") :=
    ⟨120, 121, 122, [], by simp, by decide, .inl rfl, by decide⟩
  have hbracket : OneBracket (str "[::") := ⟨[], .inl rfl, .inl (by decide)⟩
  have hzerosAccepted := isAnyAddress_iff.mpr (.inr (.inl hzeros))
  have hbracketAccepted := isAnyAddress_iff.mpr (.inr (.inr hbracket))
  refine ⟨hzerosAccepted, fun hfollows => ?_, hbracketAccepted, fun hfollows => ?_⟩
  · exact not_isAny_of_zerosWithoutDots hzeros (hfollows.any.mp hzerosAccepted)
  · exact not_isAny_of_oneBracket hbracket (hfollows.any.mp hbracketAccepted)

end Any

end NetRemote.Net.Grammar
