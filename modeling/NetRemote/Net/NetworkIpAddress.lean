import NetRemote.Foundation.Bytes
import NetRemote.Foundation.Regex

namespace NetRemote.Net

open Foundation.Bytes Foundation.Regex

inductive IpAddressCategory where
  | Unknown
  | Ipv4
  | Ipv4Any
  | Ipv6Any
  deriving DecidableEq, Repr

abbrev Pattern := RegularExpression UInt8

def byteRange (first last : UInt8) : List UInt8 :=
  (List.range' first.toNat (last.toNat + 1 - first.toNat)).map UInt8.ofNat

-- `[0-9]` and the like.
def digits (first last : Nat) : Pattern := oneOf (byteRange (digitOf first) (digitOf last))

-- `\d`
def anyDigit : Pattern := digits 0 9

-- `.` is every character but the ends of a line.
def anyCharacter : Pattern :=
  oneOf ((byteRange 0 255).filter fun byte => byte ≠ 10 ∧ byte ≠ 13)

def RegexIpv4AnyAddressWithOptionalPort : Pattern :=
  literal (str "0") * anyCharacter * literal (str "0") * anyCharacter * literal (str "0") *
    anyCharacter * literal (str "0") * optional (literal (str ":") * oneOrMore anyDigit)

def RegexIpv6AnyAddressWithOptionalPort : Pattern :=
  optional (literal (str "[")) * literal (str "::") * optional (literal (str "]")) *
    optional (literal (str ":") * oneOrMore anyDigit)

-- `25[0-5]|2[0-4][0-9]|[01]?[0-9][0-9]?`
def octetPattern : Pattern :=
  literal (str "25") * digits 0 5 + literal (str "2") * digits 0 4 * digits 0 9 +
    optional (digits 0 1) * digits 0 9 * optional (digits 0 9)

-- `\d|[1-9]\d{1,3}|[1-5]\d{4}|6[0-4]\d{3}|65[0-4]\d{2}|655[0-2]\d|6553[0-5]`
def portPattern : Pattern :=
  anyDigit + digits 1 9 * repeated anyDigit 1 3 + digits 1 5 * repeated anyDigit 4 4 +
    literal (str "6") * digits 0 4 * repeated anyDigit 3 3 +
    literal (str "65") * digits 0 4 * repeated anyDigit 2 2 +
    literal (str "655") * digits 0 2 * anyDigit + literal (str "6553") * digits 0 5

def RegexIpv4AddressWithOptionalPort : Pattern :=
  octetPattern * literal (str ".") * octetPattern * literal (str ".") * octetPattern *
    literal (str ".") * octetPattern * optional (literal (str ":") * portPattern)

def getIpAddressCategory (ipAddress : ByteString) : IpAddressCategory :=
  if regexMatch ipAddress RegexIpv4AnyAddressWithOptionalPort then .Ipv4Any
  else if regexMatch ipAddress RegexIpv6AnyAddressWithOptionalPort then .Ipv6Any
  else if regexMatch ipAddress RegexIpv4AddressWithOptionalPort then .Ipv4
  else .Unknown

def isAnyAddress (ipAddress : ByteString) : Bool :=
  getIpAddressCategory ipAddress = .Ipv4Any || getIpAddressCategory ipAddress = .Ipv6Any

-- An address in dotted decimal notation.
structure Ipv4Address where
  first : UInt8
  second : UInt8
  third : UInt8
  fourth : UInt8
  deriving DecidableEq, Repr

def Ipv4Address.text (address : Ipv4Address) : ByteString :=
  decimal address.first.toNat ++ str "." ++ decimal address.second.toNat ++ str "." ++
    decimal address.third.toNat ++ str "." ++ decimal address.fourth.toNat

-- The texts of the numbers that a port has.
def portText (port : Option UInt16) : ByteString :=
  (port.map fun port => str ":" ++ decimal port.toNat).getD []

theorem mem_byteRange {first last byte : UInt8} (hfirst : first ≤ byte) (hlast : byte ≤ last) :
    byte ∈ byteRange first last := by
  have hlow : first.toNat ≤ byte.toNat := UInt8.le_iff_toNat_le.mp hfirst
  have hhigh : byte.toNat ≤ last.toNat := UInt8.le_iff_toNat_le.mp hlast
  refine List.mem_map.mpr ⟨byte.toNat, List.mem_range'_1.mpr ⟨hlow, by omega⟩, ?_⟩
  exact UInt8.ofNat_toNat

theorem toNat_digitOf {n : Nat} (h : n < 10) : (digitOf n).toNat = 48 + n := by
  rw [digitOf, UInt8.toNat_ofNat']
  omega

theorem digitOf_mem_byteRange {first last n : Nat} (hlast : last < 10) (hlow : first ≤ n)
    (hhigh : n ≤ last) : digitOf n ∈ byteRange (digitOf first) (digitOf last) := by
  have hn := toNat_digitOf (Nat.lt_of_le_of_lt hhigh hlast)
  have hfirst := toNat_digitOf (n := first) (by omega)
  have hlast' := toNat_digitOf hlast
  apply mem_byteRange <;> rw [UInt8.le_iff_toNat_le] <;> omega

theorem digitOf_mem_digits {first last n : Nat} (hlast : last < 10) (hlow : first ≤ n)
    (hhigh : n ≤ last) : [digitOf n] ∈ (digits first last).matches' :=
  mem_oneOf.mpr ⟨digitOf n, digitOf_mem_byteRange hlast hlow hhigh, rfl⟩

theorem digitOf_mem_digits_zero {last n : Nat} (hlast : last < 10) (h : n ≤ last) :
    [digitOf n] ∈ (digits 0 last).matches' := digitOf_mem_digits hlast (Nat.zero_le n) h

-- The last digits of a number, leading zeros included.
def lastDigits : Nat → Nat → ByteString
  | 0, _ => []
  | count + 1, n => lastDigits count (n / 10) ++ [digitOf (n % 10)]

theorem length_lastDigits (count n : Nat) : (lastDigits count n).length = count := by
  induction count generalizing n with
  | zero => rfl
  | succ count ih => rw [lastDigits, List.length_append, ih, List.length_singleton]

theorem mem_byteRange_of_mem_lastDigits {count n : Nat} {byte : UInt8}
    (h : byte ∈ lastDigits count n) : byte ∈ byteRange (digitOf 0) (digitOf 9) := by
  induction count generalizing n with
  | zero => cases h
  | succ count ih =>
      rcases List.mem_append.mp h with hmem | hmem
      · exact ih hmem
      · obtain rfl := List.mem_singleton.mp hmem
        exact digitOf_mem_byteRange (by decide) (Nat.zero_le _) (by omega)

theorem decimal_eq_append {count n : Nat} (h : 10 ^ count ≤ n) :
    decimal n = decimal (n / 10 ^ count) ++ lastDigits count n := by
  induction count generalizing n with
  | zero => rw [Nat.pow_zero, Nat.div_one, lastDigits, List.append_nil]
  | succ count ih =>
      rw [Nat.pow_succ] at h
      have hpos : 1 ≤ 10 ^ count := Nat.one_le_pow count 10 (by decide)
      have hten : 10 ≤ n := by omega
      have hrest : 10 ^ count ≤ n / 10 := (Nat.le_div_iff_mul_le (by decide)).mpr h
      rw [decimal_of_le hten, ih hrest, Nat.div_div_eq_div_mul, Nat.pow_succ, Nat.mul_comm 10,
        lastDigits, List.append_assoc]

theorem lastDigits_mem_repeated {count least most : Nat} (hleast : least ≤ count)
    (hmost : count ≤ most) (n : Nat) :
    lastDigits count n ∈ (repeated anyDigit least most).matches' := by
  have hlength := length_lastDigits count n
  exact mem_repeated (by omega) (by omega) fun _ => mem_byteRange_of_mem_lastDigits

-- A number with one digit more than another.
theorem decimal_mem_literal_mul {last n m : Nat} {text : ByteString} (htext : decimal m = text)
    (hm : n / 10 = m) (hpos : 0 < m) (hlast : last < 10) (h : n % 10 ≤ last) :
    decimal n ∈ (literal text * digits 0 last).matches' := by
  have hten : 10 ≤ n := by omega
  rw [decimal_of_le hten, hm, htext]
  exact mem_mul_of_mem (mem_literal.mpr rfl) (digitOf_mem_digits_zero hlast h)

theorem decimal_mem_octetPattern {n : Nat} (h : n < 256) :
    decimal n ∈ octetPattern.matches' := by
  have hnine : 9 < 10 := by decide
  have hmod : n % 10 ≤ 9 := by omega
  by_cases hhigh : 250 ≤ n
  · have htext : decimal n ∈ (literal (str "25") * digits 0 5).matches' :=
      decimal_mem_literal_mul (by decide : decimal 25 = str "25") (by omega) (by decide) (by decide)
        (by omega)
    exact mem_add_left (mem_add_left htext)
  · by_cases htwo : 200 ≤ n
    · have hhead : decimal (n / 10) ∈ (literal (str "2") * digits 0 4).matches' :=
        decimal_mem_literal_mul (by decide : decimal 2 = str "2") (by omega) (by decide) (by decide)
          (by omega)
      have htext := mem_mul_of_mem hhead (digitOf_mem_digits_zero hnine hmod)
      rw [← decimal_of_le (by omega)] at htext
      exact mem_add_left (mem_add_right htext)
    · apply mem_add_right
      by_cases hten : 10 ≤ n
      · rw [decimal_of_le hten]
        refine mem_mul_of_mem ?_ (mem_optional_of_mem (digitOf_mem_digits_zero hnine hmod))
        by_cases hhundred : 100 ≤ n
        · have hfirst : [digitOf (n / 10 / 10)] ∈ (digits 0 1).matches' :=
            digitOf_mem_digits_zero (by decide) (by omega)
          have hsecond : [digitOf (n / 10 % 10)] ∈ (digits 0 9).matches' :=
            digitOf_mem_digits_zero hnine (by omega)
          have htext := mem_mul_of_mem (mem_optional_of_mem hfirst) hsecond
          rwa [← decimal_of_lt (by omega), ← decimal_of_le (by omega)] at htext
        · rw [decimal_of_lt (by omega)]
          exact mem_mul_of_mem (nil_mem_optional _) (digitOf_mem_digits_zero hnine (by omega))
      · rw [decimal_of_lt (by omega), ← List.append_nil [digitOf n]]
        refine mem_mul_of_mem ?_ (nil_mem_optional _)
        exact mem_mul_of_mem (nil_mem_optional _) (digitOf_mem_digits_zero hnine (by omega))

-- A number that begins with a digit and goes on with any digits.
theorem decimal_mem_digits_mul {first last least most n : Nat} (count : Nat) (hlast : last < 10)
    (hfirst : 0 < first) (hlow : first * 10 ^ count ≤ n) (hhigh : n < (last + 1) * 10 ^ count)
    (hleast : least ≤ count) (hmost : count ≤ most) :
    decimal n ∈ (digits first last * repeated anyDigit least most).matches' := by
  have hpos : 0 < 10 ^ count := Nat.pow_pos (by decide)
  have hdiv : first ≤ n / 10 ^ count := (Nat.le_div_iff_mul_le hpos).mpr hlow
  have hdiv' : n / 10 ^ count < last + 1 := (Nat.div_lt_iff_lt_mul hpos).mpr hhigh
  have hle : 10 ^ count ≤ n := Nat.le_trans (Nat.le_mul_of_pos_left _ hfirst) hlow
  rw [decimal_eq_append hle, decimal_of_lt (by omega)]
  exact mem_mul_of_mem (digitOf_mem_digits hlast hdiv (by omega))
    (lastDigits_mem_repeated hleast hmost n)

-- The same with any digits after it.
theorem decimal_mem_literal_mul_repeated {last n m : Nat} {text : ByteString} (count : Nat)
    (htext : decimal m = text) (hm : n / 10 ^ count / 10 = m) (hpos : 0 < m) (hlast : last < 10)
    (h : n / 10 ^ count % 10 ≤ last) :
    decimal n ∈ (literal text * digits 0 last * repeated anyDigit count count).matches' := by
  have hle : 10 ^ count ≤ n := by
    by_contra hlt
    rw [Nat.div_eq_of_lt (Nat.not_le.mp hlt)] at hm
    omega
  rw [decimal_eq_append hle]
  exact mem_mul_of_mem (decimal_mem_literal_mul htext hm hpos hlast h)
    (lastDigits_mem_repeated (Nat.le_refl count) (Nat.le_refl count) n)

theorem decimal_mem_portPattern {n : Nat} (h : n < 65536) : decimal n ∈ portPattern.matches' := by
  by_cases hone : n < 10
  · rw [decimal_of_lt hone]
    have htext : [digitOf n] ∈ anyDigit.matches' :=
      digitOf_mem_digits_zero (by decide) (by omega)
    exact mem_add_left (mem_add_left (mem_add_left (mem_add_left (mem_add_left
      (mem_add_left htext)))))
  by_cases hfour : n < 10000
  · have htext : decimal n ∈ (digits 1 9 * repeated anyDigit 1 3).matches' := by
      by_cases htwo : n < 100
      · exact decimal_mem_digits_mul 1 (by decide) (by decide) (by omega) (by omega)
          (by decide) (by decide)
      by_cases hthree : n < 1000
      · exact decimal_mem_digits_mul 2 (by decide) (by decide) (by omega) (by omega)
          (by decide) (by decide)
      · exact decimal_mem_digits_mul 3 (by decide) (by decide) (by omega) (by omega)
          (by decide) (by decide)
    exact mem_add_left (mem_add_left (mem_add_left (mem_add_left (mem_add_left
      (mem_add_right htext)))))
  by_cases hfive : n < 60000
  · have htext : decimal n ∈ (digits 1 5 * repeated anyDigit 4 4).matches' :=
      decimal_mem_digits_mul 4 (by decide) (by decide) (by omega) (by omega)
        (by decide) (by decide)
    exact mem_add_left (mem_add_left (mem_add_left (mem_add_left (mem_add_right htext))))
  by_cases hsix : n < 65000
  · have htext : decimal n ∈ (literal (str "6") * digits 0 4 * repeated anyDigit 3 3).matches' :=
      decimal_mem_literal_mul_repeated 3 (by decide : decimal 6 = str "6") (by omega) (by decide)
        (by decide) (by omega)
    exact mem_add_left (mem_add_left (mem_add_left (mem_add_right htext)))
  by_cases hfives : n < 65500
  · have htext : decimal n ∈ (literal (str "65") * digits 0 4 * repeated anyDigit 2 2).matches' :=
      decimal_mem_literal_mul_repeated 2 (by decide : decimal 65 = str "65") (by omega) (by decide)
        (by decide) (by omega)
    exact mem_add_left (mem_add_left (mem_add_right htext))
  by_cases hlast : n < 65530
  · have hhead : decimal (n / 10) ∈ (literal (str "655") * digits 0 2).matches' :=
      decimal_mem_literal_mul (by decide : decimal 655 = str "655") (by omega) (by decide)
        (by decide) (by omega)
    have hdigit : [digitOf (n % 10)] ∈ anyDigit.matches' :=
      digitOf_mem_digits_zero (by decide) (by omega)
    have htext := mem_mul_of_mem hhead hdigit
    rw [← decimal_of_le (by omega)] at htext
    exact mem_add_left (mem_add_right htext)
  · exact mem_add_right (decimal_mem_literal_mul (by decide : decimal 6553 = str "6553")
      (by omega) (by decide) (by decide) (by omega))

theorem getIpAddressCategory_ne_unknown {text : ByteString}
    (h : text ∈ RegexIpv4AddressWithOptionalPort.matches') :
    getIpAddressCategory text ≠ .Unknown := by
  have hmatch := regexMatch_iff.mpr h
  unfold getIpAddressCategory
  split_ifs <;> simp

-- The text of an address is recognized, with a port and without.
theorem getIpAddressCategory_text (address : Ipv4Address) (port : Option UInt16) :
    getIpAddressCategory (address.text ++ portText port) ≠ .Unknown := by
  apply getIpAddressCategory_ne_unknown
  have hoctet : ∀ octet : UInt8, decimal octet.toNat ∈ octetPattern.matches' :=
    fun octet => decimal_mem_octetPattern octet.toNat_lt
  have hdot : str "." ∈ (literal (str ".")).matches' := mem_literal.mpr rfl
  have haddress : address.text ∈ (octetPattern * literal (str ".") * octetPattern *
      literal (str ".") * octetPattern * literal (str ".") * octetPattern).matches' :=
    mem_mul_of_mem (mem_mul_of_mem (mem_mul_of_mem (mem_mul_of_mem (mem_mul_of_mem
      (mem_mul_of_mem (hoctet _) hdot) (hoctet _)) hdot) (hoctet _)) hdot) (hoctet _)
  refine mem_mul_of_mem haddress ?_
  cases port with
  | none => exact nil_mem_optional _
  | some port =>
      have hport := decimal_mem_portPattern port.toNat_lt
      exact mem_optional_of_mem (mem_mul_of_mem (mem_literal.mpr rfl) hport)

end NetRemote.Net
