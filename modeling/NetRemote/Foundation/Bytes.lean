import Mathlib.Algebra.Group.Int.Defs
import Mathlib.Algebra.Group.Nat.Defs
import Mathlib.Data.List.Basic
import Mathlib.Data.List.Induction
import Mathlib.Data.List.TakeWhile

namespace Foundation.Bytes

-- Text is what the program handles: bytes without an encoding.
abbrev ByteString := List UInt8

def str (s : String) : ByteString := s.toList.map Char.toUInt8

-- The standard exceptions that conversions, accesses and allocations can throw.
inductive StdException where
  | InvalidArgument
  | OutOfRange
  | BadOptionalAccess
  | LengthError
  | BadAlloc
  deriving DecidableEq, Repr

-- `std::views::split`: an empty range has no element, not one empty element.
def split (delimiter : UInt8) (text : ByteString) : List ByteString :=
  if text = [] then [] else text.splitOn delimiter

-- `substr` from a position that is not past the end.
def substr (text : ByteString) (position count : Nat) : ByteString :=
  (text.drop position).take count

-- `find_last_of` one character.
def findLastOf (text : ByteString) (byte : UInt8) : Option Nat :=
  (text.reverse.findIdx? (· = byte)).map fun position => text.length - 1 - position

-- `std::getline` until the stream ends: what follows the last delimiter is read
-- only where there is something.
def getlines (delimiter : UInt8) (text : ByteString) : List ByteString :=
  let lines := text.splitOn delimiter
  if lines.getLast? = some [] then lines.dropLast else lines

def decimal (n : Nat) : ByteString := (Nat.toDigits 10 n).map Char.toUInt8

def signedDecimal (n : Int) : ByteString :=
  if n < 0 then str "-" ++ decimal n.natAbs else decimal n.natAbs

def isDigit (byte : UInt8) : Bool := 48 ≤ byte && byte ≤ 57

def isSpace (byte : UInt8) : Bool := byte = 32 || (9 ≤ byte && byte ≤ 13)

def ofDigits (digits : ByteString) : Nat :=
  digits.foldl (fun value digit => 10 * value + (digit.toNat - 48)) 0

-- `std::stoul` in base 10: leading white space and a sign are skipped, whatever
-- follows the digits is ignored, and a negative number wraps.
def stoul (text : ByteString) : Except StdException Nat :=
  let text := text.dropWhile isSpace
  let negative := text.head? = some 45
  let text := if text.head? = some 43 ∨ negative then text.tail else text
  let digits := text.takeWhile isDigit
  if digits = [] then .error .InvalidArgument
  else if 2 ^ 64 ≤ ofDigits digits then .error .OutOfRange
  else if negative then .ok ((2 ^ 64 - ofDigits digits) % 2 ^ 64)
  else .ok (ofDigits digits)

-- `std::from_chars` into a 32-bit `int`: the value is stored whenever digits are
-- found in range, and the flag says whether they reach the end of the text.
def fromCharsInt (text : ByteString) (value : Int) : Int × Bool :=
  let negative := text.head? = some 45
  let unsigned := if negative then text.tail else text
  let digits := unsigned.takeWhile isDigit
  let parsed : Int := if negative then -(ofDigits digits : Int) else ofDigits digits
  if digits = [] then (value, false)
  else if parsed < -2 ^ 31 ∨ 2 ^ 31 ≤ parsed then (value, false)
  else (parsed, digits.length = unsigned.length)

def hexDigitValue (byte : UInt8) : Option Nat :=
  if isDigit byte then some (byte.toNat - 48)
  else if 65 ≤ byte && byte ≤ 70 then some (byte.toNat - 55)
  else if 97 ≤ byte && byte ≤ 102 then some (byte.toNat - 87)
  else none

-- `std::from_chars` in base 16 into an 8-bit unsigned integer: whatever follows
-- the digits is ignored.
def fromCharsHex (text : ByteString) : Option UInt8 :=
  let digits := text.takeWhile fun byte => (hexDigitValue byte).isSome
  let value := (digits.filterMap hexDigitValue).foldl (fun value digit => 16 * value + digit) 0
  if digits = [] ∨ 2 ^ 8 ≤ value then none else some (UInt8.ofNat value)

-- What a text of hexadecimal digits stands for, two digits a byte.
def decodeHex : ByteString → Option (List UInt8)
  | [] => some []
  | [_] => none
  | high :: low :: rest => do
      let high ← hexDigitValue high
      let low ← hexDigitValue low
      let rest ← decodeHex rest
      some (UInt8.ofNat (16 * high + low) :: rest)

theorem toNat_toUInt8_digit {c : Char} (h : c.isDigit) : c.toUInt8.toNat = c.toNat := by
  simp only [Char.isDigit, Bool.and_eq_true, decide_eq_true_eq] at h
  have hle : c.toNat ≤ 57 := h.2
  have hmod : c.toUInt8.toNat = c.toNat % 256 := UInt32.toNat_toUInt8 c.val
  omega

theorem isDigit_decimal {n : Nat} {byte : UInt8} (h : byte ∈ decimal n) : isDigit byte := by
  obtain ⟨c, hc, rfl⟩ := List.mem_map.mp h
  have hdigit := Nat.isDigit_of_mem_toDigits (by decide) (by decide) hc
  have hnat := toNat_toUInt8_digit hdigit
  simp only [Char.isDigit, Bool.and_eq_true, decide_eq_true_eq] at hdigit
  have hge : 48 ≤ c.toNat := hdigit.1
  have hle : c.toNat ≤ 57 := hdigit.2
  simp only [isDigit, Bool.and_eq_true, decide_eq_true_eq, UInt8.le_iff_toNat_le, hnat]
  exact ⟨hge, hle⟩

theorem decimal_ne_nil (n : Nat) : decimal n ≠ [] := by
  simp [decimal, Nat.toDigits_ne_nil]

theorem ofDigits_map (digits : List Char) (h : ∀ c ∈ digits, c.isDigit) :
    ofDigits (digits.map Char.toUInt8) = Nat.ofDigitChars 10 digits 0 := by
  unfold ofDigits
  rw [Nat.ofDigitChars_eq_foldl, List.foldl_map]
  apply List.foldl_ext
  intro value c hc
  rw [toNat_toUInt8_digit (h c hc)]
  rfl

theorem ofDigits_decimal (n : Nat) : ofDigits (decimal n) = n := by
  rw [decimal, ofDigits_map _ fun c hc => Nat.isDigit_of_mem_toDigits (by decide) (by decide) hc]
  exact Nat.ofDigitChars_ten_toDigits

theorem takeWhile_decimal (n : Nat) : (decimal n).takeWhile isDigit = decimal n :=
  List.takeWhile_eq_self_iff.mpr fun _ h => isDigit_decimal h

-- The first byte of a number is neither a sign nor white space.
theorem head_decimal (n : Nat) : ∃ byte rest, decimal n = byte :: rest ∧ isDigit byte := by
  obtain ⟨byte, rest, hcons⟩ := List.exists_cons_of_ne_nil (decimal_ne_nil n)
  exact ⟨byte, rest, hcons, isDigit_decimal (hcons ▸ List.mem_cons_self)⟩

private theorem head_ne_sign (n : Nat) (sign : UInt8) (hsign : sign.toNat < 48) :
    (decimal n).head? ≠ some sign := by
  obtain ⟨byte, rest, hcons, hdigit⟩ := head_decimal n
  simp only [isDigit, Bool.and_eq_true, decide_eq_true_eq, UInt8.le_iff_toNat_le] at hdigit
  have hge : 48 ≤ byte.toNat := hdigit.1
  intro heq
  rw [hcons, List.head?_cons, Option.some.injEq] at heq
  rw [heq] at hge
  omega

private theorem dropWhile_decimal (n : Nat) : (decimal n).dropWhile isSpace = decimal n := by
  obtain ⟨byte, rest, hcons, hdigit⟩ := head_decimal n
  simp only [isDigit, Bool.and_eq_true, decide_eq_true_eq, UInt8.le_iff_toNat_le] at hdigit
  have hge : 48 ≤ byte.toNat := hdigit.1
  have hspace : isSpace byte = false := by
    simp only [isSpace, Bool.or_eq_false_iff, Bool.and_eq_false_iff, decide_eq_false_iff_not,
      UInt8.le_iff_toNat_le, ← UInt8.toNat_inj]
    exact ⟨by simp; omega, .inr (by simp; omega)⟩
  rw [hcons, List.dropWhile_cons_of_neg (by simp [hspace])]

theorem stoul_decimal (n : Nat) (h : n < 2 ^ 64) : stoul (decimal n) = .ok n := by
  have hplus := head_ne_sign n 43 (by decide)
  have hminus := head_ne_sign n 45 (by decide)
  simp [stoul, dropWhile_decimal, hplus, hminus, takeWhile_decimal, decimal_ne_nil,
    ofDigits_decimal]
  omega

theorem fromCharsInt_decimal (n : Nat) (value : Int) (h : n < 2 ^ 31) :
    fromCharsInt (decimal n) value = ((n : Int), true) := by
  have hminus := head_ne_sign n 45 (by decide)
  have hrange : ¬ ((n : Int) < -2 ^ 31 ∨ 2 ^ 31 ≤ (n : Int)) := by omega
  simp only [fromCharsInt, hminus, if_false, takeWhile_decimal,
    decimal_ne_nil, ofDigits_decimal, hrange, decide_true]

theorem fromCharsInt_signedDecimal (n value : Int) (hlower : -2 ^ 31 ≤ n) (hupper : n < 2 ^ 31) :
    fromCharsInt (signedDecimal n) value = (n, true) := by
  unfold signedDecimal
  by_cases hnegative : n < 0
  · have hsign : str "-" = [45] := rfl
    have habs : (n.natAbs : Int) = -n := by omega
    have hrange : ¬ (-(n.natAbs : Int) < -2 ^ 31 ∨ 2 ^ 31 ≤ -(n.natAbs : Int)) := by omega
    rw [if_pos hnegative, hsign]
    simp only [fromCharsInt, List.singleton_append, List.head?_cons, decide_true, if_true,
      List.tail_cons, takeWhile_decimal, decimal_ne_nil, if_false, ofDigits_decimal, hrange]
    rw [habs, Int.neg_neg]
  · have habs : (n.natAbs : Int) = n := by omega
    rw [if_neg hnegative, fromCharsInt_decimal n.natAbs value (by omega), habs]

def digitOf (n : Nat) : UInt8 := UInt8.ofNat (48 + n)

theorem toUInt8_digitChar {n : Nat} (h : n < 10) : (Nat.digitChar n).toUInt8 = digitOf n := by
  have hall : ∀ n : Fin 10, (Nat.digitChar n).toUInt8 = digitOf n := by decide
  exact hall ⟨n, h⟩

theorem decimal_of_lt {n : Nat} (h : n < 10) : decimal n = [digitOf n] := by
  rw [decimal, Nat.toDigits_of_lt_base h, List.map_singleton, toUInt8_digitChar h]

theorem decimal_of_le {n : Nat} (h : 10 ≤ n) :
    decimal n = decimal (n / 10) ++ [digitOf (n % 10)] := by
  rw [decimal, Nat.toDigits_of_base_le (by decide) h, List.map_append, List.map_singleton,
    toUInt8_digitChar (Nat.mod_lt n (by decide))]
  rfl

theorem isDigit_iff {byte : UInt8} : isDigit byte ↔ ∃ n < 10, byte = digitOf n := by
  have htoNat : isDigit byte ↔ 48 ≤ byte.toNat ∧ byte.toNat ≤ 57 := by
    simp only [isDigit, Bool.and_eq_true, decide_eq_true_eq, UInt8.le_iff_toNat_le]
    rfl
  rw [htoNat]
  constructor
  · rintro ⟨hlow, hhigh⟩
    refine ⟨byte.toNat - 48, by omega, ?_⟩
    rw [digitOf, Nat.add_sub_cancel' hlow, UInt8.ofNat_toNat]
  · rintro ⟨n, hn, rfl⟩
    rw [digitOf, UInt8.toNat_ofNat']
    omega

theorem ofDigits_append (front back : ByteString) :
    ofDigits (front ++ back) = ofDigits front * 10 ^ back.length + ofDigits back := by
  induction back using List.reverseRecOn with
  | nil => simp [ofDigits]
  | append_singleton back last ih =>
      have hlast : ∀ text, ofDigits (text ++ [last]) = 10 * ofDigits text + (last.toNat - 48) :=
        fun text => by rw [ofDigits, List.foldl_append]; rfl
      rw [← List.append_assoc, hlast, hlast, ih, List.length_append, List.length_singleton,
        Nat.pow_succ, Nat.mul_add, Nat.add_assoc, Nat.mul_left_comm, Nat.mul_comm 10 (10 ^ _)]

theorem ofDigits_singleton {n : Nat} (h : n < 10) : ofDigits [digitOf n] = n := by
  simp only [ofDigits, List.foldl_cons, List.foldl_nil, digitOf, UInt8.toNat_ofNat']
  omega

theorem ofDigits_lt {text : ByteString} (h : ∀ byte ∈ text, isDigit byte) :
    ofDigits text < 10 ^ text.length := by
  induction text using List.reverseRecOn with
  | nil => decide
  | append_singleton text last ih =>
      rw [List.forall_mem_append] at h
      obtain ⟨n, hn, rfl⟩ := isDigit_iff.mp (h.2 last (by simp))
      have htext := ih h.1
      rw [ofDigits_append, ofDigits_singleton hn, List.length_append, List.length_singleton,
        Nat.pow_one, Nat.pow_succ]
      omega

-- A text of digits is the number that it stands for where no zero leads it.
theorem decimal_ofDigits {text : ByteString} (hne : text ≠ []) (h : ∀ byte ∈ text, isDigit byte)
    (hzero : text.head? = some 48 → text.length = 1) : decimal (ofDigits text) = text := by
  induction text using List.reverseRecOn with
  | nil => exact absurd rfl hne
  | append_singleton text last ih =>
      rw [List.forall_mem_append] at h
      obtain ⟨n, hn, rfl⟩ := isDigit_iff.mp (h.2 last (by simp))
      cases text with
      | nil => rw [List.nil_append, ofDigits_singleton hn, decimal_of_lt hn]
      | cons first rest =>
          have hfirst : first ≠ 48 := by
            rintro rfl
            have hone := hzero rfl
            simp at hone
          have hback := ih nofun h.1 fun heq => absurd (Option.some.inj heq) hfirst
          have hpos : ofDigits (first :: rest) ≠ 0 := by
            intro hnone
            rw [hnone] at hback
            have hhead := congrArg List.head? hback
            exact hfirst (Option.some.inj hhead).symm
          have hvalue : ofDigits (first :: rest ++ [digitOf n]) =
              10 * ofDigits (first :: rest) + n := by
            rw [ofDigits_append, ofDigits_singleton hn, List.length_singleton]
            omega
          have hquotient : (10 * ofDigits (first :: rest) + n) / 10 = ofDigits (first :: rest) := by
            omega
          have hremainder : (10 * ofDigits (first :: rest) + n) % 10 = n := by omega
          rw [hvalue, decimal_of_le (by omega), hquotient, hremainder, hback]

theorem findIdx?_of_not_mem {text : ByteString} {byte : UInt8} (h : byte ∉ text) :
    text.findIdx? (· = byte) = none := by
  rw [List.findIdx?_eq_none_iff]
  intro other hother
  rw [decide_eq_false_iff_not]
  rintro rfl
  exact h hother

theorem findLastOf_of_not_mem {text : ByteString} {byte : UInt8} (h : byte ∉ text) :
    findLastOf text byte = none := by
  rw [findLastOf, findIdx?_of_not_mem fun hmem => h (List.mem_reverse.mp hmem), Option.map_none]

theorem findLastOf_append {text rest : ByteString} {byte : UInt8} (h : byte ∉ rest) :
    findLastOf (text ++ byte :: rest) byte = some text.length := by
  have hnone := findIdx?_of_not_mem fun hmem => h (List.mem_reverse.mp hmem)
  have hfound : (text ++ byte :: rest).reverse.findIdx? (· = byte) = some rest.length := by
    rw [List.reverse_append, List.reverse_cons, List.append_assoc, List.findIdx?_append, hnone]
    simp [List.findIdx?_cons]
  rw [findLastOf, hfound, Option.map_some, List.length_append, List.length_cons]
  congr 1
  omega

theorem getlines_intercalate {delimiter : UInt8} {lines : List ByteString} (hlines : lines ≠ [])
    (h : ∀ line ∈ lines, delimiter ∉ line) (hlast : lines.getLast? ≠ some []) :
    getlines delimiter ([delimiter].intercalate lines) = lines := by
  rw [getlines, List.splitOn_intercalate delimiter h hlines]
  exact if_neg hlast

-- What is built by writing the delimiter after every part, and taking the last one away
-- again.
theorem dropLast_flatMap {α : Type} (delimiter : UInt8) (write : α → ByteString)
    (items : List α) :
    (items.flatMap fun item => write item ++ [delimiter]).dropLast =
      [delimiter].intercalate (items.map write) := by
  induction items with
  | nil => rfl
  | cons item items ih =>
      cases items with
      | nil => simp
      | cons second rest =>
          rw [List.flatMap_cons, List.map_cons, List.map_cons, List.intercalate_cons_cons,
            List.dropLast_append_of_ne_nil (by simp), ih, List.map_cons]

theorem splitOn_dropLast_flatMap {α : Type} {delimiter : UInt8} {write : α → ByteString}
    {items : List α} (hitems : items ≠ []) (h : ∀ item ∈ items, delimiter ∉ write item) :
    (items.flatMap fun item => write item ++ [delimiter]).dropLast.splitOn delimiter =
      items.map write := by
  rw [dropLast_flatMap]
  apply List.splitOn_intercalate
  · exact List.forall_mem_map.mpr h
  · simpa using hitems

-- The parts between delimiters have no delimiter in them.
theorem not_mem_of_mem_splitOn {delimiter : UInt8} {text part : ByteString}
    (h : part ∈ text.splitOn delimiter) : delimiter ∉ part := by
  induction text generalizing part with
  | nil =>
      rw [List.splitOn_nil, List.mem_singleton] at h
      simp [h]
  | cons byte text ih =>
      rw [List.splitOn_cons_eq_if_modifyHead] at h
      by_cases hbyte : byte = delimiter
      · rw [if_pos (by simpa using hbyte)] at h
        rcases List.mem_cons.mp h with rfl | hrest
        · simp
        · exact ih hrest
      · rw [if_neg (by simpa using hbyte)] at h
        cases hsplit : text.splitOn delimiter with
        | nil => exact absurd hsplit (List.splitOn_ne_nil delimiter text)
        | cons first rest =>
            rw [hsplit] at h ih
            rw [List.modifyHead_cons] at h
            rcases List.mem_cons.mp h with rfl | hrest
            · have hfirst := ih List.mem_cons_self
              simp only [List.mem_cons, not_or]
              exact ⟨fun heq => hbyte heq.symm, hfirst⟩
            · exact ih (List.mem_cons_of_mem _ hrest)

theorem hexDigitValue_lt {byte : UInt8} {digit : Nat} (h : hexDigitValue byte = some digit) :
    digit < 16 := by
  unfold hexDigitValue isDigit at h
  simp only [Bool.and_eq_true, decide_eq_true_eq, UInt8.le_iff_toNat_le] at h
  split_ifs at h with hdigit hupper hlower
  · have hvalue := Option.some.inj h
    have hle : byte.toNat ≤ 57 := hdigit.2
    omega
  · have hvalue := Option.some.inj h
    have hle : byte.toNat ≤ 70 := hupper.2
    omega
  · have hvalue := Option.some.inj h
    have hle : byte.toNat ≤ 102 := hlower.2
    omega

theorem fromCharsHex_pair {high low : UInt8} {highDigit lowDigit : Nat}
    (hhigh : hexDigitValue high = some highDigit) (hlow : hexDigitValue low = some lowDigit) :
    fromCharsHex [high, low] = some (UInt8.ofNat (16 * highDigit + lowDigit)) := by
  have hsmall : 16 * highDigit + lowDigit < 256 := by
    have hhighDigit := hexDigitValue_lt hhigh
    have hlowDigit := hexDigitValue_lt hlow
    omega
  simp [fromCharsHex, List.takeWhile, hhigh, hlow, hsmall]

-- What is read of a piece depends on its first character alone.
theorem fromCharsHex_isSome_iff {piece : ByteString} (h : piece.length ≤ 2) :
    (fromCharsHex piece).isSome ↔ ∃ digit ∈ piece.head?, (hexDigitValue digit).isSome := by
  match piece, h with
  | [], _ => decide
  | [first], _ =>
      cases hfirst : hexDigitValue first with
      | none => simp [fromCharsHex, List.takeWhile, hfirst]
      | some digit =>
          have hsmall : digit < 256 := (hexDigitValue_lt hfirst).trans (by decide)
          simp [fromCharsHex, List.takeWhile, hfirst, hsmall]
  | [first, second], _ =>
      cases hfirst : hexDigitValue first with
      | none => simp [fromCharsHex, List.takeWhile, hfirst]
      | some digit =>
          have hsmall : digit < 256 := (hexDigitValue_lt hfirst).trans (by decide)
          cases hsecond : hexDigitValue second with
          | none => simp [fromCharsHex, List.takeWhile, hfirst, hsecond, hsmall]
          | some low => simp [fromCharsHex_pair hfirst hsecond, hfirst]

end Foundation.Bytes
