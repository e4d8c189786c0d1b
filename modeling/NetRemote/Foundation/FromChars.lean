import NetRemote.Foundation.Bytes

namespace Foundation.Bytes

def InRange (n : Int) : Prop := -2 ^ 31 ≤ n ∧ n < 2 ^ 31

theorem inRange_iff {n : Int} : InRange n ↔ ¬(n < -2 ^ 31 ∨ 2 ^ 31 ≤ n) := by
  unfold InRange
  omega

-- The number that a whole text denotes, in the range of an `int`.
inductive IsInt : ByteString → Int → Prop
  | Unsigned (digits : ByteString) (hne : digits ≠ []) (hdigits : ∀ byte ∈ digits, isDigit byte)
      (hrange : InRange (ofDigits digits)) : IsInt digits (ofDigits digits)
  | Negative (digits : ByteString) (hne : digits ≠ []) (hdigits : ∀ byte ∈ digits, isDigit byte)
      (hrange : InRange (-(ofDigits digits : Int))) :
      IsInt (45 :: digits) (-(ofDigits digits : Int))

-- The number that a text starts with, as long as it can be.
def LeadingInt (text : ByteString) (n : Int) : Prop :=
  ∃ number rest, text = number ++ rest ∧ IsInt number n ∧ ∀ byte ∈ rest.head?, ¬isDigit byte

theorem IsInt.leading {text : ByteString} {n : Int} (h : IsInt text n) : LeadingInt text n :=
  ⟨text, [], (List.append_nil text).symm, h, nofun⟩

section FromChars

variable {text digits rest : ByteString} {n : Int}

theorem takeWhile_digits (hdigits : ∀ byte ∈ digits, isDigit byte)
    (hrest : ∀ byte ∈ rest.head?, ¬isDigit byte) :
    (digits ++ rest).takeWhile isDigit = digits := by
  rw [List.takeWhile_append_of_pos hdigits]
  cases rest with
  | nil => simp
  | cons byte rest =>
      have hbyte : ¬isDigit byte := hrest byte rfl
      rw [List.takeWhile_cons_of_neg hbyte, List.append_nil]

theorem head_ne_minus (hne : digits ≠ []) (hdigits : ∀ byte ∈ digits, isDigit byte) :
    (digits ++ rest).head? ≠ some 45 := by
  cases digits with
  | nil => exact absurd rfl hne
  | cons byte digits =>
      have hbyte := hdigits byte List.mem_cons_self
      intro hhead
      obtain rfl : byte = 45 := Option.some.inj hhead
      exact absurd hbyte (by decide)

-- The number is stored, and the flag tells whether the text ends with it.
theorem fromCharsInt_number {number : ByteString} (hnumber : IsInt number n)
    (hrest : ∀ byte ∈ rest.head?, ¬isDigit byte) (value : Int) :
    fromCharsInt (number ++ rest) value = (n, decide (rest = [])) := by
  have hend : ∀ digits : ByteString, digits.length = (digits ++ rest).length ↔ rest = [] := by
    intro digits
    rw [List.length_append, ← List.length_eq_zero_iff]
    omega
  cases hnumber with
  | Unsigned _ hne hdigits hrange =>
      have hhead : (number ++ rest).head? ≠ some 45 := head_ne_minus hne hdigits
      have hin := inRange_iff.mp hrange
      simp only [fromCharsInt, hhead, if_false, takeWhile_digits hdigits hrest, hne, hin, hend]
  | Negative digits hne hdigits hrange =>
      have hin := inRange_iff.mp hrange
      simp only [fromCharsInt, List.cons_append, List.head?_cons, if_true, List.tail_cons,
        takeWhile_digits hdigits hrest, hne, if_false, hin, hend]

theorem fromCharsInt_leading (h : LeadingInt text n) (value : Int) :
    (fromCharsInt text value).1 = n := by
  obtain ⟨number, rest, rfl, hnumber, hrest⟩ := h
  rw [fromCharsInt_number hnumber hrest]

theorem IsInt.flag (h : IsInt text n) (value : Int) : (fromCharsInt text value).2 = true := by
  have hrest : ∀ byte ∈ ([] : ByteString).head?, ¬isDigit byte := nofun
  have hnumber := fromCharsInt_number h hrest value
  rw [List.append_nil] at hnumber
  rw [hnumber]
  rfl

theorem not_isInt (hflag : (fromCharsInt text 0).2 = false) (n : Int) : ¬IsInt text n := by
  intro h
  rw [h.flag] at hflag
  exact Bool.noConfusion hflag

theorem head_dropWhile_digits (text : ByteString) :
    ∀ byte ∈ (text.dropWhile isDigit).head?, ¬isDigit byte := by
  intro byte hbyte
  have hhead := List.head?_dropWhile_not isDigit text
  rw [hbyte] at hhead
  simpa using hhead

theorem leadingInt_unsigned (hne : text.takeWhile isDigit ≠ [])
    (hrange : InRange (ofDigits (text.takeWhile isDigit))) :
    LeadingInt text (ofDigits (text.takeWhile isDigit)) := by
  have hdigits : ∀ byte ∈ text.takeWhile isDigit, isDigit byte := fun _ => List.mem_takeWhile_imp
  exact ⟨_, text.dropWhile isDigit, List.takeWhile_append_dropWhile.symm,
    .Unsigned _ hne hdigits hrange, head_dropWhile_digits text⟩

theorem leadingInt_negative (hne : text.takeWhile isDigit ≠ [])
    (hrange : InRange (-(ofDigits (text.takeWhile isDigit) : Int))) :
    LeadingInt (45 :: text) (-(ofDigits (text.takeWhile isDigit) : Int)) := by
  have hdigits : ∀ byte ∈ text.takeWhile isDigit, isDigit byte := fun _ => List.mem_takeWhile_imp
  refine ⟨45 :: text.takeWhile isDigit, text.dropWhile isDigit, ?_,
    .Negative _ hne hdigits hrange, head_dropWhile_digits text⟩
  rw [List.cons_append, List.takeWhile_append_dropWhile]

-- Without a number at its start, the text changes nothing.
theorem fromCharsInt_no_leading (h : ∀ n, ¬LeadingInt text n) (value : Int) :
    (fromCharsInt text value).1 = value := by
  by_cases hminus : text.head? = some 45
  · obtain ⟨unsigned, rfl⟩ := List.head?_eq_some_iff.mp hminus
    simp only [fromCharsInt, List.head?_cons, if_true, List.tail_cons]
    split_ifs with hempty hout
    · rfl
    · rfl
    · exact absurd (leadingInt_negative hempty (inRange_iff.mpr hout)) (h _)
  · simp only [fromCharsInt, hminus, if_false]
    split_ifs with hempty hout
    · rfl
    · rfl
    · exact absurd (leadingInt_unsigned hempty (inRange_iff.mpr hout)) (h _)

theorem LeadingInt.unique {other : Int} (h : LeadingInt text n) (hother : LeadingInt text other) :
    n = other :=
  (fromCharsInt_leading h 0).symm.trans (fromCharsInt_leading hother 0)

theorem LeadingInt.inRange (h : LeadingInt text n) : InRange n := by
  obtain ⟨number, rest, rfl, hnumber, -⟩ := h
  cases hnumber with
  | Unsigned _ _ _ hrange => exact hrange
  | Negative _ _ _ hrange => exact hrange

end FromChars

end Foundation.Bytes
