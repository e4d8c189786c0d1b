import NetRemote.Foundation.Bytes

namespace Foundation.Bytes

-- The first place of a text where a pattern stands.
def indexOf (pattern : ByteString) : ByteString → Option Nat
  | [] => if pattern = [] then some 0 else none
  | byte :: text =>
      if pattern.isPrefixOf (byte :: text) then some 0
      else (indexOf pattern text).map (· + 1)

-- `find` from a position on.
def find (text pattern : ByteString) (position : Nat) : Option Nat :=
  if text.length < position then none
  else (indexOf pattern (text.drop position)).map (position + ·)

-- `std::from_chars` into a 32-bit `int`, where only the error is looked at.
def fromCharsValue (text : ByteString) : Option Int :=
  let negative := text.head? = some 45
  let unsigned := if negative then text.tail else text
  let digits := unsigned.takeWhile isDigit
  let parsed : Int := if negative then -(ofDigits digits : Int) else ofDigits digits
  if digits = [] ∨ parsed < -2 ^ 31 ∨ 2 ^ 31 ≤ parsed then none else some parsed

section Search

variable {first : UInt8} {pattern text front before after : ByteString} {position : Nat}

theorem find_zero : find text pattern 0 = indexOf pattern text := by
  simp [find]

-- Nothing starts before the first byte that could start it.
theorem indexOf_append (h : first ∉ front) :
    indexOf (first :: pattern) (front ++ text) =
      (indexOf (first :: pattern) text).map (front.length + ·) := by
  induction front with
  | nil => simp
  | cons byte front ih =>
      rw [List.mem_cons, not_or] at h
      have hbyte : ¬ (first :: pattern).isPrefixOf (byte :: (front ++ text)) := by
        simp [List.isPrefixOf, h.1]
      rw [List.cons_append, indexOf, if_neg hbyte, ih h.2, Option.map_map, List.length_cons]
      congr 1
      funext index
      exact Nat.add_right_comm front.length index 1

theorem indexOf_of_prefix (h : pattern <+: text) : indexOf pattern text = some 0 := by
  cases text with
  | nil => rw [indexOf, if_pos (List.prefix_nil.mp h)]
  | cons byte text => rw [indexOf, if_pos (List.isPrefixOf_iff_prefix.mpr h)]

theorem indexOf_byte (h : first ∉ before) :
    indexOf [first] (before ++ first :: after) = some before.length := by
  have hfirst : [first] <+: first :: after := ⟨after, rfl⟩
  rw [indexOf_append h, indexOf_of_prefix hfirst]
  rfl

theorem exists_of_indexOf {index : Nat} (h : indexOf pattern text = some index) :
    ∃ before after, text = before ++ pattern ++ after ∧ before.length = index := by
  induction text generalizing index with
  | nil =>
      rw [indexOf, Option.ite_none_right_eq_some] at h
      obtain ⟨rfl, hindex⟩ := h
      exact ⟨[], [], rfl, Option.some.inj hindex⟩
  | cons byte text ih =>
      rw [indexOf] at h
      by_cases hhere : pattern.isPrefixOf (byte :: text)
      · rw [if_pos hhere] at h
        obtain ⟨after, hafter⟩ := List.isPrefixOf_iff_prefix.mp hhere
        exact ⟨[], after, hafter.symm, Option.some.inj h⟩
      · rw [if_neg hhere, Option.map_eq_some_iff] at h
        obtain ⟨earlier, hearlier, rfl⟩ := h
        obtain ⟨before, after, rfl, rfl⟩ := ih hearlier
        exact ⟨byte :: before, after, rfl, rfl⟩

-- What stands in a text is found, there or earlier.
theorem indexOf_of_occurs (before pattern after : ByteString) :
    ∃ index ≤ before.length, indexOf pattern (before ++ pattern ++ after) = some index := by
  induction before with
  | nil => exact ⟨0, le_rfl, indexOf_of_prefix ⟨after, rfl⟩⟩
  | cons byte before ih =>
      obtain ⟨index, hindex, hfound⟩ := ih
      rw [List.cons_append, List.cons_append, indexOf]
      by_cases hhere : pattern.isPrefixOf (byte :: (before ++ pattern ++ after))
      · rw [if_pos hhere]
        exact ⟨0, Nat.zero_le _, rfl⟩
      · rw [if_neg hhere, hfound]
        exact ⟨index + 1, Nat.succ_le_succ hindex, rfl⟩

theorem indexOf_byte_isSome_iff : (indexOf [first] text).isSome ↔ first ∈ text := by
  constructor
  · intro hsome
    obtain ⟨index, hindex⟩ := Option.isSome_iff_exists.mp hsome
    obtain ⟨before, after, rfl, -⟩ := exists_of_indexOf hindex
    simp
  · intro hmem
    obtain ⟨before, after, rfl⟩ := List.append_of_mem hmem
    have hfound := indexOf_of_occurs before [first] after
    rw [List.append_assoc, List.singleton_append] at hfound
    obtain ⟨index, -, hindex⟩ := hfound
    rw [hindex]
    rfl

theorem find_append (front text pattern : ByteString) (position : Nat) :
    find (front ++ text) pattern (front.length + position) =
      (find text pattern position).map (front.length + ·) := by
  unfold find
  by_cases h : text.length < position
  · rw [if_pos h, if_pos (by rw [List.length_append]; omega)]
    rfl
  · have hdrop : (front ++ text).drop (front.length + position) = text.drop position :=
      List.drop_length_add_append _
    rw [if_neg h, if_neg (by rw [List.length_append]; omega), hdrop, Option.map_map]
    congr 1
    funext index
    exact Nat.add_assoc front.length position index

theorem substr_append (front text : ByteString) (position count : Nat) :
    substr (front ++ text) (front.length + position) count = substr text position count := by
  unfold substr
  rw [List.drop_length_add_append]

end Search

end Foundation.Bytes
