import Mathlib.Data.List.Basic

namespace Foundation.BitSet

-- A 32-bit number as a set of bits, of which another number may have all.
def Within (value bound : UInt32) : Prop := value ||| bound = bound

def union (values : List UInt32) : UInt32 := values.foldl (· ||| ·) 0

theorem within_or_iff {value other bound : UInt32} :
    Within (value ||| other) bound ↔ Within value bound ∧ Within other bound := by
  unfold Within
  constructor
  · intro h
    constructor
    · calc value ||| bound = value ||| ((value ||| other) ||| bound) := by rw [h]
        _ = (value ||| other) ||| bound := by
            rw [← UInt32.or_assoc, ← UInt32.or_assoc, UInt32.or_self]
        _ = bound := h
    · calc other ||| bound = other ||| ((value ||| other) ||| bound) := by rw [h]
        _ = (value ||| other) ||| bound := by
            rw [UInt32.or_comm value, ← UInt32.or_assoc, ← UInt32.or_assoc, UInt32.or_self]
        _ = bound := h
  · rintro ⟨hvalue, hother⟩
    rw [UInt32.or_assoc, hother, hvalue]

theorem within_antisymm {value other : UInt32} (h : Within value other) (h' : Within other value) :
    value = other := by
  unfold Within at h h'
  rw [← h', UInt32.or_comm, h]

theorem within_zero_iff {value : UInt32} : Within value 0 ↔ value = 0 := by
  simp [Within]

theorem within_foldl_iff {values : List UInt32} {start bound : UInt32} :
    Within (values.foldl (· ||| ·) start) bound ↔
      Within start bound ∧ ∀ value ∈ values, Within value bound := by
  induction values generalizing start with
  | nil => simp
  | cons value values ih =>
      rw [List.foldl_cons, ih, within_or_iff, List.forall_mem_cons, and_assoc]

-- The union is the least bound of the values, from which all that is said of it follows.
theorem within_union_iff {values : List UInt32} {bound : UInt32} :
    Within (union values) bound ↔ ∀ value ∈ values, Within value bound := by
  unfold union
  rw [within_foldl_iff]
  simp [Within]

theorem union_eq_zero_iff {values : List UInt32} :
    union values = 0 ↔ ∀ value ∈ values, value = 0 := by
  rw [← within_zero_iff, within_union_iff]
  simp only [within_zero_iff]

theorem union_congr {values others : List UInt32}
    (h : ∀ value, value ∈ values ↔ value ∈ others) : union values = union others := by
  apply within_antisymm
  · rw [within_union_iff]
    exact fun value hmem => within_union_iff.mp (UInt32.or_self) value ((h value).mp hmem)
  · rw [within_union_iff]
    exact fun value hmem => within_union_iff.mp (UInt32.or_self) value ((h value).mpr hmem)

-- Bit by bit, each side says that the mask has what the value has.
theorem and_not_eq_zero_iff {value mask : UInt32} :
    value &&& ~~~mask = 0 ↔ Within value mask := by
  unfold Within
  rw [← UInt32.toBitVec_inj, ← UInt32.toBitVec_inj, BitVec.eq_of_getElem_eq_iff,
    BitVec.eq_of_getElem_eq_iff]
  refine forall_congr' fun i => forall_congr' fun hi => ?_
  simp only [UInt32.toBitVec_and, UInt32.toBitVec_not, UInt32.toBitVec_or, BitVec.getElem_and,
    BitVec.getElem_not, BitVec.getElem_or, UInt32.toBitVec_ofNat, BitVec.getElem_zero]
  cases value.toBitVec[i] <;> cases mask.toBitVec[i] <;> simp

theorem and_eq_iff {value mask : UInt32} : value &&& mask = value ↔ Within value mask := by
  unfold Within
  rw [← UInt32.toBitVec_inj, ← UInt32.toBitVec_inj, BitVec.eq_of_getElem_eq_iff,
    BitVec.eq_of_getElem_eq_iff]
  refine forall_congr' fun i => forall_congr' fun hi => ?_
  simp only [UInt32.toBitVec_and, UInt32.toBitVec_or, BitVec.getElem_and, BitVec.getElem_or]
  cases value.toBitVec[i] <;> cases mask.toBitVec[i] <;> simp

end Foundation.BitSet
