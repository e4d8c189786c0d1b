import Mathlib.Data.List.Infix
import Mathlib.Logic.Function.Basic
import NetRemote.Foundation.Interleaving

namespace Foundation.Store

variable {ι κ ν σ : Type} [DecidableEq κ]

-- Writes one cell of a store, each cell in its own way: one keeps the last value,
-- another may collect them all.
def write (update : κ → σ → ν → σ) (store : κ → σ) (entry : κ × ν) : κ → σ :=
  Function.update store entry.1 (update entry.1 (store entry.1) entry.2)

def after (update : κ → σ → ν → σ) (store : κ → σ) (entries : List (κ × ν)) : κ → σ :=
  entries.foldl (write update) store

-- The values that are written to one cell.
def writtenTo (key : κ) (entries : List (κ × ν)) : List ν :=
  (entries.filter fun entry => entry.1 = key).map Prod.snd

section Written

variable {key : κ} {entries : List (κ × ν)}

theorem writtenTo_append (key : κ) (entries later : List (κ × ν)) :
    writtenTo key (entries ++ later) = writtenTo key entries ++ writtenTo key later := by
  simp [writtenTo]

theorem writtenTo_cons_self (entry : κ × ν) (entries : List (κ × ν)) :
    writtenTo entry.1 (entry :: entries) = entry.2 :: writtenTo entry.1 entries := by
  simp [writtenTo]

theorem writtenTo_cons_ne {entry : κ × ν} (h : entry.1 ≠ key) (entries : List (κ × ν)) :
    writtenTo key (entry :: entries) = writtenTo key entries := by
  simp [writtenTo, h]

theorem writtenTo_eq_nil (h : ∀ entry ∈ entries, entry.1 ≠ key) : writtenTo key entries = [] := by
  simp only [writtenTo, List.map_eq_nil_iff, List.filter_eq_nil_iff, decide_eq_true_eq]
  exact h

-- What becomes of a cell depends on what is written to it.
theorem after_apply (update : κ → σ → ν → σ) (store : κ → σ) (entries : List (κ × ν)) (key : κ) :
    after update store entries key = (writtenTo key entries).foldl (update key) (store key) := by
  induction entries generalizing store with
  | nil => rfl
  | cons entry entries ih =>
      refine (ih (write update store entry)).trans ?_
      by_cases hkey : entry.1 = key
      · subst hkey
        rw [writtenTo_cons_self, List.foldl_cons, write, Function.update_self]
      · rw [writtenTo_cons_ne hkey, write, Function.update_of_ne (Ne.symm hkey)]

-- Of several lists only one writes to the cell.
theorem writtenTo_flatMap {α : Type} {items : List α} {entriesOf : α → List (κ × ν)} {item : α}
    {before later : List α} (hitems : items = before ++ item :: later)
    (hothers : ∀ other ∈ before ++ later, ∀ entry ∈ entriesOf other, entry.1 ≠ key) :
    writtenTo key (items.flatMap entriesOf) = writtenTo key (entriesOf item) := by
  have hnone {others : List α} (h : ∀ other ∈ others, other ∈ before ++ later) :
      writtenTo key (others.flatMap entriesOf) = [] := by
    apply writtenTo_eq_nil
    intro entry hentry
    obtain ⟨other, hother, hmem⟩ := List.mem_flatMap.mp hentry
    exact hothers other (h other hother) entry hmem
  rw [hitems, List.flatMap_append, List.flatMap_cons, writtenTo_append, writtenTo_append,
    hnone fun other => List.mem_append_left later, hnone fun other => List.mem_append_right before,
    List.nil_append, List.append_nil]

end Written

section Filled

variable {key : κ} {entries : List (κ × ν)}

-- Another value in the place of the one that is written to a cell.
def fill (key : κ) (value : ν) (entry : κ × ν) : κ × ν :=
  if entry.1 = key then (entry.1, value) else entry

theorem fst_fill (key : κ) (value : ν) (entry : κ × ν) : (fill key value entry).1 = entry.1 := by
  unfold fill
  split_ifs <;> rfl

theorem fill_of_ne {entry : κ × ν} (h : entry.1 ≠ key) (value : ν) :
    fill key value entry = entry :=
  if_neg h

theorem fill_fill (key : κ) (first value : ν) (entry : κ × ν) :
    fill key value (fill key first entry) = fill key value entry := by
  by_cases h : entry.1 = key
  · simp [fill, h]
  · rw [fill_of_ne h]

theorem length_writtenTo_fill (key : κ) (value : ν) (entries : List (κ × ν)) :
    (writtenTo key (entries.map (fill key value))).length = (writtenTo key entries).length := by
  simp only [writtenTo, List.length_map, List.filter_map, Function.comp_def, fst_fill]

-- A cell that is written once at most is written some value.
theorem exists_fill [Nonempty ν] (h : (writtenTo key entries).length ≤ 1) :
    ∃ value, entries.map (fill key value) = entries := by
  by_cases hwritten : ∃ entry ∈ entries, entry.1 = key
  · obtain ⟨entry, hentry, hkey⟩ := hwritten
    have hmem {other : κ × ν} (hother : other ∈ entries) (hsame : other.1 = key) :
        other ∈ entries.filter fun entry => entry.1 = key :=
      List.mem_filter.mpr ⟨hother, decide_eq_true hsame⟩
    rw [writtenTo, List.length_map] at h
    obtain ⟨only, honly⟩ := List.length_eq_one_iff.mp
      (Nat.le_antisymm h (List.length_pos_of_mem (hmem hentry hkey)))
    rw [honly] at hmem
    refine ⟨entry.2, (List.map_congr_left fun other hother => ?_).trans (List.map_id _)⟩
    by_cases hsame : other.1 = key
    · have heq : other = entry :=
        (List.mem_singleton.mp (hmem hother hsame)).trans
          (List.mem_singleton.mp (hmem hentry hkey)).symm
      rw [heq]
      exact if_pos hkey
    · exact fill_of_ne hsame _
  · obtain ⟨value⟩ := ‹Nonempty ν›
    refine ⟨value, (List.map_congr_left fun other hother => ?_).trans (List.map_id _)⟩
    exact fill_of_ne (fun hsame => hwritten ⟨other, hother, hsame⟩) _

end Filled

section Interleaved

variable [DecidableEq ι] {key : κ} {who : ι} {merged : List (ι × (κ × ν))}

theorem writtenTo_ownSteps (h : ∀ entry ∈ merged, entry.1 ≠ who → entry.2.1 ≠ key) :
    writtenTo key (merged.map Prod.snd) = writtenTo key (ownSteps who merged) := by
  induction merged with
  | nil => rfl
  | cons entry merged ih =>
      rw [List.forall_mem_cons] at h
      rw [List.map_cons]
      by_cases howner : entry.1 = who
      · obtain ⟨owner, step⟩ := entry
        obtain rfl : owner = who := howner
        rw [ownSteps_cons_self]
        simp only [writtenTo] at ih ⊢
        by_cases hstep : step.1 = key
        · rw [List.filter_cons_of_pos (by simpa using hstep),
            List.filter_cons_of_pos (by simpa using hstep), List.map_cons, List.map_cons, ih h.2]
        · rw [List.filter_cons_of_neg (by simpa using hstep),
            List.filter_cons_of_neg (by simpa using hstep), ih h.2]
      · rw [writtenTo_cons_ne (h.1 howner), ownSteps_cons_ne howner, ih h.2]

-- A cell that only one party writes is left as if this party had been alone.
theorem after_interleaving {steps : ι → List (κ × ν)} (hmerged : Interleaving steps merged)
    (halone : ∀ other, other ≠ who → ∀ entry ∈ steps other, entry.1 ≠ key)
    (update : κ → σ → ν → σ) (store : κ → σ) :
    after update store (merged.map Prod.snd) key = after update store (steps who) key := by
  have hothers : ∀ entry ∈ merged, entry.1 ≠ who → entry.2.1 ≠ key := by
    intro entry hentry howner
    have hown : entry.2 ∈ steps entry.1 := by
      rw [← hmerged entry.1]
      exact mem_ownSteps.mpr hentry
    exact halone entry.1 howner entry.2 hown
  rw [after_apply, after_apply, writtenTo_ownSteps hothers, hmerged who]

end Interleaved

end Foundation.Store
