import Mathlib.Data.List.Basic

namespace Foundation

variable {ι α β : Type}

section Selected

-- Of the steps only some matter, and of these only a part.
def selected (select : α → Option β) (merged : List (ι × α)) : List (ι × β) :=
  merged.filterMap fun entry => (select entry.2).map fun step => (entry.1, step)

theorem selected_append (select : α → Option β) (merged later : List (ι × α)) :
    selected select (merged ++ later) = selected select merged ++ selected select later :=
  List.filterMap_append

theorem selected_map (select : α → Option β) (who : ι) (steps : List α) :
    selected select (steps.map fun step => (who, step)) =
      (steps.filterMap select).map fun step => (who, step) := by
  simp [selected, List.filterMap_map, List.map_filterMap]

end Selected

variable [DecidableEq ι]

-- What one of the parties has done.
def ownSteps (who : ι) (merged : List (ι × α)) : List α :=
  (merged.filter fun entry => entry.1 = who).map Prod.snd

-- The steps of several parties, one at a time and those of each in its order.
def Interleaving (steps : ι → List α) (merged : List (ι × α)) : Prop :=
  ∀ who, ownSteps who merged = steps who

theorem ownSteps_append (who : ι) (merged later : List (ι × α)) :
    ownSteps who (merged ++ later) = ownSteps who merged ++ ownSteps who later := by
  simp [ownSteps]

theorem ownSteps_cons_self (who : ι) (step : α) (later : List (ι × α)) :
    ownSteps who ((who, step) :: later) = step :: ownSteps who later := by
  simp [ownSteps]

theorem ownSteps_cons_ne {who other : ι} (h : other ≠ who) (step : α) (later : List (ι × α)) :
    ownSteps who ((other, step) :: later) = ownSteps who later := by
  simp [ownSteps, h]

theorem mem_ownSteps {who : ι} {step : α} {merged : List (ι × α)} :
    step ∈ ownSteps who merged ↔ (who, step) ∈ merged := by
  simp [ownSteps]

theorem ownSteps_map_self (who : ι) (steps : List α) :
    ownSteps who (steps.map fun step => (who, step)) = steps := by
  induction steps with
  | nil => rfl
  | cons step steps ih => rw [List.map_cons, ownSteps_cons_self, ih]

theorem ownSteps_map_ne {who other : ι} (h : other ≠ who) (steps : List α) :
    ownSteps who (steps.map fun step => (other, step)) = [] := by
  induction steps with
  | nil => rfl
  | cons step steps ih => rw [List.map_cons, ownSteps_cons_ne h, ih]

-- Where only one party has acted, its steps are all there are.
theorem ownSteps_of_forall {who : ι} {merged : List (ι × α)} (h : ∀ entry ∈ merged, entry.1 = who) :
    ownSteps who merged = merged.map Prod.snd := by
  have hall : (merged.filter fun entry => entry.1 = who) = merged :=
    List.filter_eq_self.mpr fun entry hentry => decide_eq_true (h entry hentry)
  rw [ownSteps, hall]

theorem ownSteps_selected (select : α → Option β) (who : ι) (merged : List (ι × α)) :
    ownSteps who (selected select merged) = (ownSteps who merged).filterMap select := by
  induction merged with
  | nil => rfl
  | cons entry merged ih =>
      obtain ⟨other, step⟩ := entry
      have hhead : selected select ((other, step) :: merged) =
          ((select step).map fun step => (other, step)).toList ++ selected select merged := by
        cases hstep : select step <;> simp [selected, hstep]
      rw [hhead, ownSteps_append, ih]
      by_cases h : other = who
      · rw [h, ownSteps_cons_self]
        cases hstep : select step with
        | none => simp [hstep, ownSteps]
        | some kept => simp [hstep, ownSteps]
      · rw [ownSteps_cons_ne h]
        cases select step with
        | none => rfl
        | some kept => simp [ownSteps, h]

theorem interleaving_selected {steps : ι → List α} {merged : List (ι × α)}
    (h : Interleaving steps merged) (select : α → Option β) :
    Interleaving (fun who => (steps who).filterMap select) (selected select merged) := by
  intro who
  rw [ownSteps_selected, h who]

-- One party does all its steps between two steps of the other.
def between (steps : Bool → List α) (count : Nat) : List (Bool × α) :=
  ((steps true).take count).map (fun step => (true, step)) ++
    ((steps false).map (fun step => (false, step)) ++
      ((steps true).drop count).map fun step => (true, step))

theorem interleaving_between (steps : Bool → List α) (count : Nat) :
    Interleaving steps (between steps count) := by
  intro who
  rw [between, ownSteps_append, ownSteps_append]
  cases who with
  | true =>
      rw [ownSteps_map_self, ownSteps_map_ne Bool.false_ne_true, ownSteps_map_self,
        List.nil_append, List.take_append_drop]
  | false =>
      rw [ownSteps_map_ne Bool.false_ne_true.symm, ownSteps_map_self,
        ownSteps_map_ne Bool.false_ne_true.symm, List.nil_append, List.append_nil]

-- The last of a list that has a property.
theorem exists_last {p : α → Prop} {items : List α} (h : ∃ item ∈ items, p item) :
    ∃ before item after, items = before ++ item :: after ∧ p item ∧ ∀ other ∈ after, ¬ p other := by
  induction items with
  | nil =>
      obtain ⟨item, hitem, _⟩ := h
      cases hitem
  | cons first items ih =>
      by_cases hlater : ∃ item ∈ items, p item
      · obtain ⟨before, item, after, hitems, hitem, hafter⟩ := ih hlater
        exact ⟨first :: before, item, after, by rw [hitems, List.cons_append], hitem, hafter⟩
      · obtain ⟨item, hitem, hp⟩ := h
        rcases List.mem_cons.mp hitem with rfl | hitem
        · exact ⟨[], item, items, rfl, hp, fun other hother ho => hlater ⟨other, hother, ho⟩⟩
        · exact absurd ⟨item, hitem, hp⟩ hlater

end Foundation
