import Mathlib.Data.List.Basic

namespace Foundation

-- A field of an accumulator that only some of the steps assign holds what the
-- last of them wrote.
theorem foldl_last {α β γ : Type} (step : β → α → β) (field : β → γ) (writes : α → Bool)
    (written : α → γ) (steps : List α) (start : β)
    (hwrites : ∀ state, ∀ a ∈ steps, writes a → field (step state a) = written a)
    (hkeeps : ∀ state, ∀ a ∈ steps, writes a = false → field (step state a) = field state) :
    field (steps.foldl step start) =
      ((steps.reverse.find? writes).map written).getD (field start) := by
  induction steps generalizing start with
  | nil => rfl
  | cons a steps ih =>
      have ih' := ih (step start a) (fun state b hb => hwrites state b (List.mem_cons_of_mem _ hb))
        (fun state b hb => hkeeps state b (List.mem_cons_of_mem _ hb))
      rw [List.foldl_cons, ih', List.reverse_cons, List.find?_append]
      cases hlater : steps.reverse.find? writes with
      | some b => rfl
      | none =>
          by_cases ha : writes a = true
          · simp [ha, hwrites start a List.mem_cons_self ha]
          · simp only [Bool.not_eq_true] at ha
            simp [ha, hkeeps start a List.mem_cons_self ha]

theorem foldl_unwritten {α β γ : Type} (step : β → α → β) (field : β → γ) (steps : List α)
    (start : β) (hkeeps : ∀ state, ∀ a ∈ steps, field (step state a) = field state) :
    field (steps.foldl step start) = field start := by
  have hlast := foldl_last step field (fun _ => false) (fun _ => field start) steps start nofun
    fun state a ha _ => hkeeps state a ha
  have hnone : (steps.reverse.find? fun _ => false) = none := List.find?_eq_none.mpr (by simp)
  rwa [hnone] at hlast

-- The last of a list that has a property is looked for from its end.
theorem find?_reverse_cons {α : Type} (matching : α → Bool) (a : α) (rest : List α) :
    (a :: rest).reverse.find? matching =
      (rest.reverse.find? matching).or (if matching a then some a else none) := by
  rw [List.reverse_cons, List.find?_append]
  by_cases hmatching : matching a = true
  · rw [if_pos hmatching, List.find?_cons_of_pos hmatching]
  · rw [if_neg hmatching, List.find?_cons_of_neg hmatching, List.find?_nil]

-- When all the steps that assign a field assign the same value and one of them
-- is taken, the field holds that value.
theorem foldl_constant {α β γ : Type} (step : β → α → β) (field : β → γ) (writes : α → Bool)
    (value : γ) (steps : List α) (start : β)
    (hwrites : ∀ state, ∀ a ∈ steps, writes a → field (step state a) = value)
    (hkeeps : ∀ state, ∀ a ∈ steps, writes a = false → field (step state a) = field state)
    (hsome : ∃ a ∈ steps, writes a) : field (steps.foldl step start) = value := by
  have hlast := foldl_last step field writes (fun _ => value) steps start hwrites hkeeps
  obtain ⟨a, ha, hw⟩ := hsome
  have hfound : (steps.reverse.find? writes).isSome :=
    List.find?_isSome.mpr ⟨a, List.mem_reverse.mpr ha, hw⟩
  obtain ⟨b, hb⟩ := Option.isSome_iff_exists.mp hfound
  rw [hlast, hb]
  rfl

section Except

variable {α β ε : Type}

-- A fold that can fail is a plain fold as long as every step succeeds.
theorem foldlM_ok (step : β → α → Except ε β) (next : β → α → β) (P : β → Prop)
    (steps : List α) (start : β)
    (hstep : ∀ state, P state → ∀ a ∈ steps,
      step state a = .ok (next state a) ∧ P (next state a))
    (hstart : P start) :
    steps.foldlM step start = .ok (steps.foldl next start) ∧ P (steps.foldl next start) := by
  induction steps generalizing start with
  | nil => exact ⟨rfl, hstart⟩
  | cons a steps ih =>
      obtain ⟨hok, hP⟩ := hstep start hstart a List.mem_cons_self
      rw [List.foldlM_cons, hok, List.foldl_cons]
      exact ih (next start a)
        (fun state hstate b hb => hstep state hstate b (List.mem_cons_of_mem _ hb)) hP

theorem foldlM_error (step : β → α → Except ε β) (steps : List α) (start : β)
    (hfails : ∃ a ∈ steps, ∀ state, ∃ e, step state a = .error e) :
    ∃ e, steps.foldlM step start = .error e := by
  induction steps generalizing start with
  | nil =>
      obtain ⟨a, ha, _⟩ := hfails
      cases ha
  | cons b steps ih =>
      rw [List.foldlM_cons]
      cases hb : step start b with
      | error e => exact ⟨e, rfl⟩
      | ok next =>
          apply ih next
          obtain ⟨a, ha, hfail⟩ := hfails
          rcases List.mem_cons.mp ha with rfl | ha
          · obtain ⟨e, he⟩ := hfail start
            rw [hb] at he
            cases he
          · exact ⟨a, ha, hfail⟩

-- A fold whose steps fail for some elements, whatever the state, succeeds exactly
-- when there are none of these.
theorem foldlM_ok_iff (step : β → α → Except ε β) (P : β → Prop) (good : α → Prop)
    (steps : List α) (start : β)
    (hgood : ∀ state, P state → ∀ a ∈ steps, good a → ∃ next, step state a = .ok next ∧ P next)
    (hbad : ∀ state, P state → ∀ a ∈ steps, ¬ good a → ∃ e, step state a = .error e)
    (hstart : P start) :
    (∃ final, steps.foldlM step start = .ok final) ↔ ∀ a ∈ steps, good a := by
  induction steps generalizing start with
  | nil => exact ⟨fun _ => nofun, fun _ => ⟨start, rfl⟩⟩
  | cons a steps ih =>
      rw [List.foldlM_cons, List.forall_mem_cons]
      by_cases ha : good a
      · obtain ⟨next, hok, hnext⟩ := hgood start hstart a List.mem_cons_self ha
        have hrest := ih next
          (fun state hstate b hb => hgood state hstate b (List.mem_cons_of_mem _ hb))
          (fun state hstate b hb => hbad state hstate b (List.mem_cons_of_mem _ hb)) hnext
        rw [hok, and_iff_right ha, ← hrest]
        rfl
      · obtain ⟨e, he⟩ := hbad start hstart a List.mem_cons_self ha
        rw [he]
        constructor
        · rintro ⟨final, hfinal⟩
          cases hfinal
        · rintro ⟨hgood, _⟩
          exact absurd hgood ha

theorem foldlM_error_of_step (step : β → α → Except ε β) (P : ε → Prop) (steps : List α) (start : β)
    (hstep : ∀ state a error, step state a = .error error → P error) {error : ε}
    (hfold : steps.foldlM step start = .error error) : P error := by
  induction steps generalizing start with
  | nil => cases hfold
  | cons a steps ih =>
      rw [List.foldlM_cons] at hfold
      cases ha : step start a with
      | error first =>
          rw [ha] at hfold
          cases hfold
          exact hstep start a error ha
      | ok next =>
          rw [ha] at hfold
          exact ih next hfold

theorem foldlM_cons_ok {step : β → α → Except ε β} {a : α} {steps : List α} {start final : β}
    (hfinal : (a :: steps).foldlM step start = .ok final) :
    ∃ next, step start a = .ok next ∧ steps.foldlM step next = .ok final := by
  rw [List.foldlM_cons] at hfinal
  cases ha : step start a with
  | error e =>
      rw [ha] at hfinal
      cases hfinal
  | ok next =>
      rw [ha] at hfinal
      exact ⟨next, rfl, hfinal⟩

-- What a fold that succeeds makes of a field depends on the field alone, if that holds of
-- each step.
theorem foldlM_field {γ : Type} (step : β → α → Except ε β) (field : β → γ) (effect : γ → α → γ)
    (steps : List α) (start final : β)
    (hstep : ∀ state a next, step state a = .ok next → field next = effect (field state) a)
    (hfinal : steps.foldlM step start = .ok final) :
    field final = steps.foldl effect (field start) := by
  induction steps generalizing start with
  | nil =>
      obtain rfl : start = final := by simpa [pure, Except.pure] using hfinal
      rfl
  | cons a steps ih =>
      obtain ⟨next, ha, hrest⟩ := foldlM_cons_ok hfinal
      rw [List.foldl_cons, ← hstep start a next ha]
      exact ih next hrest

-- A measure that only some of the steps raise, and by one, is bounded by their
-- number.
theorem foldlM_measure_le (step : β → α → Except ε β) (measure : β → Nat) (raises : α → Bool)
    (steps : List α) (start final : β)
    (hstep : ∀ state a next, step state a = .ok next →
      measure next ≤ measure state + if raises a then 1 else 0)
    (hfinal : steps.foldlM step start = .ok final) :
    measure final ≤ measure start + steps.countP raises := by
  induction steps generalizing start with
  | nil =>
      obtain rfl : start = final := by simpa [pure, Except.pure] using hfinal
      simp
  | cons a steps ih =>
      obtain ⟨next, ha, hrest⟩ := foldlM_cons_ok hfinal
      have hnext := hstep start a next ha
      have hmeasure := ih next hrest
      rw [List.countP_cons]
      omega

end Except

end Foundation
