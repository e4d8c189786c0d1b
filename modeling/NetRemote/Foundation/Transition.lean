import Mathlib.Data.List.Basic

namespace Foundation.Transition

variable {σ α β γ : Type}

-- A system is an executable partial step: `step s a` is `none` where the
-- environment cannot take `a` in `s`.
def run (step : σ → α → Option σ) (s : σ) : List α → Option σ
  | [] => some s
  | a :: rest => (step s a).bind fun next => run step next rest

-- Every action of the run is taken in a state where `ok` allows it.
def HoldsAlong (step : σ → α → Option σ) (ok : σ → α → Prop) (s : σ) : List α → Prop
  | [] => True
  | a :: rest => ok s a ∧ ∀ next, step s a = some next → HoldsAlong step ok next rest

instance HoldsAlong.decidable {step : σ → α → Option σ} {ok : σ → α → Prop}
    [∀ s a, Decidable (ok s a)] : ∀ s actions, Decidable (HoldsAlong step ok s actions)
  | _, [] => .isTrue trivial
  | s, a :: rest =>
      have : DecidablePred fun next => HoldsAlong step ok next rest :=
        fun next => HoldsAlong.decidable next rest
      inferInstanceAs (Decidable (ok s a ∧ ∀ next ∈ step s a, HoldsAlong step ok next rest))

theorem run_cons {step : σ → α → Option σ} {s t : σ} {a : α} {rest : List α}
    (h : run step s (a :: rest) = some t) :
    ∃ next, step s a = some next ∧ run step next rest = some t :=
  Option.bind_eq_some_iff.mp h

theorem run_append (step : σ → α → Option σ) (s : σ) (first rest : List α) :
    run step s (first ++ rest) = (run step s first).bind fun next => run step next rest := by
  induction first generalizing s with
  | nil => rfl
  | cons a first ih =>
      simp only [List.cons_append, run, Option.bind_assoc]
      exact congrArg _ (funext fun next => ih next)

-- The invariant may use the side condition that the run's steps satisfy.
theorem invariant_run {step : σ → α → Option σ} {ok : σ → α → Prop} {Inv : σ → Prop}
    (hstep : ∀ s a t, Inv s → ok s a → step s a = some t → Inv t)
    {s t : σ} {actions : List α} (hs : Inv s) (hok : HoldsAlong step ok s actions)
    (hrun : run step s actions = some t) : Inv t := by
  induction actions generalizing s with
  | nil =>
      obtain rfl : s = t := by simpa [run] using hrun
      exact hs
  | cons a rest ih =>
      obtain ⟨next, hnext, hrest⟩ := run_cons hrun
      exact ih (hstep s a next hs hok.1 hnext) (hok.2 next hnext) hrest

theorem holdsAlong_of_invariant {step : σ → α → Option σ} {ok : σ → α → Prop} {Inv : σ → Prop}
    (hinv : ∀ s a t, Inv s → step s a = some t → Inv t) (hok : ∀ s a, Inv s → ok s a)
    {s : σ} (hs : Inv s) (actions : List α) : HoldsAlong step ok s actions := by
  induction actions generalizing s with
  | nil => trivial
  | cons a rest ih => exact ⟨hok s a hs, fun next hnext => ih (hinv s a next hs hnext)⟩

theorem invariant_always {step : σ → α → Option σ} {Inv : σ → Prop}
    (hstep : ∀ s a t, Inv s → step s a = some t → Inv t) {s t : σ} {actions : List α}
    (hs : Inv s) (hrun : run step s actions = some t) : Inv t :=
  have htrue : HoldsAlong step (fun _ _ => True) s actions :=
    holdsAlong_of_invariant hstep (fun _ _ _ => trivial) hs actions
  invariant_run (fun s a t h _ => hstep s a t h) hs htrue hrun

-- The invariant may speak of the steps that were taken.
theorem invariant_history {step : σ → α → Option σ} {Inv : List α → σ → Prop}
    (hstep : ∀ past s a t, Inv past s → step s a = some t → Inv (past ++ [a]) t)
    {past : List α} {s t : σ} {actions : List α} (hs : Inv past s)
    (hrun : run step s actions = some t) : Inv (past ++ actions) t := by
  induction actions generalizing past s with
  | nil =>
      obtain rfl : s = t := by simpa [run] using hrun
      rwa [List.append_nil]
  | cons a rest ih =>
      obtain ⟨next, hnext, hrest⟩ := run_cons hrun
      have hnow := ih (hstep past s a next hs hnext) hrest
      rwa [List.append_assoc] at hnow

theorem violation_run {step : σ → α → Option σ} {Safe : σ → Prop}
    (hstays : ∀ s a t, ¬ Safe s → step s a = some t → ¬ Safe t)
    {s t : σ} {actions : List α} (hs : ¬ Safe s) (hrun : run step s actions = some t) :
    ¬ Safe t :=
  invariant_always hstays hs hrun

-- A condition is exact for a safety property when it keeps the property, when
-- breaking it once breaks the property, and when the property never recovers.
theorem safe_iff_holdsAlong {step : σ → α → Option σ} {ok : σ → α → Prop} {Inv Safe : σ → Prop}
    (hkeep : ∀ s a t, Inv s → ok s a → step s a = some t → Inv t)
    (hsafe : ∀ s, Inv s → Safe s)
    (hbreak : ∀ s a t, Inv s → ¬ ok s a → step s a = some t → ¬ Safe t)
    (hstays : ∀ s a t, ¬ Safe s → step s a = some t → ¬ Safe t)
    {s t : σ} {actions : List α} (hs : Inv s) (hrun : run step s actions = some t) :
    Safe t ↔ HoldsAlong step ok s actions := by
  constructor
  · intro ht
    induction actions generalizing s with
    | nil => trivial
    | cons a rest ih =>
        obtain ⟨next, hnext, hrest⟩ := run_cons hrun
        have hok : ok s a := by
          by_contra hno
          exact violation_run hstays (hbreak s a next hs hno hnext) hrest ht
        refine ⟨hok, fun other hother => ?_⟩
        obtain rfl : next = other := Option.some.inj (hnext.symm.trans hother)
        exact ih (hkeep s a next hs hok hnext) hrest
  · intro hok
    exact hsafe t (invariant_run hkeep hs hok hrun)

theorem holdsAlong_cons {step : σ → α → Option σ} {ok : σ → α → Prop} {s next : σ} {a : α}
    {rest : List α} (hnext : step s a = some next) :
    HoldsAlong step ok s (a :: rest) ↔ ok s a ∧ HoldsAlong step ok next rest := by
  constructor
  · exact fun h => ⟨h.1, h.2 next hnext⟩
  · rintro ⟨hok, hrest⟩
    refine ⟨hok, fun other hother => ?_⟩
    obtain rfl : next = other := Option.some.inj (hnext.symm.trans hother)
    exact hrest

-- Where each step says exactly what the property needs of it.
theorem safe_iff_of_step {step : σ → α → Option σ} {ok : σ → α → Prop} {Inv Safe : σ → Prop}
    (hinv : ∀ s a t, Inv s → step s a = some t → Inv t)
    (hstep : ∀ s a t, Inv s → step s a = some t → (Safe t ↔ Safe s ∧ ok s a))
    {s t : σ} {actions : List α} (hs : Inv s) (hrun : run step s actions = some t) :
    Safe t ↔ Safe s ∧ HoldsAlong step ok s actions := by
  induction actions generalizing s with
  | nil =>
      obtain rfl : s = t := by simpa [run] using hrun
      exact (and_iff_left trivial).symm
  | cons a rest ih =>
      obtain ⟨next, hnext, hrest⟩ := run_cons hrun
      rw [ih (hinv s a next hs hnext) hrest, hstep s a next hs hnext, holdsAlong_cons hnext,
        and_assoc]

-- What is seen of the steps of a run, one after the other.
def observed (step : σ → α → Option σ) (look : σ → α → Option β) (s : σ) : List α → List β
  | [] => []
  | a :: rest => (look s a).toList ++ (step s a).elim [] fun next => observed step look next rest

theorem observed_cons {step : σ → α → Option σ} {look : σ → α → Option β} {s next : σ} {a : α}
    {rest : List α} (hnext : step s a = some next) :
    observed step look s (a :: rest) = (look s a).toList ++ observed step look next rest := by
  rw [observed, hnext]
  rfl

theorem observed_filterMap {step : σ → α → Option σ} {look : σ → α → Option β}
    (select : β → Option γ) (s : σ) (actions : List α) :
    observed step (fun s a => (look s a).bind select) s actions =
      (observed step look s actions).filterMap select := by
  induction actions generalizing s with
  | nil => rfl
  | cons a rest ih =>
      have hhead : ((look s a).bind select).toList = (look s a).toList.filterMap select := by
        cases look s a with
        | none => rfl
        | some seen => cases hselect : select seen <;> simp [hselect]
      rw [observed, observed, List.filterMap_append, hhead]
      cases step s a with
      | none => rfl
      | some next => exact congrArg _ (ih next)

theorem observed_none (step : σ → α → Option σ) (s : σ) (actions : List α) :
    observed step (fun _ _ => (none : Option β)) s actions = [] := by
  induction actions generalizing s with
  | nil => rfl
  | cons a rest ih =>
      rw [observed]
      cases step s a with
      | none => rfl
      | some next => exact ih next

-- What a state owes is done at the end of a run, with what became due on the way, but
-- for what is owed then.
theorem observed_owed {step : σ → α → Option σ} {ok : σ → α → Prop} {due done : σ → α → Option β}
    {owed : σ → List β}
    (hstep : ∀ s a t, ok s a → step s a = some t →
      owed s ++ (due s a).toList = (done s a).toList ++ owed t)
    {s t : σ} {actions : List α} (hok : HoldsAlong step ok s actions)
    (hrun : run step s actions = some t) :
    owed s ++ observed step due s actions = observed step done s actions ++ owed t := by
  induction actions generalizing s with
  | nil =>
      obtain rfl : s = t := by simpa [run] using hrun
      exact List.append_nil _
  | cons a rest ih =>
      obtain ⟨next, hnext, hrest⟩ := run_cons hrun
      rw [observed_cons hnext, observed_cons hnext, ← List.append_assoc, hstep s a next hok.1 hnext,
        List.append_assoc, ih (hok.2 next hnext) hrest, List.append_assoc]

theorem holdsAlong_of_forall {step : σ → α → Option σ} {ok : α → Prop} {actions : List α}
    (h : ∀ a ∈ actions, ok a) (s : σ) : HoldsAlong step (fun _ a => ok a) s actions := by
  induction actions generalizing s with
  | nil => trivial
  | cons a rest ih =>
      exact ⟨h a List.mem_cons_self, fun next _ =>
        ih (fun other hother => h other (List.mem_cons_of_mem _ hother)) next⟩

end Foundation.Transition
