import NetRemote.Foundation.Transition

namespace NetRemote.Wifi.AccessPointDiscoveryAgent

open Foundation.Transition

-- The two calls, which are also what they invoke on the operations.
inductive Operation where
  | Start
  | Stop
  deriving DecidableEq, Repr

-- What the exchange of a call puts in the place of its opposite.
def Operation.desired : Operation → Bool
  | .Start => true
  | .Stop => false

def Operation.expected (operation : Operation) : Bool := !operation.desired

variable {ι : Type}

-- `pending` are the callers whose exchange has succeeded and who have not invoked
-- their operation yet.
structure Agent (ι : Type) where
  started : Bool
  pending : List (ι × Operation)
  invoked : List Operation
  deriving DecidableEq, Repr

inductive Step (ι : Type) where
  | CompareExchangeWeak (caller : ι) (operation : Operation) (spurious : Bool)
  | Invoke (caller : ι) (throws : Bool)
  deriving DecidableEq, Repr

namespace Agent

def initial : Agent ι := ⟨false, [], []⟩

def isStarted (s : Agent ι) : Bool := s.started

variable [DecidableEq ι]

def operationOf (s : Agent ι) (caller : ι) : Option Operation :=
  (s.pending.find? fun entry => entry.1 = caller).map Prod.snd

-- A call whose exchange fails is over. Only `Start` throws, and the flag stays as
-- the exchange has left it.
def step (s : Agent ι) : Step ι → Option (Agent ι)
  | .CompareExchangeWeak caller operation spurious =>
      if (s.operationOf caller).isSome then none
      else if s.started = operation.expected ∧ spurious = false then
        some { s with
          started := operation.desired
          pending := s.pending ++ [(caller, operation)] }
      else some s
  | .Invoke caller throws =>
      match s.operationOf caller with
      | none => none
      | some operation =>
          if operation = .Stop ∧ throws = true then none
          else
            some { s with
              pending := s.pending.filter fun entry => entry.1 ≠ caller
              invoked := s.invoked ++ [operation] }

end Agent

-- The flag tells what was invoked last.
def Truthful (s : Agent ι) : Prop := s.isStarted = true ↔ s.invoked.getLast? = some .Start

instance : DecidablePred (Truthful : Agent ι → Prop) := fun s =>
  inferInstanceAs (Decidable (s.isStarted = true ↔ s.invoked.getLast? = some .Start))

-- The calls in the order in which their exchanges succeed. An exchange that does not
-- fail for no reason succeeds if it is of the other kind than the last that did, and the
-- agent is stopped at first.
def lastKind (calls : List (ι × Operation)) : Option Operation := calls.getLast?.map Prod.snd

def exchange (calls : List (ι × Operation)) : Step ι → List (ι × Operation)
  | .CompareExchangeWeak caller operation spurious =>
      if operation ≠ (lastKind calls).getD .Stop ∧ spurious = false then
        calls ++ [(caller, operation)]
      else calls
  | .Invoke _ _ => calls

def exchanges (steps : List (Step ι)) : List (ι × Operation) := steps.foldl exchange []

-- The callers in the order in which they invoke their operations.
def invoker : Step ι → Option ι
  | .CompareExchangeWeak _ _ _ => none
  | .Invoke caller _ => some caller

def invokers (steps : List (Step ι)) : List ι := steps.filterMap invoker

section Order

variable {past : List (Step ι)} {caller : ι} {operation : Operation}

@[simp] theorem lastKind_concat (calls : List (ι × Operation)) :
    lastKind (calls ++ [(caller, operation)]) = some operation := by
  simp [lastKind]

theorem exchanges_concat (past : List (Step ι)) (step : Step ι) :
    exchanges (past ++ [step]) = exchange (exchanges past) step := by
  simp [exchanges]

@[simp] theorem exchanges_invoke (throws : Bool) :
    exchanges (past ++ [.Invoke caller throws]) = exchanges past :=
  exchanges_concat past _

@[simp] theorem invokers_exchange (spurious : Bool) :
    invokers (past ++ [.CompareExchangeWeak caller operation spurious]) = invokers past := by
  simp [invokers, invoker]

@[simp] theorem invokers_invoke (throws : Bool) :
    invokers (past ++ [.Invoke caller throws]) = invokers past ++ [caller] := by
  simp [invokers, invoker]

theorem desired_inj {one two : Operation} : one.desired = two.desired ↔ one = two := by
  cases one <;> cases two <;> decide

theorem started_eq_expected_iff {flagged : Operation} :
    flagged.desired = operation.expected ↔ operation ≠ flagged := by
  cases operation <;> cases flagged <;> decide

theorem truthful_iff_of_last {s : Agent ι} (h : s.invoked.getLast? = some operation) :
    Truthful s ↔ operation.desired = s.started := by
  have hstart : operation = .Start ↔ operation.desired = true := by
    cases operation <;> decide
  rw [Truthful, h, Option.some.injEq, hstart, Agent.isStarted]
  cases s.started <;> cases operation.desired <;> simp

end Order

variable [DecidableEq ι]

def exchangeOf (steps : List (Step ι)) (caller : ι) : Option Operation :=
  lastKind ((exchanges steps).filter fun call => call.1 = caller)

-- The call that invokes its operation last is of the kind of the call whose exchange
-- succeeds last.
def InOrder (steps : List (Step ι)) : Prop :=
  ∀ caller ∈ (invokers steps).getLast?, exchangeOf steps caller = lastKind (exchanges steps)

instance : DecidablePred (InOrder : List (Step ι) → Prop) := fun steps =>
  inferInstanceAs (Decidable (∀ caller ∈ (invokers steps).getLast?,
    exchangeOf steps caller = lastKind (exchanges steps)))

section Run

variable {past : List (Step ι)} {s t : Agent ι} {caller other : ι} {operation : Operation}
  {spurious throws : Bool}

@[simp] theorem exchangeOf_invoke :
    exchangeOf (past ++ [.Invoke caller throws]) other = exchangeOf past other := by
  rw [exchangeOf, exchanges_invoke, exchangeOf]

-- An exchange succeeds and leaves its caller behind, or nothing happens.
theorem exchange_cases (h : s.step (.CompareExchangeWeak caller operation spurious) = some t) :
    (s.operationOf caller = none ∧ s.started = operation.expected ∧ spurious = false ∧
      t = { s with
        started := operation.desired
        pending := s.pending ++ [(caller, operation)] }) ∨
    (¬ (s.started = operation.expected ∧ spurious = false) ∧ t = s) := by
  simp only [Agent.step] at h
  split_ifs at h with hbusy hexchange
  · rw [Bool.not_eq_true, Option.isSome_eq_false_iff, Option.isNone_iff_eq_none] at hbusy
    exact .inl ⟨hbusy, hexchange.1, hexchange.2, (Option.some.inj h).symm⟩
  · exact .inr ⟨hexchange, (Option.some.inj h).symm⟩

-- An operation is invoked by a caller that has exchanged the flag for it.
theorem invoke_cases (h : s.step (.Invoke caller throws) = some t) :
    ∃ operation, s.operationOf caller = some operation ∧
      t = { s with
        pending := s.pending.filter fun entry => entry.1 ≠ caller
        invoked := s.invoked ++ [operation] } := by
  simp only [Agent.step] at h
  cases hoperation : s.operationOf caller with
  | none =>
      rw [hoperation] at h
      cases h
  | some operation =>
      rw [hoperation] at h
      dsimp only at h
      split_ifs at h
      exact ⟨operation, rfl, (Option.some.inj h).symm⟩

-- No other caller has got an operation to invoke.
theorem operationOf_exchange (hidle : s.operationOf caller = none) (other : ι) :
    Agent.operationOf { s with
        started := operation.desired
        pending := s.pending ++ [(caller, operation)] } other =
      if other = caller then some operation else s.operationOf other := by
  simp only [Agent.operationOf, List.find?_append]
  by_cases hsame : other = caller
  · subst hsame
    rw [if_pos rfl, Option.map_eq_none_iff.mp hidle]
    simp
  · rw [if_neg hsame, List.find?_cons_of_neg (by simpa using Ne.symm hsame), List.find?_nil,
      Option.or_none]

theorem operationOf_invoke (other : ι) :
    Agent.operationOf { s with
        pending := s.pending.filter fun entry => entry.1 ≠ caller
        invoked := s.invoked ++ [operation] } other =
      if other = caller then none else s.operationOf other := by
  simp only [Agent.operationOf, List.find?_filter]
  by_cases hsame : other = caller
  · subst hsame
    simp
  · rw [if_neg hsame]
    congr 2
    funext entry
    by_cases hentry : entry.1 = other
    · simp [hentry, hsame]
    · simp [hentry]

-- The state after some steps. The flag is what the last exchange has made it, a caller
-- invokes the operation that it has exchanged the flag for, and the caller that was the
-- last to invoke one has not exchanged the flag since unless it has another to invoke.
structure Follows (past : List (Step ι)) (s : Agent ι) : Prop where
  started : s.started = ((lastKind (exchanges past)).getD .Stop).desired
  pending : ∀ caller operation, s.operationOf caller = some operation →
    exchangeOf past caller = some operation
  uninvoked : invokers past = [] → s.invoked = [] ∧ s.pending = exchanges past
  invoked : ∀ caller ∈ (invokers past).getLast?, s.operationOf caller = none →
    ∃ operation, s.invoked.getLast? = some operation ∧ exchangeOf past caller = some operation

theorem follows_exchange (hs : Follows past s)
    (h : s.step (.CompareExchangeWeak caller operation spurious) = some t) :
    Follows (past ++ [.CompareExchangeWeak caller operation spurious]) t := by
  have hguard : s.started = operation.expected ∧ spurious = false ↔
      operation ≠ (lastKind (exchanges past)).getD .Stop ∧ spurious = false := by
    rw [hs.started, started_eq_expected_iff]
  rcases exchange_cases h with ⟨hidle, hexpected, hsucceeds, rfl⟩ | ⟨hfails, rfl⟩
  · have hexchanges : exchanges (past ++ [.CompareExchangeWeak caller operation spurious]) =
        exchanges past ++ [(caller, operation)] := by
      rw [exchanges_concat, exchange, if_pos (hguard.mp ⟨hexpected, hsucceeds⟩)]
    have hexchangeOf (other : ι) :
        exchangeOf (past ++ [.CompareExchangeWeak caller operation spurious]) other =
          if other = caller then some operation else exchangeOf past other := by
      rw [exchangeOf, hexchanges, List.filter_append]
      by_cases hsame : other = caller
      · simp [hsame]
      · simp [hsame, Ne.symm hsame, exchangeOf]
    constructor
    · rw [hexchanges, lastKind_concat]
      rfl
    · intro other found hfound
      rw [operationOf_exchange hidle] at hfound
      rw [hexchangeOf]
      split_ifs at hfound ⊢ with hsame
      · exact hfound
      · exact hs.pending other found hfound
    · intro hnone
      obtain ⟨hinvoked, hpending⟩ := hs.uninvoked (by simpa using hnone)
      exact ⟨hinvoked, by rw [hexchanges, hpending]⟩
    · intro last hlast hdone
      rw [invokers_exchange] at hlast
      rw [operationOf_exchange hidle] at hdone
      split_ifs at hdone with hsame
      rw [hexchangeOf, if_neg hsame]
      exact hs.invoked last hlast hdone
  · have hexchanges : exchanges (past ++ [.CompareExchangeWeak caller operation spurious]) =
        exchanges past := by
      rw [exchanges_concat, exchange, if_neg (hguard.not.mp hfails)]
    have hexchangeOf (other : ι) :
        exchangeOf (past ++ [.CompareExchangeWeak caller operation spurious]) other =
          exchangeOf past other := by
      rw [exchangeOf, hexchanges, exchangeOf]
    constructor
    · rw [hexchanges]
      exact hs.started
    · intro other found hfound
      rw [hexchangeOf]
      exact hs.pending other found hfound
    · intro hnone
      rw [hexchanges]
      exact hs.uninvoked (by simpa using hnone)
    · intro last hlast hdone
      rw [invokers_exchange] at hlast
      rw [hexchangeOf]
      exact hs.invoked last hlast hdone

theorem follows_invoke (hs : Follows past s) (h : s.step (.Invoke caller throws) = some t) :
    Follows (past ++ [.Invoke caller throws]) t := by
  obtain ⟨operation, hoperation, rfl⟩ := invoke_cases h
  constructor
  · rw [exchanges_invoke]
    exact hs.started
  · intro other found hfound
    rw [operationOf_invoke] at hfound
    split_ifs at hfound with hsame
    rw [exchangeOf_invoke]
    exact hs.pending other found hfound
  · intro hnone
    simp at hnone
  · intro last hlast _
    obtain rfl : caller = last := by simpa using hlast
    rw [exchangeOf_invoke]
    exact ⟨operation, List.getLast?_concat, hs.pending _ _ hoperation⟩

theorem follows_run {steps : List (Step ι)} (h : run Agent.step .initial steps = some t) :
    Follows steps t := by
  have hinitial : Follows ([] : List (Step ι)) .initial :=
    ⟨rfl, fun _ _ hfound => (Option.some_ne_none _ hfound.symm).elim, fun _ => ⟨rfl, rfl⟩,
      fun _ hlast => (Option.some_ne_none _ (Option.mem_def.mp hlast).symm).elim⟩
  have hkept : ∀ (past : List (Step ι)) (s : Agent ι) (step : Step ι) (t : Agent ι),
      Follows past s → s.step step = some t → Follows (past ++ [step]) t := by
    intro past s step t hs hstep
    cases step with
    | CompareExchangeWeak caller operation spurious => exact follows_exchange hs hstep
    | Invoke caller throws => exact follows_invoke hs hstep
  exact invariant_history hkept hinitial h

theorem truthful_iff_inOrder {steps : List (Step ι)} (h : Follows steps s)
    (hsettled : s.pending = []) : Truthful s ↔ InOrder steps := by
  cases hlast : (invokers steps).getLast? with
  | none =>
      obtain ⟨hinvoked, hpending⟩ := h.uninvoked (List.getLast?_eq_none_iff.mp hlast)
      have hstarted : s.started = false := by
        rw [h.started, ← hpending, hsettled]
        rfl
      refine iff_of_true ?_ ?_
      · simp [Truthful, Agent.isStarted, hstarted, hinvoked]
      · simp [InOrder, hlast]
  | some caller =>
      have hdone : s.operationOf caller = none := by simp [Agent.operationOf, hsettled]
      obtain ⟨operation, hinvoked, hexchange⟩ := h.invoked caller hlast hdone
      have hinOrder : InOrder steps ↔ some operation = lastKind (exchanges steps) := by
        simp [InOrder, hlast, hexchange]
      rw [truthful_iff_of_last hinvoked, h.started, hinOrder]
      cases hkind : lastKind (exchanges steps) with
      | none =>
          have hempty : exchanges steps = [] := by simpa [lastKind] using hkind
          simp [exchangeOf, hempty, lastKind] at hexchange
      | some last => rw [Option.getD_some, desired_inj, Option.some.injEq]

-- All that a call does if nothing comes in between.
def alone (caller : ι) (operation : Operation) (spurious throws : Bool) : List (Step ι) :=
  .CompareExchangeWeak caller operation spurious ::
    if spurious then [] else [.Invoke caller throws]

theorem started_alone_iff {caller : ι} {operation : Operation} {spurious throws : Bool}
    (hexpected : s.started = operation.expected)
    (hrun : run Agent.step s (alone caller operation spurious throws) = some t) :
    t.started = operation.desired ↔ spurious = false := by
  obtain ⟨next, hexchange, hrest⟩ := run_cons hrun
  rcases exchange_cases hexchange with ⟨-, -, rfl, rfl⟩ | ⟨hfails, rfl⟩
  · obtain ⟨last, hinvoke, hlast⟩ := run_cons hrest
    obtain ⟨_, -, rfl⟩ := invoke_cases hinvoke
    obtain rfl := Option.some.inj hlast
    exact iff_of_true rfl rfl
  · have hspurious : spurious = true := by
      by_contra hsucceeds
      exact hfails ⟨hexpected, Bool.eq_false_iff.mpr hsucceeds⟩
    subst hspurious
    obtain rfl := Option.some.inj hrest
    rw [hexpected, Operation.expected]
    simp

end Run

theorem started_truthful :
    (∀ (steps : List (Step ι)) (t : Agent ι), run Agent.step .initial steps = some t →
      t.pending = [] → (Truthful t ↔ InOrder steps)) ∧
    ∀ (s t : Agent ι) (caller : ι) (operation : Operation) (spurious : Bool),
      s.started = operation.expected →
      run Agent.step s (alone caller operation spurious false) = some t →
      (t.isStarted = operation.desired ↔ spurious = false) := by
  constructor
  · intro steps t hrun hsettled
    exact truthful_iff_inOrder (follows_run hrun) hsettled
  · intro s t caller operation spurious hexpected hrun
    exact started_alone_iff hexpected hrun

-- One caller starts the agent and stops it.
def toggle : List (Step Nat) :=
  [.CompareExchangeWeak 0 .Start false, .Invoke 0 false, .CompareExchangeWeak 0 .Stop false,
    .Invoke 0 false]

theorem started_truthful_toggle :
    ∃ t, run Agent.step .initial toggle = some t ∧ Truthful t :=
  ⟨_, rfl, (started_truthful.1 toggle _ rfl rfl).mpr (by decide)⟩

-- A caller that starts the agent is overtaken by one that stops it.
def overtaken : List (Step Nat) :=
  [.CompareExchangeWeak 0 .Start false, .CompareExchangeWeak 1 .Stop false, .Invoke 1 false,
    .Invoke 0 false]

-- The agent runs while the flag says that it does not, and a lone start whose
-- exchange fails for no reason leaves it stopped.
theorem started_lies_overtaken :
    (∃ t, run Agent.step .initial overtaken = some t ∧ t.pending = [] ∧ t.isStarted = false ∧
      t.invoked.getLast? = some .Start ∧ ¬ Truthful t) ∧
    ∃ t, run Agent.step .initial (alone 0 .Start true false) = some t ∧ t.isStarted = false :=
  ⟨⟨_, rfl, rfl, rfl, rfl, by decide⟩, ⟨_, rfl, rfl⟩⟩

end NetRemote.Wifi.AccessPointDiscoveryAgent
