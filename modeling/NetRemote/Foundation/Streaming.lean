import NetRemote.Foundation.Transition

namespace Foundation.Streaming

-- What an RPC library calls on a reactor, and what a reactor calls back.
inductive Callback where
  | OnReadDone (isOk : Bool)
  | OnWriteDone (isOk : Bool)
  | OnCancel
  | OnDone
  deriving DecidableEq, Repr

inductive Operation (Message Answer : Type) where
  | StartRead
  | StartWrite (message : Message)
  | Finish (answer : Answer)
  deriving DecidableEq, Repr

inductive Event (Message Answer : Type) where
  | Called (operation : Operation Message Answer)
  | Delivered (callback : Callback)
  deriving DecidableEq, Repr

-- Every callback body is one step: it maps the reactor's state to the next one
-- and to the operations it calls, in order.
structure Reactor (ρ Message Answer : Type) where
  construct : ρ × List (Operation Message Answer)
  handle : ρ → Callback → ρ × List (Operation Message Answer)

structure Stream (ρ Message Answer : Type) where
  reactor : ρ
  history : List (Event Message Answer)

variable {ρ Message Answer : Type}

@[simp] def Event.isFinish : Event Message Answer → Bool
  | .Called (.Finish _) => true
  | _ => false

@[simp] def Event.startsRead : Event Message Answer → Bool
  | .Called .StartRead => true
  | _ => false

@[simp] def Event.startsWrite : Event Message Answer → Bool
  | .Called (.StartWrite _) => true
  | _ => false

@[simp] def Event.completesRead : Event Message Answer → Bool
  | .Delivered (.OnReadDone _) => true
  | _ => false

@[simp] def Event.completesWrite : Event Message Answer → Bool
  | .Delivered (.OnWriteDone _) => true
  | _ => false

@[simp] def Event.cancels : Event Message Answer → Bool
  | .Delivered .OnCancel => true
  | _ => false

@[simp] def Event.ends : Event Message Answer → Bool
  | .Delivered .OnDone => true
  | _ => false

def finishes (history : List (Event Message Answer)) : Nat := history.countP Event.isFinish

def readsStarted (history : List (Event Message Answer)) : Nat := history.countP Event.startsRead

def readsCompleted (history : List (Event Message Answer)) : Nat :=
  history.countP Event.completesRead

def writesStarted (history : List (Event Message Answer)) : Nat := history.countP Event.startsWrite

def writesCompleted (history : List (Event Message Answer)) : Nat :=
  history.countP Event.completesWrite

def cancellations (history : List (Event Message Answer)) : Nat := history.countP Event.cancels

-- The library completes only what is outstanding, cancels at most once, reports
-- the end once the stream is finished with nothing outstanding, and is silent after.
def mayDeliver (history : List (Event Message Answer)) (callback : Callback) : Bool :=
  !history.any Event.ends &&
    match callback with
    | .OnReadDone _ => decide (readsCompleted history < readsStarted history)
    | .OnWriteDone _ => decide (writesCompleted history < writesStarted history)
    | .OnCancel => decide (cancellations history = 0)
    | .OnDone => decide (0 < finishes history ∧ readsStarted history ≤ readsCompleted history ∧
        writesStarted history ≤ writesCompleted history)

def Reactor.start (reactor : Reactor ρ Message Answer) : Stream ρ Message Answer :=
  ⟨reactor.construct.1, reactor.construct.2.map Event.Called⟩

def Reactor.step (reactor : Reactor ρ Message Answer) (stream : Stream ρ Message Answer)
    (callback : Callback) : Option (Stream ρ Message Answer) :=
  if mayDeliver stream.history callback then
    let handled := reactor.handle stream.reactor callback
    some ⟨handled.1,
      stream.history ++ .Delivered callback :: handled.2.map Event.Called⟩
  else
    none

-- What the library demands of a reactor in return.
structure RespectsProtocol (history : List (Event Message Answer)) : Prop where
  finishesOnce : finishes history ≤ 1
  startsBeforeFinish : history.Pairwise fun earlier later =>
    earlier.isFinish → ¬ later.startsRead ∧ ¬ later.startsWrite
  oneRead : ∀ past, past <+: history → readsStarted past ≤ readsCompleted past + 1
  oneWrite : ∀ past, past <+: history → writesStarted past ≤ writesCompleted past + 1

-- The same demand on a single operation, at the moment it is called.
def Permitted (history : List (Event Message Answer)) : Operation Message Answer → Prop
  | .StartRead => finishes history = 0 ∧ readsStarted history ≤ readsCompleted history
  | .StartWrite _ => finishes history = 0 ∧ writesStarted history ≤ writesCompleted history
  | .Finish _ => finishes history = 0

-- `P` relates every answer to the history in which the reactor gave it.
def EveryFinish (P : List (Event Message Answer) → Answer → Prop)
    (history : List (Event Message Answer)) : Prop :=
  ∀ past answer rest, history = past ++ .Called (.Finish answer) :: rest → P past answer

-- `P` relates every operation to the history in which the reactor called it.
def EveryCall (P : List (Event Message Answer) → Operation Message Answer → Prop)
    (history : List (Event Message Answer)) : Prop :=
  ∀ past operation rest, history = past ++ .Called operation :: rest → P past operation

-- `P` relates every message to the history in which the reactor started to write it.
def EveryWrite (P : List (Event Message Answer) → Message → Prop)
    (history : List (Event Message Answer)) : Prop :=
  ∀ past message rest, history = past ++ .Called (.StartWrite message) :: rest → P past message

-- The operations that a callback body called, read off the events that follow it.
@[simp] def called : List (Event Message Answer) → List (Operation Message Answer)
  | .Called operation :: rest => operation :: called rest
  | _ => []

-- After `before` the library delivered `callback`, and its body called `operations`.
def Handled (history before : List (Event Message Answer)) (callback : Callback)
    (operations : List (Operation Message Answer)) : Prop :=
  ∃ after, history = before ++ .Delivered callback :: after ∧ called after = operations

section Counts

variable (event : Event Message Answer) (first rest : List (Event Message Answer))

@[simp] theorem finishes_nil : finishes ([] : List (Event Message Answer)) = 0 := rfl

@[simp] theorem finishes_cons :
    finishes (event :: rest) = finishes rest + if event.isFinish then 1 else 0 :=
  List.countP_cons

@[simp] theorem finishes_append :
    finishes (first ++ rest) = finishes first + finishes rest := List.countP_append

@[simp] theorem readsStarted_nil : readsStarted ([] : List (Event Message Answer)) = 0 := rfl

@[simp] theorem readsStarted_cons :
    readsStarted (event :: rest) = readsStarted rest + if event.startsRead then 1 else 0 :=
  List.countP_cons

@[simp] theorem readsStarted_append :
    readsStarted (first ++ rest) = readsStarted first + readsStarted rest := List.countP_append

@[simp] theorem readsCompleted_nil : readsCompleted ([] : List (Event Message Answer)) = 0 := rfl

@[simp] theorem readsCompleted_cons :
    readsCompleted (event :: rest) = readsCompleted rest + if event.completesRead then 1 else 0 :=
  List.countP_cons

@[simp] theorem readsCompleted_append :
    readsCompleted (first ++ rest) = readsCompleted first + readsCompleted rest :=
  List.countP_append

@[simp] theorem writesStarted_nil : writesStarted ([] : List (Event Message Answer)) = 0 := rfl

@[simp] theorem writesStarted_cons :
    writesStarted (event :: rest) = writesStarted rest + if event.startsWrite then 1 else 0 :=
  List.countP_cons

@[simp] theorem writesStarted_append :
    writesStarted (first ++ rest) = writesStarted first + writesStarted rest := List.countP_append

@[simp] theorem writesCompleted_nil : writesCompleted ([] : List (Event Message Answer)) = 0 := rfl

@[simp] theorem writesCompleted_cons :
    writesCompleted (event :: rest) =
      writesCompleted rest + if event.completesWrite then 1 else 0 :=
  List.countP_cons

@[simp] theorem writesCompleted_append :
    writesCompleted (first ++ rest) = writesCompleted first + writesCompleted rest :=
  List.countP_append

@[simp] theorem cancellations_nil : cancellations ([] : List (Event Message Answer)) = 0 := rfl

@[simp] theorem cancellations_cons :
    cancellations (event :: rest) = cancellations rest + if event.cancels then 1 else 0 :=
  List.countP_cons

@[simp] theorem cancellations_append :
    cancellations (first ++ rest) = cancellations first + cancellations rest := List.countP_append

end Counts

theorem respectsProtocol_nil : RespectsProtocol ([] : List (Event Message Answer)) where
  finishesOnce := Nat.zero_le 1
  startsBeforeFinish := List.Pairwise.nil
  oneRead past h := by simp [List.prefix_nil.mp h, readsStarted]
  oneWrite past h := by simp [List.prefix_nil.mp h, writesStarted]

theorem respectsProtocol_past {past history : List (Event Message Answer)}
    (hp : past <+: history) (h : RespectsProtocol history) : RespectsProtocol past where
  finishesOnce := Nat.le_trans hp.sublist.countP_le h.finishesOnce
  startsBeforeFinish := h.startsBeforeFinish.sublist hp.sublist
  oneRead earlier he := h.oneRead earlier (he.trans hp)
  oneWrite earlier he := h.oneWrite earlier (he.trans hp)

-- A prefix-closed bound only has to be checked on the newest prefix.
private theorem forall_prefix_concat {P : List (Event Message Answer) → Prop}
    {history : List (Event Message Answer)} {event : Event Message Answer} :
    (∀ past, past <+: history ++ [event] → P past) ↔
      (∀ past, past <+: history → P past) ∧ P (history ++ [event]) := by
  constructor
  · intro h
    exact ⟨fun past hp => h past (hp.trans (List.prefix_append _ _)), h _ (List.prefix_refl _)⟩
  · rintro ⟨hpast, hlast⟩ past hp
    rcases List.prefix_concat_iff.mp hp with rfl | hp
    · exact hlast
    · exact hpast past hp

theorem respectsProtocol_delivered {history : List (Event Message Answer)} {callback : Callback}
    (h : RespectsProtocol history) : RespectsProtocol (history ++ [.Delivered callback]) where
  finishesOnce := by simpa using h.finishesOnce
  startsBeforeFinish := by
    refine List.pairwise_append.mpr ⟨h.startsBeforeFinish, List.pairwise_singleton _ _, ?_⟩
    intro earlier _ later hl _
    obtain rfl := List.mem_singleton.mp hl
    simp
  oneRead := by
    have hlast := h.oneRead history (List.prefix_refl _)
    refine forall_prefix_concat.mpr ⟨h.oneRead, ?_⟩
    simp
    omega
  oneWrite := by
    have hlast := h.oneWrite history (List.prefix_refl _)
    refine forall_prefix_concat.mpr ⟨h.oneWrite, ?_⟩
    simp
    omega

private theorem finishes_eq_zero_iff {history : List (Event Message Answer)} :
    finishes history = 0 ↔ ∀ event ∈ history, ¬ event.isFinish := List.countP_eq_zero

private theorem readsStarted_bound_concat {history : List (Event Message Answer)}
    {operation : Operation Message Answer} (h : RespectsProtocol history)
    (hp : Permitted history operation) :
    readsStarted (history ++ [.Called operation]) ≤
      readsCompleted (history ++ [.Called operation]) + 1 := by
  have hlast := h.oneRead history (List.prefix_refl _)
  cases operation <;>
    simp [Permitted] at * <;> omega

private theorem writesStarted_bound_concat {history : List (Event Message Answer)}
    {operation : Operation Message Answer} (h : RespectsProtocol history)
    (hp : Permitted history operation) :
    writesStarted (history ++ [.Called operation]) ≤
      writesCompleted (history ++ [.Called operation]) + 1 := by
  have hlast := h.oneWrite history (List.prefix_refl _)
  cases operation <;>
    simp [Permitted] at * <;> omega

theorem respectsProtocol_called {history : List (Event Message Answer)}
    {operation : Operation Message Answer} (h : RespectsProtocol history)
    (hp : Permitted history operation) : RespectsProtocol (history ++ [.Called operation]) where
  finishesOnce := by
    have honce := h.finishesOnce
    cases operation <;> simp [Permitted] at * <;> omega
  startsBeforeFinish := by
    refine List.pairwise_append.mpr ⟨h.startsBeforeFinish, List.pairwise_singleton _ _, ?_⟩
    intro earlier he later hl hfinish
    obtain rfl := List.mem_singleton.mp hl
    cases operation with
    | Finish answer => simp
    | StartRead => exact absurd hfinish (finishes_eq_zero_iff.mp hp.1 earlier he)
    | StartWrite message => exact absurd hfinish (finishes_eq_zero_iff.mp hp.1 earlier he)
  oneRead := forall_prefix_concat.mpr ⟨h.oneRead, readsStarted_bound_concat h hp⟩
  oneWrite := forall_prefix_concat.mpr ⟨h.oneWrite, writesStarted_bound_concat h hp⟩

-- One operation out of turn is never repaired: its prefix stays in the history.
theorem permitted_of_respectsProtocol {history : List (Event Message Answer)}
    {operation : Operation Message Answer}
    (h : RespectsProtocol (history ++ [.Called operation])) : Permitted history operation := by
  have hread := h.oneRead _ (List.prefix_refl _)
  have hwrite := h.oneWrite _ (List.prefix_refl _)
  have honce := h.finishesOnce
  have hpair := (List.pairwise_append.mp h.startsBeforeFinish).2.2
  cases operation with
  | Finish answer =>
      simpa [Permitted] using honce
  | StartRead =>
      refine ⟨finishes_eq_zero_iff.mpr fun event he hf => ?_, ?_⟩
      · exact (hpair event he _ (List.mem_singleton_self _) hf).1 rfl
      · simpa using hread
  | StartWrite message =>
      refine ⟨finishes_eq_zero_iff.mpr fun event he hf => ?_, ?_⟩
      · exact (hpair event he _ (List.mem_singleton_self _) hf).2 rfl
      · simpa using hwrite

-- The histories that one callback body leaves behind when it calls one operation.
theorem respectsProtocol_step {history : List (Event Message Answer)} {callback : Callback}
    {operation : Operation Message Answer} (h : RespectsProtocol history)
    (hp : Permitted (history ++ [.Delivered callback]) operation) :
    RespectsProtocol (history ++ [.Delivered callback, .Called operation]) := by
  have hcalled := respectsProtocol_called (respectsProtocol_delivered h) hp
  rwa [List.append_assoc] at hcalled

theorem permitted_of_step {history : List (Event Message Answer)} {callback : Callback}
    {operation : Operation Message Answer}
    (h : RespectsProtocol (history ++ [.Delivered callback, .Called operation])) :
    Permitted (history ++ [.Delivered callback]) operation := by
  apply permitted_of_respectsProtocol
  rwa [List.append_assoc]

-- Every operation is out of turn once the stream is finished.
theorem not_respectsProtocol_step {history : List (Event Message Answer)}
    {callback : Callback} {operation : Operation Message Answer}
    (hfinished : 0 < finishes history) :
    ¬ RespectsProtocol (history ++ [.Delivered callback, .Called operation]) := by
  intro hprotocol
  have hpermitted := permitted_of_step hprotocol
  cases operation <;>
    simp only [Permitted, finishes_append, finishes_cons, finishes_nil] at hpermitted <;> omega

theorem everyCall_concat {P : List (Event Message Answer) → Operation Message Answer → Prop}
    {history : List (Event Message Answer)} {event : Event Message Answer} :
    EveryCall P (history ++ [event]) ↔
      EveryCall P history ∧ ∀ operation, event = .Called operation → P history operation := by
  constructor
  · intro h
    refine ⟨fun past operation rest hsplit =>
      h past operation (rest ++ [event]) (by simp [hsplit]), ?_⟩
    rintro operation rfl
    exact h history operation [] rfl
  · rintro ⟨hpast, hlast⟩ past operation rest hsplit
    rcases List.eq_nil_or_concat rest with rfl | ⟨rest, last, rfl⟩
    · obtain ⟨rfl, hevent⟩ := List.append_inj' hsplit rfl
      exact hlast operation (List.head_eq_of_cons_eq hevent)
    · have hconcat : history ++ [event] =
          (past ++ .Called operation :: rest) ++ [last] := by
        simpa using hsplit
      exact hpast past operation rest (List.append_inj' hconcat rfl).1

theorem everyFinish_iff_everyCall {P : List (Event Message Answer) → Answer → Prop}
    {history : List (Event Message Answer)} :
    EveryFinish P history ↔
      EveryCall (fun past operation => ∀ answer, operation = .Finish answer → P past answer)
        history := by
  constructor
  · rintro h past operation rest hsplit answer rfl
    exact h past answer rest hsplit
  · exact fun h past answer rest hsplit => h past _ rest hsplit answer rfl

theorem everyWrite_iff_everyCall {P : List (Event Message Answer) → Message → Prop}
    {history : List (Event Message Answer)} :
    EveryWrite P history ↔
      EveryCall (fun past operation => ∀ message, operation = .StartWrite message → P past message)
        history := by
  constructor
  · rintro h past operation rest hsplit message rfl
    exact h past message rest hsplit
  · exact fun h past message rest hsplit => h past _ rest hsplit message rfl

theorem everyFinish_nil (P : List (Event Message Answer) → Answer → Prop) : EveryFinish P [] := by
  intro past answer rest h
  simp at h

theorem everyWrite_nil (P : List (Event Message Answer) → Message → Prop) : EveryWrite P [] := by
  intro past message rest h
  simp at h

theorem everyFinish_concat {P : List (Event Message Answer) → Answer → Prop}
    {history : List (Event Message Answer)} {event : Event Message Answer} :
    EveryFinish P (history ++ [event]) ↔
      EveryFinish P history ∧ ∀ answer, event = .Called (.Finish answer) → P history answer := by
  simp only [everyFinish_iff_everyCall, everyCall_concat]
  exact and_congr_right fun _ =>
    ⟨fun h answer hevent => h _ hevent answer rfl,
      by rintro h _ hevent answer rfl; exact h answer hevent⟩

theorem everyWrite_concat {P : List (Event Message Answer) → Message → Prop}
    {history : List (Event Message Answer)} {event : Event Message Answer} :
    EveryWrite P (history ++ [event]) ↔ EveryWrite P history ∧
      ∀ message, event = .Called (.StartWrite message) → P history message := by
  simp only [everyWrite_iff_everyCall, everyCall_concat]
  exact and_congr_right fun _ =>
    ⟨fun h message hevent => h _ hevent message rfl,
      by rintro h _ hevent message rfl; exact h message hevent⟩

theorem everyFinish_delivered {P : List (Event Message Answer) → Answer → Prop}
    {history : List (Event Message Answer)} {callback : Callback} :
    EveryFinish P (history ++ [.Delivered callback]) ↔ EveryFinish P history := by
  simp [everyFinish_concat]

theorem everyFinish_past {P : List (Event Message Answer) → Answer → Prop}
    {past history : List (Event Message Answer)} (hp : past <+: history)
    (h : EveryFinish P history) : EveryFinish P past := by
  obtain ⟨later, rfl⟩ := hp
  intro earlier answer rest hsplit
  exact h earlier answer (rest ++ later) (by simp [hsplit])

theorem everyWrite_delivered {P : List (Event Message Answer) → Message → Prop}
    {history : List (Event Message Answer)} {callback : Callback} :
    EveryWrite P (history ++ [.Delivered callback]) ↔ EveryWrite P history := by
  simp [everyWrite_concat]

theorem everyWrite_step {P : List (Event Message Answer) → Message → Prop}
    {history : List (Event Message Answer)} (callback : Callback) (message : Message) :
    EveryWrite P (history ++ [.Delivered callback, .Called (.StartWrite message)]) ↔
      EveryWrite P history ∧ P (history ++ [.Delivered callback]) message := by
  rw [List.append_cons, everyWrite_concat, everyWrite_delivered]
  exact and_congr_right fun _ =>
    ⟨fun h => h message rfl, by rintro h _ hmessage; cases hmessage; exact h⟩

theorem everyWrite_unwritten {P : List (Event Message Answer) → Message → Prop}
    {history : List (Event Message Answer)} {operations : List (Operation Message Answer)}
    (h : ∀ message, .StartWrite message ∉ operations) :
    EveryWrite P (history ++ operations.map Event.Called) ↔ EveryWrite P history := by
  induction operations generalizing history with
  | nil => simp
  | cons operation rest ih =>
      rw [List.map_cons, List.append_cons,
        ih fun message hmem => h message (List.mem_cons_of_mem _ hmem), everyWrite_concat]
      refine and_iff_left ?_
      rintro message hevent
      exact absurd (Event.Called.inj hevent ▸ List.mem_cons_self) (h message)

-- A callback body that starts no write.
theorem everyWrite_step_unwritten {P : List (Event Message Answer) → Message → Prop}
    {history : List (Event Message Answer)} {callback : Callback}
    {operations : List (Operation Message Answer)}
    (h : ∀ message, .StartWrite message ∉ operations) :
    EveryWrite P (history ++ .Delivered callback :: operations.map Event.Called) ↔
      EveryWrite P history := by
  rw [List.append_cons, everyWrite_unwritten h, everyWrite_delivered]

theorem writesStarted_unwritten {operations : List (Operation Message Answer)}
    (h : ∀ message, .StartWrite message ∉ operations) :
    writesStarted (operations.map Event.Called) = 0 := by
  refine List.countP_eq_zero.mpr fun event hevent => ?_
  obtain ⟨operation, hcalled, rfl⟩ := List.mem_map.mp hevent
  cases operation with
  | StartRead => simp
  | Finish answer => simp
  | StartWrite message => exact absurd hcalled (h message)

@[simp] theorem writesCompleted_calls (operations : List (Operation Message Answer)) :
    writesCompleted (operations.map Event.Called) = 0 :=
  List.countP_eq_zero.mpr (by simp)

@[simp] theorem readsCompleted_calls (operations : List (Operation Message Answer)) :
    readsCompleted (operations.map Event.Called) = 0 :=
  List.countP_eq_zero.mpr (by simp)

@[simp] theorem cancellations_calls (operations : List (Operation Message Answer)) :
    cancellations (operations.map Event.Called) = 0 :=
  List.countP_eq_zero.mpr (by simp)

@[simp] theorem called_map (operations : List (Operation Message Answer)) :
    called (operations.map Event.Called) = operations := by
  induction operations with
  | nil => rfl
  | cons operation rest ih => simp [ih]

-- A body's operations end where the next callback is delivered.
@[simp] theorem called_append_delivered (events rest : List (Event Message Answer))
    (callback : Callback) : called (events ++ .Delivered callback :: rest) = called events := by
  induction events with
  | nil => rfl
  | cons event events ih => cases event <;> simp [ih]

private theorem map_called_ne_delivered {operations : List (Operation Message Answer)}
    {first rest : List (Event Message Answer)} {callback : Callback} :
    operations.map Event.Called ≠ first ++ .Delivered callback :: rest := by
  intro h
  have hmem : Event.Delivered callback ∈ operations.map Event.Called := by simp [h]
  simp at hmem

theorem not_handled_start {calls operations : List (Operation Message Answer)}
    {before : List (Event Message Answer)} {callback : Callback} :
    ¬ Handled (calls.map Event.Called) before callback operations :=
  fun ⟨_, hsplit, _⟩ => map_called_ne_delivered hsplit

theorem handled_step {history before : List (Event Message Answer)}
    {callback other : Callback} {calls operations : List (Operation Message Answer)} :
    Handled (history ++ .Delivered callback :: calls.map Event.Called) before other operations ↔
      Handled history before other operations ∨
        before = history ∧ other = callback ∧ operations = calls := by
  constructor
  · rintro ⟨after, hsplit, rfl⟩
    rcases List.append_eq_append_iff.mp hsplit with ⟨middle, rfl, hrest⟩ | ⟨middle, rfl, hrest⟩
    · cases middle with
      | nil =>
          obtain ⟨hcallback, rfl⟩ := List.cons.inj hrest
          exact .inr ⟨by simp, (Event.Delivered.inj hcallback).symm, by simp⟩
      | cons event middle =>
          exact absurd (List.cons.inj hrest).2 map_called_ne_delivered
    · cases middle with
      | nil =>
          obtain ⟨hcallback, rfl⟩ := List.cons.inj hrest
          exact .inr ⟨by simp, Event.Delivered.inj hcallback, by simp⟩
      | cons event middle =>
          obtain ⟨rfl, rfl⟩ := List.cons.inj hrest
          exact .inl ⟨middle, rfl, by simp⟩
  · rintro (⟨after, rfl, rfl⟩ | ⟨rfl, rfl, rfl⟩)
    · exact ⟨after ++ .Delivered callback :: calls.map Event.Called, by simp, by simp⟩
    · exact ⟨operations.map Event.Called, rfl, by simp⟩

theorem pendingRead_of_mayDeliver {history : List (Event Message Answer)} {isOk : Bool}
    (h : mayDeliver history (.OnReadDone isOk)) :
    readsCompleted history < readsStarted history := by
  simp only [mayDeliver, Bool.and_eq_true, decide_eq_true_eq] at h
  exact h.2

theorem pendingWrite_of_mayDeliver {history : List (Event Message Answer)} {isOk : Bool}
    (h : mayDeliver history (.OnWriteDone isOk)) :
    writesCompleted history < writesStarted history := by
  simp only [mayDeliver, Bool.and_eq_true, decide_eq_true_eq] at h
  exact h.2

theorem uncanceled_of_mayDeliver {history : List (Event Message Answer)}
    (h : mayDeliver history .OnCancel) : cancellations history = 0 := by
  simp only [mayDeliver, Bool.and_eq_true, decide_eq_true_eq] at h
  exact h.2

theorem step_reactor {reactor : Reactor ρ Message Answer} {stream next : Stream ρ Message Answer}
    {callback : Callback} (h : reactor.step stream callback = some next) :
    mayDeliver stream.history callback ∧
      next = ⟨(reactor.handle stream.reactor callback).1, stream.history ++ .Delivered callback ::
        (reactor.handle stream.reactor callback).2.map Event.Called⟩ := by
  unfold Reactor.step at h
  split at h
  · rename_i hd
    exact ⟨hd, (Option.some.inj h).symm⟩
  · cases h

theorem step_stays_broken (reactor : Reactor ρ Message Answer)
    (stream : Stream ρ Message Answer) (callback : Callback) (next : Stream ρ Message Answer)
    (hbroken : ¬ RespectsProtocol stream.history)
    (h : reactor.step stream callback = some next) : ¬ RespectsProtocol next.history := by
  obtain ⟨-, rfl⟩ := step_reactor h
  exact fun hnext => hbroken (respectsProtocol_past (List.prefix_append _ _) hnext)

end Foundation.Streaming
