import NetRemote.Wpa.WpaEventHandler

namespace NetRemote.Wpa.WpaEventHandler

open Foundation.Transition

def Listener.entries : Listener → List Source
  | .Handling entries | .Draining entries | .Snapshotting entries | .Copying entries
  | .Delivering entries _ _ | .Locking entries _ | .Erasing entries _ => entries
  | _ => []

-- The listener thread is bound to take the exclusive lock before it can exit.
def Listener.mustErase : Listener → Bool
  | .Delivering _ _ expired => !expired.isEmpty
  | .Locking _ _ | .Erasing _ _ => true
  | _ => false

def Stopper.signaled : Stopper → Bool
  | .Idle | .Checking | .Signaling => false
  | .Requesting | .Joining | .Stopped => true

-- The two hazards. The stop is requested without a signal while the thread
-- already waits with nothing to read; or the shared lock and the need for the
-- exclusive one meet, whichever of the two comes second.
def hazardous (s : State) : Action → Bool
  | .Stop =>
      match s.stopper with
      | .Idle => s.listener.mustErase
      | .Requesting => s.listener = .Waiting && s.counter = 0 && s.pending = 0
      | _ => false
  | .Listen .Advance =>
      match s.listener with
      | .Delivering _ (token :: _) _ => s.stopper.holdsShared && token ∈ s.expired
      | _ => false
  | _ => false

structure Inv (s : State) : Prop where
  unpublished : s.listener = .Starting → s.eventFdStop = none
  unsignaled : s.stopper.signaled = false → s.counter = 0 ∧ s.stopRequested = false
  signaledOnce : s.counter ≤ 1
  readable : .EventFdStop ∈ s.listener.entries → 0 < s.counter
  secondSlot : s.secondSlot = .EventFdStop →
    .EventFdStop ∈ s.listener.entries ∨ s.stopRequested = true
  waiting : s.listener = .Waiting → s.stopRequested = false
  requested : s.stopper = .Joining → s.stopTokenRequested = true
  wakes : s.stopper = .Joining → s.listener = .Waiting → 0 < s.counter ∨ 0 < s.pending
  unlocked : s.stopper.holdsShared = true → s.listener.mustErase = false

theorem inv_initial (eventListeners expired : List WpaEventListenerRegistrationToken)
    (pending : Nat) : Inv (initial eventListeners expired pending) where
  unpublished _ := rfl
  unsignaled _ := ⟨rfl, rfl⟩
  signaledOnce := Nat.zero_le 1
  readable h := by simp [initial, Listener.entries] at h
  secondSlot h := by simp [initial] at h
  waiting h := by simp [initial] at h
  requested h := by simp [initial] at h
  wakes h := by simp [initial] at h
  unlocked h := by simp [initial, Stopper.holdsShared] at h

-- Nothing but the listener's place and its own bookkeeping changes here.
theorem inv_moved {s : State} {next : Listener} (h : Inv s) (hstarting : next ≠ .Starting)
    (hwaiting : next ≠ .Waiting)
    (hentries : .EventFdStop ∈ next.entries → .EventFdStop ∈ s.listener.entries)
    (hslot : .EventFdStop ∈ s.listener.entries →
      .EventFdStop ∈ next.entries ∨ s.stopRequested = true)
    (herase : s.stopper.holdsShared = true → next.mustErase = false) :
    Inv { s with listener := next } where
  unpublished hnext := absurd hnext hstarting
  unsignaled := h.unsignaled
  signaledOnce := h.signaledOnce
  readable hmem := h.readable (hentries hmem)
  secondSlot hslot' := (h.secondSlot hslot').elim hslot .inr
  waiting hnext := absurd hnext hwaiting
  requested := h.requested
  wakes _ hnext := absurd hnext hwaiting
  unlocked := herase

theorem counter_signal (s : State) :
    s.counter ≤ State.counter { s with
      stopper := .Requesting
      eventFdStop := s.eventFdStop.map (· + EventFdStopRequestValue) } ∧
    State.counter { s with
      stopper := .Requesting
      eventFdStop := s.eventFdStop.map (· + EventFdStopRequestValue) } ≤ s.counter + 1 := by
  unfold State.counter EventFdStopRequestValue
  cases s.eventFdStop <;> simp

-- The stopping thread moves on without joining or signaling.
theorem inv_stopper {s : State} {next : Stopper} (h : Inv s) (hjoining : next ≠ .Joining)
    (hsignaled : next.signaled = false → s.counter = 0 ∧ s.stopRequested = false)
    (hunlocked : next.holdsShared = true → s.listener.mustErase = false) :
    Inv { s with stopper := next } :=
  { h with
    unsignaled := hsignaled
    requested := fun hjoin => absurd hjoin hjoining
    wakes := fun hjoin => absurd hjoin hjoining
    unlocked := hunlocked }

theorem inv_stop {s t : State} (h : Inv s) (hsafe : ¬ hazardous s .Stop)
    (hstep : stopListening s = some t) : Inv t := by
  unfold stopListening at hstep
  unfold hazardous at hsafe
  split at hstep
  · rename_i hidle
    simp only [hidle] at hsafe
    split at hstep
    · cases hstep
    · cases hstep
      have hunsignaled := h.unsignaled (by rw [hidle]; rfl)
      exact inv_stopper h (by simp) (fun _ => hunsignaled) fun _ => by simpa using hsafe
  · rename_i hchecking
    have hunlocked := h.unlocked (by rw [hchecking]; rfl)
    have hunsignaled := h.unsignaled (by rw [hchecking]; rfl)
    split at hstep
    · cases hstep
      exact inv_stopper h (by simp) (fun _ => hunsignaled) fun _ => hunlocked
    · cases hstep
      exact inv_stopper h (by simp) (fun hsignaled => by cases hsignaled) fun _ => hunlocked
  · rename_i hsignaling
    cases hstep
    have hunlocked := h.unlocked (by rw [hsignaling]; rfl)
    have hunsignaled := (h.unsignaled (by rw [hsignaling]; rfl)).1
    have hcounter := counter_signal s
    exact { h with
      unpublished := fun hstarting => by simp [h.unpublished hstarting]
      unsignaled := fun hsignaled => by cases hsignaled
      signaledOnce := by omega
      readable := fun hmem => by have hpositive := h.readable hmem; omega
      requested := fun hjoin => by cases hjoin
      wakes := fun hjoin => by cases hjoin
      unlocked := fun _ => hunlocked }
  · rename_i hrequesting
    simp only [hrequesting, Bool.and_eq_true, decide_eq_true_eq, not_and] at hsafe
    cases hstep
    have hunlocked := h.unlocked (by rw [hrequesting]; rfl)
    exact { h with
      unsignaled := fun hsignaled => by cases hsignaled
      requested := fun _ => rfl
      wakes := fun _ hwaiting => by
        by_cases hcounter : s.counter = 0
        · exact .inr (Nat.pos_of_ne_zero (hsafe ⟨hwaiting, hcounter⟩))
        · exact .inl (Nat.pos_of_ne_zero hcounter)
      unlocked := fun _ => hunlocked }
  · split at hstep
    · cases hstep
      exact inv_stopper h (by simp) (fun hsignaled => by cases hsignaled) fun hshared => by
        cases hshared
    · cases hstep
  · cases hstep

-- The descriptor is created or closed, and nothing is read or waited for.
theorem inv_reset {s : State} {next : Listener} {eventFdStop : Option Nat} (h : Inv s)
    (hstarting : next ≠ .Starting) (hwaiting : next ≠ .Waiting)
    (hbefore : s.listener.entries = []) (hafter : next.entries = [])
    (herase : next.mustErase = false) (hcounter : eventFdStop.getD 0 = 0) :
    Inv { s with listener := next, eventFdStop := eventFdStop } where
  unpublished hnext := absurd hnext hstarting
  unsignaled hsignaled := ⟨hcounter, (h.unsignaled hsignaled).2⟩
  signaledOnce := Nat.le_trans (Nat.le_of_eq hcounter) (Nat.zero_le 1)
  readable hmem := by
    rw [hafter] at hmem
    cases hmem
  secondSlot hslot := by
    have hslot' := h.secondSlot hslot
    rw [hbefore] at hslot'
    exact hslot'.elim nofun .inr
  waiting hnext := absurd hnext hwaiting
  requested := h.requested
  wakes _ hnext := absurd hnext hwaiting
  unlocked _ := herase

theorem inv_testing {s t : State} (h : Inv s) (htesting : s.listener = .Testing)
    (hstep : advance s = some t) : Inv t := by
  unfold advance at hstep
  simp only [htesting] at hstep
  have hmoved {next : Listener} : .EventFdStop ∈ s.listener.entries →
      .EventFdStop ∈ next.entries ∨ s.stopRequested = true := by
    rw [htesting]
    exact fun hmem => by cases hmem
  split at hstep
  · cases hstep
    exact inv_moved h (by simp) (by simp) (fun hmem => by cases hmem) hmoved (fun _ => rfl)
  · rename_i hcontinue
    simp only [Bool.or_eq_true, not_or, Bool.not_eq_true] at hcontinue
    cases hstep
    exact { h with
      unpublished := fun hstarting => by cases hstarting
      readable := fun hmem => by cases hmem
      secondSlot := fun hslot => (h.secondSlot hslot).elim hmoved .inr
      waiting := fun _ => hcontinue.2
      wakes := fun hjoin _ => by
        have hrequested := h.requested hjoin
        rw [hcontinue.1] at hrequested
        cases hrequested
      unlocked := fun _ => rfl }

-- A signal that is read turns into the request to stop.
theorem inv_handling {s t : State} {entries : List Source} (h : Inv s)
    (hhandling : s.listener = .Handling entries) (hstep : advance s = some t) : Inv t := by
  rcases s with ⟨listener, stopper, eventFdStop, stopTokenRequested, stopRequested, secondSlot,
    pending, eventListeners, expired⟩
  obtain rfl : listener = .Handling entries := hhandling
  cases entries with
  | nil =>
      cases hstep
      exact inv_moved h (by simp) (by simp) (fun hmem => by cases hmem)
        (fun hmem => by cases hmem) (fun _ => rfl)
  | cons entry entries =>
      cases entry with
      | WpaSocket =>
          cases hstep
          exact inv_moved h (by simp) (by simp) (List.mem_cons_of_mem _)
            (fun hmem => .inl (by simpa [Listener.entries] using hmem)) (fun _ => rfl)
      | EventFdStop =>
          simp only [advance] at hstep
          have honce := h.signaledOnce
          split at hstep
          · cases hstep
          · rename_i hpositive
            rw [if_pos (by simp only [EventFdStopRequestValue]; omega)] at hstep
            cases hstep
            have hsignaled : stopper.signaled = true := by
              by_contra hno
              exact hpositive (h.unsignaled (by simpa using hno)).1
            exact { h with
              unpublished := fun hstarting => by cases hstarting
              unsignaled := fun hno => by simp [hsignaled] at hno
              signaledOnce := Nat.zero_le 1
              readable := fun hmem => by cases hmem
              secondSlot := fun _ => .inr rfl
              waiting := fun hwaiting => by cases hwaiting
              wakes := fun _ hwaiting => by cases hwaiting
              unlocked := fun _ => rfl }

-- The exclusive lock is needed from the first listener on that has expired.
theorem inv_delivering {s t : State} {entries : List Source}
    {snapshot tokens : List WpaEventListenerRegistrationToken} (h : Inv s)
    (hdelivering : s.listener = .Delivering entries snapshot tokens)
    (hsafe : ¬ hazardous s (.Listen .Advance)) (hstep : advance s = some t) : Inv t := by
  rcases s with ⟨listener, stopper, eventFdStop, stopTokenRequested, stopRequested, secondSlot,
    pending, eventListeners, expired⟩
  obtain rfl : listener = .Delivering entries snapshot tokens := hdelivering
  cases snapshot with
  | nil =>
      cases tokens with
      | nil =>
          cases hstep
          exact inv_moved h (by simp) (by simp) id .inl (fun _ => rfl)
      | cons token tokens =>
          cases hstep
          refine inv_moved h (by simp) (by simp) id .inl fun hshared => ?_
          have hunlocked := h.unlocked hshared
          cases hunlocked
  | cons token snapshot =>
      simp only [advance] at hstep
      split at hstep
      · rename_i hexpired
        cases hstep
        refine inv_moved h (by simp) (by simp) id .inl fun hshared => ?_
        simp [hazardous, hexpired] at hsafe
        have hshared' : stopper.holdsShared = true := hshared
        rw [hsafe] at hshared'
        cases hshared'
      · cases hstep
        exact inv_moved h (by simp) (by simp) id .inl h.unlocked

theorem inv_advance {s t : State} (h : Inv s) (hsafe : ¬ hazardous s (.Listen .Advance))
    (hstep : advance s = some t) : Inv t := by
  rcases s with ⟨listener, stopper, eventFdStop, stopTokenRequested, stopRequested, secondSlot,
    pending, eventListeners, expired⟩
  cases listener with
  | Starting =>
      cases hstep
      exact inv_reset h (by simp) (by simp) rfl rfl rfl rfl
  | Published =>
      cases hstep
      exact inv_moved h (by simp) (by simp) (fun hmem => by cases hmem)
        (fun hmem => by cases hmem) (fun _ => rfl)
  | Testing => exact inv_testing h rfl hstep
  | Waiting => cases hstep
  | Handling entries => exact inv_handling h rfl hstep
  | Draining entries =>
      simp only [advance] at hstep
      split at hstep
      · cases hstep
      · cases hstep
        exact inv_moved h (by simp) (by simp) id .inl (fun _ => rfl)
  | Snapshotting entries =>
      cases hstep
      exact inv_moved h (by simp) (by simp) id .inl (fun _ => rfl)
  | Copying entries =>
      cases hstep
      exact inv_moved h (by simp) (by simp) id .inl (fun _ => rfl)
  | Delivering entries snapshot tokens => exact inv_delivering h rfl hsafe hstep
  | Locking entries tokens =>
      simp only [advance] at hstep
      split at hstep
      · cases hstep
      · rename_i hfree
        cases hstep
        exact inv_moved h (by simp) (by simp) id .inl fun hshared => absurd hshared hfree
  | Erasing entries tokens =>
      cases hstep
      exact { h with
        unpublished := fun hstarting => by cases hstarting
        waiting := fun hwaiting => by cases hwaiting
        wakes := fun _ hwaiting => by cases hwaiting
        unlocked := fun _ => rfl }
  | Closing =>
      cases hstep
      exact inv_reset h (by simp) (by simp) rfl rfl rfl rfl
  | Exited => cases hstep

theorem inv_fail {s t : State} (h : Inv s) (hstep : fail s = some t) : Inv t := by
  unfold fail at hstep
  split at hstep
  · cases hstep
    exact inv_moved h (by simp) (by simp) (fun hmem => by cases hmem)
      (fun hmem => by simp_all [Listener.entries]) (fun _ => rfl)
  · cases hstep
    exact inv_moved h (by simp) (by simp) (fun hmem => by cases hmem)
      (fun hmem => by simp_all [Listener.entries]) (fun _ => rfl)
  · cases hstep

-- In the wait the second slot still names the control socket, so the entries
-- that follow name the stop descriptor only where it was just reported.
theorem inv_wake {s t : State} {fresh : List Source} (h : Inv s)
    (hstep : wake s fresh = some t) : Inv t := by
  unfold wake at hstep
  split at hstep
  · rename_i first hwaiting
    obtain ⟨hready, ht⟩ := Option.ite_none_right_eq_some.mp hstep
    cases ht
    have hsecond : s.secondSlot = .WpaSocket := by
      have hunrequested := h.waiting hwaiting
      have hslot := h.secondSlot
      cases hsecond : s.secondSlot <;> simp_all [Listener.entries]
    exact { h with
      unpublished := fun hstarting => by cases hstarting
      readable := fun hmem => by
        simp only [Listener.entries, hsecond, List.mem_cons, reduceCtorEq, List.not_mem_nil,
          or_false] at hmem
        rw [← hmem] at hready
        have hpositive : 0 < s.counter := by simpa [State.ready] using hready
        exact hpositive
      secondSlot := fun hslot => by
        have hslot' : s.secondSlot = .EventFdStop := hslot
        rw [hsecond] at hslot'
        cases hslot'
      waiting := fun hnext => by cases hnext
      wakes := fun _ hnext => by cases hnext
      unlocked := fun _ => rfl }
  · rename_i first second hwaiting
    obtain ⟨⟨hne, hfirst, hsecond⟩, ht⟩ := Option.ite_none_right_eq_some.mp hstep
    cases ht
    exact { h with
      unpublished := fun hstarting => by cases hstarting
      readable := fun hmem => by
        have hready : s.ready .EventFdStop := by
          rcases List.mem_cons.mp hmem with rfl | hmem
          · exact hfirst
          · obtain rfl := List.mem_singleton.mp hmem
            exact hsecond
        have hpositive : 0 < s.counter := by simpa [State.ready] using hready
        exact hpositive
      secondSlot := fun hslot => by
        have hslot' : second = .EventFdStop := hslot
        simp [Listener.entries, hslot']
      waiting := fun hnext => by cases hnext
      wakes := fun _ hnext => by cases hnext
      unlocked := fun _ => rfl }
  · cases hstep

theorem inv_receive {s t : State} {received : Received} (h : Inv s)
    (hstep : receive s received = some t) : Inv t := by
  rcases s with ⟨listener, stopper, eventFdStop, stopTokenRequested, stopRequested, secondSlot,
    pending, eventListeners, expired⟩
  unfold receive at hstep
  dsimp only at hstep
  split at hstep
  · rename_i entries
    obtain ⟨-, ht⟩ := Option.ite_none_right_eq_some.mp hstep
    cases received with
    | Failed =>
        cases ht
        exact h
    | Unparsed =>
        cases ht
        exact { h with wakes := fun _ hwaiting => by cases hwaiting }
    | Parsed =>
        cases ht
        exact { h with
          unpublished := fun hstarting => by cases hstarting
          waiting := fun hwaiting => by cases hwaiting
          wakes := fun _ hwaiting => by cases hwaiting
          unlocked := fun _ => rfl }
  · cases hstep

theorem inv_step (s : State) (action : Action) (t : State) (h : Inv s)
    (hsafe : ¬ hazardous s action) (hstep : step s action = some t) : Inv t := by
  cases action with
  | Listen action =>
      cases action with
      | Advance => exact inv_advance h hsafe hstep
      | Fail => exact inv_fail h hstep
      | Wake fresh => exact inv_wake h hstep
      | Receive received => exact inv_receive h hstep
  | Stop => exact inv_stop h hsafe hstep
  | Arrive =>
      cases hstep
      exact { h with wakes := fun _ _ => .inr (Nat.succ_pos _) }
  | Interrupt =>
      obtain ⟨hwaiting, ht⟩ := Option.ite_none_right_eq_some.mp hstep
      cases ht
      exact inv_moved h (by simp) (by simp) (fun hmem => by cases hmem)
        (fun hmem => by simp [hwaiting, Listener.entries] at hmem) (fun _ => rfl)
  | Expire token =>
      cases hstep
      exact { h with }

-- Wherever the thread stands while `StopListening` joins it, it has a next step.
theorem not_stuck_of_inv {s : State} (h : Inv s) : ¬ Stuck s := by
  rintro ⟨hjoining, hrunning, hblocked⟩
  have hadvance : advance s = none := hblocked .Advance
  rcases s with ⟨listener, stopper, eventFdStop, stopTokenRequested, stopRequested, secondSlot,
    pending, eventListeners, expired⟩
  obtain rfl : stopper = .Joining := hjoining
  cases listener with
  | Starting => cases hadvance
  | Published => cases hadvance
  | Testing =>
      simp only [advance] at hadvance
      split at hadvance <;> cases hadvance
  | Waiting =>
      have hwake := hblocked (.Wake [.EventFdStop])
      have hwake' := hblocked (.Wake [.WpaSocket])
      simp only [listenerStep, wake, State.ready, ite_eq_right_iff, reduceCtorEq,
        decide_eq_true_eq, imp_false] at hwake hwake'
      exact (h.wakes rfl rfl).elim hwake hwake'
  | Handling entries =>
      cases entries with
      | nil => cases hadvance
      | cons entry entries =>
          cases entry with
          | WpaSocket => cases hadvance
          | EventFdStop =>
              have hpositive := h.readable List.mem_cons_self
              simp only [advance] at hadvance
              rw [if_neg (by omega)] at hadvance
              split at hadvance <;> cases hadvance
  | Draining entries =>
      have hreceive := hblocked (.Receive .Failed)
      simp only [listenerStep, receive, ite_eq_right_iff, reduceCtorEq, imp_false] at hreceive
      simp [advance, hreceive] at hadvance
  | Snapshotting entries => cases hadvance
  | Copying entries => cases hadvance
  | Delivering entries snapshot tokens =>
      cases snapshot with
      | nil => cases tokens <;> cases hadvance
      | cons token snapshot =>
          simp only [advance] at hadvance
          split at hadvance <;> cases hadvance
  | Locking entries tokens =>
      have hunlocked := h.unlocked rfl
      cases hunlocked
  | Erasing entries tokens => cases hadvance
  | Closing => cases hadvance
  | Exited => exact hrunning rfl

-- Whatever listeners are registered and events pending, a run without a
-- hazardous step never gets stuck.
theorem stopListening_never_stuck (eventListeners expired : List WpaEventListenerRegistrationToken)
    (pending : Nat) (actions : List Action) (s : State)
    (hrun : run step (initial eventListeners expired pending) actions = some s)
    (hsafe : HoldsAlong step (fun s action => ¬ hazardous s action)
      (initial eventListeners expired pending) actions) : ¬ Stuck s :=
  not_stuck_of_inv (invariant_run inv_step (inv_initial eventListeners expired pending) hsafe hrun)

theorem stuck_waiting {s : State} (hjoining : s.stopper = .Joining)
    (hwaiting : s.listener = .Waiting) (hcounter : s.counter = 0) (hpending : s.pending = 0) :
    Stuck s := by
  have hready : ∀ source, s.ready source = false := by
    intro source
    cases source <;> simp [State.ready, hcounter, hpending]
  refine ⟨hjoining, by simp [hwaiting], fun action => ?_⟩
  cases action with
  | Advance => simp [listenerStep, advance, hwaiting]
  | Fail => simp [listenerStep, fail, hwaiting]
  | Wake fresh =>
      simp only [listenerStep, wake, hwaiting, hready]
      split <;> simp
  | Receive received => simp [listenerStep, receive, hwaiting]

theorem stuck_locking {s : State} {entries : List Source}
    {tokens : List WpaEventListenerRegistrationToken} (hjoining : s.stopper = .Joining)
    (hlocking : s.listener = .Locking entries tokens) : Stuck s := by
  refine ⟨hjoining, by simp [hlocking], fun action => ?_⟩
  cases action with
  | Advance => simp [listenerStep, advance, hlocking, hjoining, Stopper.holdsShared]
  | Fail => simp [listenerStep, fail, hlocking]
  | Wake fresh => simp [listenerStep, wake, hlocking]
  | Receive received => simp [listenerStep, receive, hlocking]

-- The stopping thread needs nothing from the listener thread before the join.
theorem locking_reaches_stuck {s : State} {entries : List Source}
    {tokens : List WpaEventListenerRegistrationToken}
    (hlocking : s.listener = .Locking entries tokens) (hshared : s.stopper.holdsShared = true) :
    ∃ actions t, run step s actions = some t ∧ Stuck t := by
  rcases s with ⟨listener, stopper, eventFdStop, stopTokenRequested, stopRequested, secondSlot,
    pending, eventListeners, expired⟩
  cases stopper with
  | Idle => cases hshared
  | Stopped => cases hshared
  | Joining => exact ⟨[], _, rfl, stuck_locking rfl hlocking⟩
  | Requesting => exact ⟨[.Stop], _, rfl, stuck_locking rfl hlocking⟩
  | Signaling => exact ⟨[.Stop, .Stop], _, rfl, stuck_locking rfl hlocking⟩
  | Checking =>
      cases eventFdStop with
      | none => exact ⟨[.Stop, .Stop], _, rfl, stuck_locking rfl hlocking⟩
      | some value => exact ⟨[.Stop, .Stop, .Stop], _, rfl, stuck_locking rfl hlocking⟩

-- One expired listener is enough: the rest of the snapshot leads to the lock.
theorem delivering_reaches_stuck {s : State} {entries : List Source}
    {snapshot tokens : List WpaEventListenerRegistrationToken}
    (hdelivering : s.listener = .Delivering entries snapshot tokens) (htokens : tokens ≠ [])
    (hshared : s.stopper.holdsShared = true) :
    ∃ actions t, run step s actions = some t ∧ Stuck t := by
  induction snapshot generalizing s tokens with
  | nil =>
      obtain ⟨token, rest, rfl⟩ := List.exists_cons_of_ne_nil htokens
      have hlock : advance s = some { s with listener := .Locking entries (token :: rest) } := by
        simp [advance, hdelivering]
      obtain ⟨actions, t, hrun, hstuck⟩ := locking_reaches_stuck
        (s := { s with listener := .Locking entries (token :: rest) }) rfl hshared
      refine ⟨.Listen .Advance :: actions, t, ?_, hstuck⟩
      simp only [run, step, listenerStep, hlock, Option.bind_some, hrun]
  | cons token snapshot ih =>
      obtain ⟨collected, hcollected, hnext⟩ : ∃ collected, collected ≠ [] ∧
          advance s = some { s with listener := .Delivering entries snapshot collected } := by
        by_cases hexpired : token ∈ s.expired
        · exact ⟨tokens ++ [token], by simp, by simp [advance, hdelivering, hexpired]⟩
        · exact ⟨tokens, htokens, by simp [advance, hdelivering, hexpired]⟩
      obtain ⟨actions, t, hrun, hstuck⟩ := ih
        (s := { s with listener := .Delivering entries snapshot collected }) rfl hcollected hshared
      refine ⟨.Listen .Advance :: actions, t, ?_, hstuck⟩
      simp only [run, step, listenerStep, hnext, Option.bind_some, hrun]

-- Conversely, no hazardous step is harmless: a stuck state can be reached from it.
theorem hazardous_reaches_stuck {s t : State} {action : Action} (hazard : hazardous s action)
    (hstep : step s action = some t) : ∃ actions u, run step t actions = some u ∧ Stuck u := by
  rcases s with ⟨listener, stopper, eventFdStop, stopTokenRequested, stopRequested, secondSlot,
    pending, eventListeners, expired⟩
  cases action with
  | Arrive => cases hazard
  | Interrupt => cases hazard
  | Expire token => cases hazard
  | Stop =>
      cases stopper with
      | Idle =>
          cases listener with
          | Delivering entries snapshot tokens =>
              cases hstep
              have herase := by simpa [hazardous, Listener.mustErase] using hazard
              exact delivering_reaches_stuck rfl herase rfl
          | Locking entries tokens =>
              cases hstep
              exact locking_reaches_stuck rfl rfl
          | Erasing entries tokens => cases hstep
          | _ => cases hazard
      | Requesting =>
          simp only [hazardous, Bool.and_eq_true, decide_eq_true_eq] at hazard
          cases hstep
          exact ⟨[], _, rfl, stuck_waiting rfl hazard.1.1 hazard.1.2 hazard.2⟩
      | _ => cases hazard
  | Listen listen =>
      cases listen with
      | Fail => cases hazard
      | Wake fresh => cases hazard
      | Receive received => cases hazard
      | Advance =>
          cases listener with
          | Delivering entries snapshot tokens =>
              cases snapshot with
              | nil => cases hazard
              | cons token snapshot =>
                  simp only [hazardous, Bool.and_eq_true, decide_eq_true_eq] at hazard
                  simp only [step, listenerStep, advance, hazard.2, if_true] at hstep
                  cases hstep
                  exact delivering_reaches_stuck rfl (by simp) hazard.1
          | _ => cases hazard

-- The stop arrives while the only event is still being waited for.
theorem stopListening_signal_wakes :
    ∃ s, run step (initial [0] [] 0)
      [.Listen .Advance, .Listen .Advance, .Listen .Advance, .Stop, .Stop, .Stop, .Stop] = some s ∧
        ¬ Stuck s :=
  ⟨_, rfl, stopListening_never_stuck [0] [] 0
    [.Listen .Advance, .Listen .Advance, .Listen .Advance, .Stop, .Stop, .Stop, .Stop] _ rfl
    (by decide)⟩

-- The thread has just found its one listener expired when the stop, which
-- keeps the shared lock, starts to join it.
theorem stopListening_stuck_at_lock :
    ¬ ∀ (eventListeners expired : List WpaEventListenerRegistrationToken) (pending : Nat)
      (actions : List Action) (s : State),
      run step (initial eventListeners expired pending) actions = some s → ¬ Stuck s := by
  intro h
  refine h [0] [0] 1 [.Listen .Advance, .Listen .Advance, .Listen .Advance,
    .Listen (.Wake [.WpaSocket]), .Listen .Advance, .Listen (.Receive .Parsed), .Listen .Advance,
    .Listen .Advance, .Listen .Advance, .Stop, .Stop, .Stop, .Stop, .Listen .Advance] _ rfl
    ⟨rfl, by decide, fun action => ?_⟩
  cases action <;> rfl

end NetRemote.Wpa.WpaEventHandler
