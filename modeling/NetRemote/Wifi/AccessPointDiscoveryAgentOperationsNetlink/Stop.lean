import NetRemote.Wifi.AccessPointDiscoveryAgentOperationsNetlink

namespace NetRemote.Wifi.AccessPointDiscoveryAgentOperationsNetlink

open Foundation.Transition

def Thread.looping : Thread → Bool
  | .Testing | .Waiting | .Handling _ => true
  | _ => false

-- The eventfd is open.
def Thread.opened : Thread → Bool
  | .Starting | .Clearing | .Exited => false
  | _ => true

-- `RequestNetlinkProcessingLoopStop` has returned.
def Stopper.signaled : Stopper → Bool
  | .Requesting | .Joining | .Stopped => true
  | _ => false

-- The thread tests for a stop after `Stop` has found no descriptor to signal and
-- before it requests the stop.
def missesStop (s : State) : Action → Bool
  | .Advance => s.thread = .Testing && s.stopper = .Requesting && s.counter = 0 && !s.stopRequested
  | _ => false

structure Inv (s : State) : Prop where
  published : s.thread.looping = true → s.eventLoopStopFdPublished = true
  opened : s.thread.opened = true → s.eventLoopStop.isSome = true
  requested : s.stopper = .Joining ∨ s.stopper = .Stopped → s.stopTokenRequested = true
  wakes : s.thread = .Waiting → s.stopper.signaled = true → 0 < s.counter

variable {s t : State}

theorem inv_initial (pending : Nat) : Inv (initial pending) where
  published h := by cases h
  opened h := by cases h
  requested h := by rcases h with h | h <;> cases h
  wakes h := by cases h

-- The thread goes somewhere else than to the wait.
theorem inv_moved (h : Inv s) (hstopper : t.stopper = s.stopper)
    (htoken : t.stopTokenRequested = s.stopTokenRequested) (hwaiting : t.thread ≠ .Waiting)
    (hpublished : t.thread.looping = true → t.eventLoopStopFdPublished = true)
    (hopened : t.thread.opened = true → t.eventLoopStop.isSome = true) : Inv t where
  published := hpublished
  opened := hopened
  requested := by
    rw [hstopper, htoken]
    exact h.requested
  wakes hnext := absurd hnext hwaiting

theorem inv_test (h : Inv s) (hsafe : ¬ missesStop s .Advance) (hthread : s.thread = .Testing)
    (htoken : s.stopTokenRequested = false) (hrequested : s.stopRequested = false) :
    Inv { s with thread := .Waiting } where
  published _ := h.published (by rw [hthread]; rfl)
  opened _ := h.opened (by rw [hthread]; rfl)
  requested := h.requested
  wakes _ hsignaled := by
    have hrequesting : s.stopper = .Requesting := by
      cases hstopper : s.stopper with
      | Requesting => rfl
      | Joining =>
          rw [h.requested (.inl hstopper)] at htoken
          cases htoken
      | Stopped =>
          rw [h.requested (.inr hstopper)] at htoken
          cases htoken
      | _ =>
          rw [hstopper] at hsignaled
          cases hsignaled
    have hcounter : s.counter ≠ 0 := by
      intro hzero
      apply hsafe
      simp [missesStop, hthread, hrequesting, hzero, hrequested]
    exact Nat.pos_of_ne_zero hcounter

theorem inv_advance (h : Inv s) (hsafe : ¬ missesStop s .Advance) (hstep : advance s = some t) :
    Inv t := by
  have hopened (hthread : s.thread.opened = true) := h.opened hthread
  unfold advance at hstep
  cases hthread : s.thread with
  | Starting =>
      simp only [hthread, Option.some.injEq] at hstep
      subst hstep
      exact inv_moved h rfl rfl nofun nofun fun _ => rfl
  | Created =>
      simp only [hthread, Option.some.injEq] at hstep
      subst hstep
      exact inv_moved h rfl rfl nofun nofun fun _ => hopened (by rw [hthread]; rfl)
  | Registered =>
      simp only [hthread, Option.some.injEq] at hstep
      subst hstep
      exact inv_moved h rfl rfl nofun (fun _ => rfl) fun _ => hopened (by rw [hthread]; rfl)
  | Testing =>
      simp only [hthread] at hstep
      by_cases hstop : (s.stopTokenRequested || s.stopRequested) = true
      · rw [if_pos hstop] at hstep
        cases hstep
        exact inv_moved h rfl rfl nofun nofun fun _ => hopened (by rw [hthread]; rfl)
      · rw [if_neg hstop] at hstep
        cases hstep
        obtain ⟨htoken, hrequested⟩ := Bool.or_eq_false_iff.mp (by simpa using hstop)
        exact inv_test h hsafe hthread htoken hrequested
  | Waiting => simp [hthread] at hstep
  | Handling ready =>
      have hpublished := h.published (by rw [hthread]; rfl)
      have hopened' := h.opened (by rw [hthread]; rfl)
      cases ready with
      | nil =>
          simp only [hthread, Option.some.injEq] at hstep
          subst hstep
          exact inv_moved h rfl rfl nofun (fun _ => hpublished) fun _ => hopened'
      | cons source ready =>
          cases source with
          | EventLoopStop =>
              simp only [hthread, Option.some.injEq] at hstep
              subst hstep
              exact inv_moved h rfl rfl nofun (fun _ => hpublished) fun _ => hopened'
          | NetlinkSocket =>
              simp only [hthread, Option.some.injEq] at hstep
              subst hstep
              exact inv_moved h rfl rfl nofun (fun _ => hpublished) fun _ => hopened'
  | Closing =>
      simp only [hthread, Option.some.injEq] at hstep
      subst hstep
      exact inv_moved h rfl rfl nofun nofun nofun
  | Clearing =>
      simp only [hthread, Option.some.injEq] at hstep
      subst hstep
      exact inv_moved h rfl rfl nofun nofun nofun
  | Exited => simp [hthread] at hstep

theorem inv_fail (h : Inv s) (hstep : fail s = some t) : Inv t := by
  unfold fail at hstep
  split at hstep
  · cases hstep
    exact inv_moved h rfl rfl nofun nofun nofun
  · rename_i hthread
    cases hstep
    exact inv_moved h rfl rfl nofun nofun fun _ => h.opened (by rw [hthread]; rfl)
  · rename_i hthread
    cases hstep
    exact inv_moved h rfl rfl nofun nofun fun _ => h.opened (by rw [hthread]; rfl)
  · cases hstep

-- Out of the wait, back to the test or on to what is ready.
theorem inv_leave (h : Inv s) (hthread : s.thread = .Waiting) {next : Thread}
    (hnext : next ≠ .Waiting) : Inv { s with thread := next } := by
  have hpublished := h.published (by rw [hthread]; rfl)
  have hopened := h.opened (by rw [hthread]; rfl)
  exact inv_moved (t := { s with thread := next }) h rfl rfl hnext (fun _ => hpublished)
    fun _ => hopened

-- What is published can be signaled, and the signal is kept.
theorem inv_stop (h : Inv s) (hstep : stop s = some t) : Inv t := by
  unfold stop at hstep
  cases hstopper : s.stopper with
  | Idle =>
      simp only [hstopper, Option.some.injEq] at hstep
      subst hstep
      exact ⟨h.published, h.opened, by simp, nofun⟩
  | Checking =>
      simp only [hstopper] at hstep
      by_cases hpublished : s.eventLoopStopFdPublished = true
      · rw [if_pos hpublished] at hstep
        cases hstep
        exact ⟨h.published, h.opened, by simp, nofun⟩
      · rw [if_neg hpublished] at hstep
        cases hstep
        refine ⟨h.published, h.opened, by simp, fun hwaiting _ => ?_⟩
        have hthread : s.thread = .Waiting := hwaiting
        exact absurd (h.published (by rw [hthread]; rfl)) hpublished
  | Signaling =>
      simp only [hstopper, Option.some.injEq] at hstep
      subst hstep
      refine ⟨h.published, fun hopened => ?_, by simp, fun hwaiting _ => ?_⟩
      · simpa using h.opened hopened
      · have hthread : s.thread = .Waiting := hwaiting
        obtain ⟨counter, hcounter⟩ := Option.isSome_iff_exists.mp
          (h.opened (by rw [hthread]; rfl))
        simp [State.counter, hcounter]
  | Requesting =>
      simp only [hstopper, Option.some.injEq] at hstep
      subst hstep
      have hsignaled : s.stopper.signaled = true := by
        rw [hstopper]
        rfl
      exact ⟨h.published, h.opened, fun _ => rfl, fun hwaiting _ => h.wakes hwaiting hsignaled⟩
  | Joining =>
      simp only [hstopper, Option.ite_none_right_eq_some, Option.some.injEq] at hstep
      obtain ⟨hexited, rfl⟩ := hstep
      refine ⟨h.published, h.opened, fun _ => h.requested (.inl hstopper), fun hwaiting _ => ?_⟩
      have hthread : s.thread = .Waiting := hwaiting
      rw [hexited] at hthread
      cases hthread
  | Stopped => simp [hstopper] at hstep

theorem inv_step (s : State) (action : Action) (t : State) (h : Inv s)
    (hsafe : ¬ missesStop s action) (hstep : step s action = some t) : Inv t := by
  cases action with
  | Advance => exact inv_advance h hsafe hstep
  | Fail => exact inv_fail h hstep
  | Interrupt =>
      change interrupt s = some t at hstep
      unfold interrupt at hstep
      split at hstep
      · rename_i hthread
        cases hstep
        exact inv_leave h hthread nofun
      · cases hstep
  | Wake ready =>
      change wake s ready = some t at hstep
      unfold wake at hstep
      split at hstep
      · rename_i hthread
        obtain ⟨_, ht⟩ := Option.ite_none_right_eq_some.mp hstep
        cases ht
        exact inv_leave h hthread nofun
      · cases hstep
  | Stop => exact inv_stop h hstep
  | Arrive =>
      cases hstep
      exact ⟨h.published, h.opened, h.requested, h.wakes⟩

-- No run in which the thread does not test too early gets stuck.
theorem stop_never_stuck (pending : Nat) (actions : List Action) (s : State)
    (hrun : run step (initial pending) actions = some s)
    (hsafe : HoldsAlong step (fun s action => ¬ missesStop s action) (initial pending) actions) :
    ¬ Stuck s := by
  rintro ⟨hjoining, hwaiting, hcounter, _⟩
  have hinv := invariant_run inv_step (inv_initial pending) hsafe hrun
  have hpositive := hinv.wakes hwaiting (by rw [hjoining]; rfl)
  omega

-- Conversely, the step that is excluded is one request away from being stuck.
theorem missesStop_reaches_stuck {action : Action} (hmisses : missesStop s action = true)
    (htoken : s.stopTokenRequested = false) (hstep : step s action = some t) :
    ∃ u, run step t [.Stop] = some u ∧ Stuck u := by
  rcases s with ⟨thread, stopper, published, eventLoopStop, token, requested, pending⟩
  cases action with
  | Advance =>
      simp only [missesStop, Bool.and_eq_true, decide_eq_true_eq, Bool.not_eq_true'] at hmisses
      obtain ⟨⟨⟨rfl, rfl⟩, hcounter⟩, rfl⟩ := hmisses
      obtain rfl : token = false := htoken
      cases hstep
      exact ⟨_, rfl, rfl, rfl, hcounter, rfl⟩
  | _ => cases hmisses

def untilWaiting : List Action := List.replicate 4 .Advance

-- The descriptor is published when `Stop` looks for it.
theorem stop_signals_waiting :
    ∃ s, run step (initial 0) (untilWaiting ++ List.replicate 4 .Stop) = some s ∧ ¬ Stuck s :=
  ⟨_, rfl, stop_never_stuck 0 (untilWaiting ++ List.replicate 4 .Stop) _ rfl (by decide)⟩

-- `Stop` finds no descriptor, and the thread publishes it and tests for a stop just
-- before the stop is requested.
theorem stop_stuck_unpublished :
    ∃ s, run step (initial 0)
      ([.Advance, .Advance, .Stop, .Stop] ++ [.Advance, .Advance] ++ [.Stop]) = some s ∧ Stuck s :=
  ⟨_, rfl, rfl, rfl, rfl, rfl⟩

end NetRemote.Wifi.AccessPointDiscoveryAgentOperationsNetlink
