import NetRemote.Wpa.WpaEventHandler.Dispatch

namespace NetRemote.Wpa.Dispatch

open Foundation Foundation.Bytes Foundation.Transition Registrations

-- The turn of a registration of the copy: its weak pointer is promoted, or has expired.
structure Turn (Listener : Type) where
  wpaEventArgs : WpaEventArgs
  token : WpaEventListenerRegistrationToken
  eventListener : Listener
  alive : Bool
  deriving DecidableEq, Repr

variable {Listener : Type}

def Turn.registration (turn : Turn Listener) :
    WpaEventArgs × WpaEventListenerRegistrationToken × Listener :=
  (turn.wpaEventArgs, turn.token, turn.eventListener)

def Turn.call (turn : Turn Listener) : Option (WpaEventArgs × Listener) :=
  if turn.alive then some (turn.wpaEventArgs, turn.eventListener) else none

def turn [DecidableEq Listener] (s : State Listener) : Action Listener → Option (Turn Listener)
  | .Advance =>
      match s.thread with
      | .Delivering wpaEventArgs ((token, eventListener) :: _) _ =>
          some ⟨wpaEventArgs, token, eventListener, eventListener ∉ s.expired⟩
      | _ => none
  | _ => none

def onWpaEvent (s : State Listener) : Action Listener → Option (WpaEventArgs × Listener)
  | .Advance =>
      match s.thread with
      | .Firing wpaEventArgs eventListener _ _ => some (wpaEventArgs, eventListener)
      | _ => none
  | _ => none

-- Everything a step can do.
inductive Steps (s : State Listener) : Action Listener → State Listener → Prop where
  | Call (call : Call Listener) :
      Steps s (.Call call) { s with registrations := perform s.registrations call }
  | Expire (wpaEventListener : Listener) :
      Steps s (.Expire wpaEventListener) { s with expired := wpaEventListener :: s.expired }
  | Drop (timestamp : Nat) (received : Option ByteString) :
      s.thread = .Draining → Steps s (.Receive timestamp received) s
  | Receive (timestamp : Nat) (received : Option ByteString) (wpaEventArgs : WpaEventArgs) :
      s.thread = .Draining →
      Steps s (.Receive timestamp received) { s with thread := .Received wpaEventArgs }
  | Copy (wpaEventArgs : WpaEventArgs)
      (order : List (Registration Listener)) :
      s.thread = .Received wpaEventArgs → order.Perm s.registrations.eventListeners.pairs →
      Steps s (.Copy order) { s with thread := .Delivering wpaEventArgs order [] }
  | Skip (wpaEventArgs : WpaEventArgs) (token : WpaEventListenerRegistrationToken)
      (eventListener : Listener)
      (eventListeners : List (Registration Listener))
      (expired : List WpaEventListenerRegistrationToken) :
      s.thread = .Delivering wpaEventArgs ((token, eventListener) :: eventListeners) expired →
      eventListener ∈ s.expired →
      Steps s .Advance
        { s with thread := .Delivering wpaEventArgs eventListeners (expired ++ [token]) }
  | Promote (wpaEventArgs : WpaEventArgs) (token : WpaEventListenerRegistrationToken)
      (eventListener : Listener)
      (eventListeners : List (Registration Listener))
      (expired : List WpaEventListenerRegistrationToken) :
      s.thread = .Delivering wpaEventArgs ((token, eventListener) :: eventListeners) expired →
      eventListener ∉ s.expired →
      Steps s .Advance
        { s with thread := .Firing wpaEventArgs eventListener eventListeners expired }
  | Return (wpaEventArgs : WpaEventArgs) (eventListener : Listener)
      (eventListeners : List (Registration Listener))
      (expired : List WpaEventListenerRegistrationToken) :
      s.thread = .Firing wpaEventArgs eventListener eventListeners expired →
      Steps s .Advance { s with thread := .Delivering wpaEventArgs eventListeners expired }
  | Finish (wpaEventArgs : WpaEventArgs) (expired : List WpaEventListenerRegistrationToken) :
      s.thread = .Delivering wpaEventArgs [] expired →
      Steps s .Advance
        { s with thread := if expired = [] then .Draining else .Cleaning expired }
  | Clean (expired : List WpaEventListenerRegistrationToken) :
      s.thread = .Cleaning expired →
      Steps s .Advance
        { s with registrations := removeExpired s.registrations expired, thread := .Draining }

section Inversion

variable {s t : State Listener} {action : Action Listener}

theorem steps_of_receive {timestamp : Nat} {received : Option ByteString}
    (h : receive s timestamp received = some t) : Steps s (.Receive timestamp received) t := by
  unfold receive at h
  cases hthread : s.thread with
  | Draining =>
      rw [hthread] at h
      cases hparse : received.bind WpaEvent.parse with
      | none =>
          simp only [hparse, Option.some.injEq] at h
          exact h ▸ .Drop timestamp received hthread
      | some wpaEvent =>
          simp only [hparse, Option.some.injEq] at h
          exact h ▸ .Receive timestamp received _ hthread
  | Received _ => simp [hthread] at h
  | Delivering _ _ _ => simp [hthread] at h
  | Firing _ _ _ _ => simp [hthread] at h
  | Cleaning _ => simp [hthread] at h

variable [DecidableEq Listener]

theorem steps_of_copy {order : List (Registration Listener)}
    (h : copy s order = some t) : Steps s (.Copy order) t := by
  unfold copy at h
  cases hthread : s.thread with
  | Received wpaEventArgs =>
      simp only [hthread, Option.ite_none_right_eq_some, Option.some.injEq] at h
      obtain ⟨hperm, rfl⟩ := h
      exact .Copy wpaEventArgs order hthread hperm
  | Draining => simp [hthread] at h
  | Delivering _ _ _ => simp [hthread] at h
  | Firing _ _ _ _ => simp [hthread] at h
  | Cleaning _ => simp [hthread] at h

theorem steps_of_advance (h : advance s = some t) : Steps s .Advance t := by
  unfold advance at h
  cases hthread : s.thread with
  | Delivering wpaEventArgs eventListeners expired =>
      cases eventListeners with
      | nil =>
          simp only [hthread, Option.some.injEq] at h
          exact h ▸ .Finish wpaEventArgs expired hthread
      | cons entry eventListeners =>
          by_cases hexpired : entry.2 ∈ s.expired
          · simp only [hthread, if_pos hexpired, Option.some.injEq] at h
            exact h ▸ .Skip wpaEventArgs entry.1 entry.2 eventListeners expired hthread hexpired
          · simp only [hthread, if_neg hexpired, Option.some.injEq] at h
            exact h ▸ .Promote wpaEventArgs entry.1 entry.2 eventListeners expired hthread hexpired
  | Firing wpaEventArgs eventListener eventListeners expired =>
      simp only [hthread, Option.some.injEq] at h
      exact h ▸ .Return wpaEventArgs eventListener eventListeners expired hthread
  | Cleaning expired =>
      simp only [hthread, Option.some.injEq] at h
      exact h ▸ .Clean expired hthread
  | Draining => simp [hthread] at h
  | Received _ => simp [hthread] at h

theorem steps_of_step (h : step s action = some t) : Steps s action t := by
  cases action with
  | Call call => exact Option.some.inj h ▸ .Call call
  | Expire wpaEventListener =>
      rw [step, Option.ite_none_left_eq_some] at h
      exact Option.some.inj h.2 ▸ .Expire wpaEventListener
  | Receive timestamp received => exact steps_of_receive h
  | Copy order => exact steps_of_copy h
  | Advance => exact steps_of_advance h

end Inversion

section Delivery

-- The registrations of the copy whose turn is still to come.
def waiting (s : State Listener) :
    List (WpaEventArgs × WpaEventListenerRegistrationToken × Listener) :=
  match s.thread with
  | .Delivering wpaEventArgs eventListeners _ | .Firing wpaEventArgs _ eventListeners _ =>
      eventListeners.map fun entry => (wpaEventArgs, entry)
  | _ => []

-- The call that a promoted listener is owed.
def promised (s : State Listener) : List (WpaEventArgs × Listener) :=
  match s.thread with
  | .Firing wpaEventArgs eventListener _ _ => [(wpaEventArgs, eventListener)]
  | _ => []

def Action.copies : Action Listener → Bool
  | .Copy _ => true
  | _ => false

variable [DecidableEq Listener] {s t : State Listener} {action : Action Listener}

theorem waiting_step (hcopy : ¬ action.copies) (h : step s action = some t) :
    waiting s = ((turn s action).bind (some ∘ Turn.registration)).toList ++ waiting t := by
  cases steps_of_step h with
  | Call call => rfl
  | Expire wpaEventListener => rfl
  | Drop timestamp received hthread => rfl
  | Receive timestamp received wpaEventArgs hthread => simp [waiting, turn, hthread]
  | Copy wpaEventArgs order hthread hperm => exact absurd rfl hcopy
  | Skip wpaEventArgs token eventListener eventListeners expired hthread hexpired =>
      simp [waiting, turn, hthread, Turn.registration]
  | Promote wpaEventArgs token eventListener eventListeners expired hthread hexpired =>
      simp [waiting, turn, hthread, Turn.registration]
  | Return wpaEventArgs eventListener eventListeners expired hthread =>
      simp [waiting, turn, hthread]
  | Finish wpaEventArgs expired hthread =>
      by_cases hnone : expired = []
      · simp [waiting, turn, hthread, hnone]
      · simp [waiting, turn, hthread, hnone]
  | Clean expired hthread => simp [waiting, turn, hthread]

-- Who is alive at its turn is promised the call, and the call is made next.
theorem promised_step (h : step s action = some t) :
    promised s ++ ((turn s action).bind Turn.call).toList =
      (onWpaEvent s action).toList ++ promised t := by
  cases steps_of_step h with
  | Call call => simp [promised, turn, onWpaEvent]
  | Expire wpaEventListener => simp [promised, turn, onWpaEvent]
  | Drop timestamp received hthread => simp [promised, turn, onWpaEvent]
  | Receive timestamp received wpaEventArgs hthread => simp [promised, turn, onWpaEvent, hthread]
  | Copy wpaEventArgs order hthread hperm => simp [promised, turn, onWpaEvent, hthread]
  | Skip wpaEventArgs token eventListener eventListeners expired hthread hexpired =>
      simp [promised, turn, onWpaEvent, hthread, hexpired, Turn.call]
  | Promote wpaEventArgs token eventListener eventListeners expired hthread hexpired =>
      simp [promised, turn, onWpaEvent, hthread, hexpired, Turn.call]
  | Return wpaEventArgs eventListener eventListeners expired hthread =>
      simp [promised, turn, onWpaEvent, hthread]
  | Finish wpaEventArgs expired hthread =>
      by_cases hnone : expired = []
      · simp [promised, turn, onWpaEvent, hthread, hnone]
      · simp [promised, turn, onWpaEvent, hthread, hnone]
  | Clean expired hthread => simp [promised, turn, onWpaEvent, hthread]

theorem waiting_run {actions : List (Action Listener)} (hcopies : ∀ a ∈ actions, ¬ a.copies)
    (hrun : run step s actions = some t) :
    waiting s = (observed step turn s actions).map Turn.registration ++ waiting t := by
  have howed : waiting s ++ observed step (fun _ _ => none) s actions =
      observed step (fun s a => (turn s a).bind (some ∘ Turn.registration)) s actions ++
        waiting t :=
    observed_owed (fun s a t hcopy hstep => (List.append_nil _).trans (waiting_step hcopy hstep))
      (holdsAlong_of_forall hcopies s) hrun
  rw [observed_none, observed_filterMap, List.append_nil, List.filterMap_eq_map] at howed
  exact howed

theorem promised_run {actions : List (Action Listener)} (hrun : run step s actions = some t) :
    promised s ++ (observed step turn s actions).filterMap Turn.call =
      observed step onWpaEvent s actions ++ promised t := by
  have hok : HoldsAlong step (fun _ _ => True) s actions :=
    holdsAlong_of_forall (fun _ _ => trivial) s
  have howed := observed_owed (fun s a t _ hstep => promised_step hstep) hok hrun
  rw [observed_filterMap] at howed
  exact howed

-- By its own steps the listener thread gets back to where it waits for an event.
theorem delivering_returns {wpaEventArgs : WpaEventArgs}
    {eventListeners : List (Registration Listener)}
    {expired : List WpaEventListenerRegistrationToken}
    (h : s.thread = .Delivering wpaEventArgs eventListeners expired) :
    ∃ count t, run step s (List.replicate count .Advance) = some t ∧ t.thread = .Draining := by
  induction eventListeners generalizing s expired with
  | nil =>
      have hfinish : step s .Advance =
          some { s with thread := if expired = [] then .Draining else .Cleaning expired } := by
        simp only [step, advance, h]
      by_cases hnone : expired = []
      · rw [if_pos hnone] at hfinish
        exact ⟨1, _, by rw [List.replicate_one, run, hfinish]; rfl, rfl⟩
      · rw [if_neg hnone] at hfinish
        exact ⟨2, _, by rw [List.replicate_succ, run, hfinish]; rfl, rfl⟩
  | cons entry eventListeners ih =>
      by_cases hexpired : entry.2 ∈ s.expired
      · have hskip : step s .Advance = some { s with
            thread := .Delivering wpaEventArgs eventListeners (expired ++ [entry.1]) } := by
          simp only [step, advance, h, if_pos hexpired]
        obtain ⟨count, t, hrun, hreturned⟩ := ih
          (s := { s with thread := .Delivering wpaEventArgs eventListeners (expired ++ [entry.1]) })
          rfl
        exact ⟨count + 1, t, by rw [List.replicate_succ, run, hskip]; exact hrun, hreturned⟩
      · have hpromote : step s .Advance = some { s with
            thread := .Firing wpaEventArgs entry.2 eventListeners expired } := by
          simp only [step, advance, h, if_neg hexpired]
        obtain ⟨count, t, hrun, hreturned⟩ := ih
          (s := { s with thread := .Delivering wpaEventArgs eventListeners expired }) rfl
        refine ⟨count + 2, t, ?_, hreturned⟩
        rw [List.replicate_succ, run, hpromote]
        exact hrun

end Delivery

section Tokens

def Action.registered : Action Listener → Option Listener
  | .Call (.RegisterEventListener wpaEventListener) => some wpaEventListener
  | _ => none

-- The listeners that a run registers, in the order of their tokens.
def registered (actions : List (Action Listener)) : List Listener :=
  actions.filterMap Action.registered

def Thread.expired : Thread Listener → List WpaEventListenerRegistrationToken
  | .Delivering _ _ expired | .Firing _ _ _ expired | .Cleaning expired => expired
  | _ => []

-- As long as the counter has not come round, each token names the listener that got it,
-- in the map, in the copy, and among the tokens to remove.
structure Named (listeners : List Listener) (s : State Listener) : Prop where
  next : s.registrations.eventListenerRegistrationTokenNext = tokenAfter listeners.length
  mapped : ∀ token eventListener,
    s.registrations.eventListeners.lookup token = some eventListener →
      listeners[token.toNat]? = some eventListener
  copied : ∀ wpaEventArgs token eventListener, (wpaEventArgs, token, eventListener) ∈ waiting s →
    listeners[token.toNat]? = some eventListener
  expired : ∀ token ∈ s.thread.expired, ∃ eventListener ∈ s.expired,
    listeners[token.toNat]? = some eventListener

theorem getElem?_append {earlier later : List Listener} {number : Nat} {listener : Listener}
    (h : earlier[number]? = some listener) : (earlier ++ later)[number]? = some listener := by
  obtain ⟨hlt, -⟩ := List.getElem?_eq_some_iff.mp h
  rw [List.getElem?_append_left hlt, h]

variable {s t : State Listener} {action : Action Listener} {listeners : List Listener}

theorem Named.register (h : Named listeners s) (hfew : listeners.length < 2 ^ 32)
    (wpaEventListener : Listener) :
    Named (listeners ++ [wpaEventListener]) { s with
      registrations := perform s.registrations (.RegisterEventListener wpaEventListener) } := by
  have hnumber : s.registrations.eventListenerRegistrationTokenNext.toNat = listeners.length := by
    rw [h.next]
    exact UInt32.toNat_ofNat_of_lt' hfew
  refine ⟨?_, ?_, ?_, ?_⟩
  · have hnext : s.registrations.eventListenerRegistrationTokenNext + 1 =
        tokenAfter (listeners.length + 1) := by
      rw [h.next]
      exact (UInt32.ofNat_add _ 1).symm
    rw [List.length_append]
    exact hnext
  · intro token eventListener hlookup
    by_cases htoken : token = s.registrations.eventListenerRegistrationTokenNext
    · subst htoken
      have hnew := (AList.lookup_insert s.registrations.eventListeners).symm.trans hlookup
      rw [hnumber, List.getElem?_concat_length]
      exact hnew
    · exact getElem?_append (h.mapped token eventListener
        ((AList.lookup_insert_ne htoken).symm.trans hlookup))
  · intro wpaEventArgs token eventListener hmem
    exact getElem?_append (h.copied wpaEventArgs token eventListener hmem)
  · intro token hmem
    obtain ⟨eventListener, hexpired, hnamed⟩ := h.expired token hmem
    exact ⟨eventListener, hexpired, getElem?_append hnamed⟩

theorem lookup_removeExpired (s : Registrations.State Listener)
    (expired : List WpaEventListenerRegistrationToken) (token : WpaEventListenerRegistrationToken) :
    (removeExpired s expired).eventListeners.lookup token =
      if token ∈ expired then none else s.eventListeners.lookup token :=
  Table.lookup_foldl_erase expired s.eventListeners token

theorem Action.eq_of_registered {wpaEventListener : Listener}
    (h : action.registered = some wpaEventListener) :
    action = .Call (.RegisterEventListener wpaEventListener) := by
  cases action with
  | Call call =>
      cases call with
      | RegisterEventListener other => rw [Option.some.inj h]
      | UnregisterEventListener token => cases h
  | Expire other => cases h
  | Receive timestamp received => cases h
  | Copy order => cases h
  | Advance => cases h

theorem named_initial (wpaType : WpaType) : Named [] (initial wpaType : State Listener) := by
  refine ⟨rfl, fun token eventListener hlookup => ?_, nofun, nofun⟩
  exact absurd ((AList.lookup_empty token).symm.trans hlookup) nofun

-- The listener thread forgets registrations of its copy and tokens to remove.
theorem Named.forget (h : Named listeners s) {thread : Thread Listener}
    (hwaiting : waiting { s with thread := thread } ⊆ waiting s)
    (hexpired : thread.expired ⊆ s.thread.expired) :
    Named listeners { s with thread := thread } :=
  ⟨h.next, h.mapped,
    fun _ _ _ hmem => h.copied _ _ _ (hwaiting hmem),
    fun token hmem => h.expired token (hexpired hmem)⟩

variable [DecidableEq Listener]

theorem Named.other (h : Named listeners s) (hstep : step s action = some t)
    (hnone : action.registered = none) : Named listeners t := by
  cases steps_of_step hstep with
  | Call call =>
      cases call with
      | RegisterEventListener wpaEventListener => cases hnone
      | UnregisterEventListener token =>
          refine ⟨h.next, fun other eventListener hlookup => ?_, h.copied, h.expired⟩
          have hother : other ≠ token := by
            rintro rfl
            exact absurd ((AList.lookup_erase other _).symm.trans hlookup) nofun
          exact h.mapped other eventListener ((AList.lookup_erase_ne hother).symm.trans hlookup)
  | Expire wpaEventListener =>
      refine ⟨h.next, h.mapped, h.copied, fun token hmem => ?_⟩
      obtain ⟨eventListener, hexpired, hnamed⟩ := h.expired token hmem
      exact ⟨eventListener, List.mem_cons_of_mem _ hexpired, hnamed⟩
  | Drop timestamp received hthread => exact h
  | Receive timestamp received wpaEventArgs hthread =>
      exact h.forget (List.nil_subset _) (List.nil_subset _)
  | Copy wpaEventArgs order hthread hperm =>
      refine ⟨h.next, h.mapped, fun _ token eventListener hmem => ?_, nofun⟩
      obtain ⟨entry, hentry, heq⟩ := List.mem_map.mp hmem
      obtain ⟨-, rfl⟩ := Prod.mk.inj heq
      exact h.mapped token eventListener (Table.mem_pairs.mp (hperm.mem_iff.mp hentry))
  | Skip wpaEventArgs token eventListener eventListeners expired hthread hexpired =>
      have hcopied := h.copied
      have hremoved := h.expired
      simp only [waiting, hthread] at hcopied
      simp only [Thread.expired, hthread] at hremoved
      refine ⟨h.next, h.mapped, fun args other listener hmem => ?_, fun other hmem => ?_⟩
      · exact hcopied args other listener (List.mem_cons_of_mem _ hmem)
      · obtain hmem | hmem := List.mem_append.mp hmem
        · exact hremoved other hmem
        · obtain rfl := List.mem_singleton.mp hmem
          exact ⟨eventListener, hexpired, hcopied _ _ _ List.mem_cons_self⟩
  | Promote wpaEventArgs token eventListener eventListeners expired hthread hexpired =>
      apply h.forget
      · simp [waiting, hthread]
      · simp [Thread.expired, hthread]
  | Return wpaEventArgs eventListener eventListeners expired hthread =>
      apply h.forget
      · simp [waiting, hthread]
      · simp [Thread.expired, hthread]
  | Finish wpaEventArgs expired hthread =>
      by_cases hempty : expired = []
      · rw [if_pos hempty]
        exact h.forget (List.nil_subset _) (List.nil_subset _)
      · rw [if_neg hempty]
        apply h.forget (List.nil_subset _)
        simp [Thread.expired, hthread]
  | Clean expired hthread =>
      refine ⟨h.next, fun token eventListener hlookup => ?_, nofun, nofun⟩
      rw [lookup_removeExpired, Option.ite_none_left_eq_some] at hlookup
      exact h.mapped token eventListener hlookup.2

theorem Named.run (h : Named listeners s) {actions : List (Action Listener)}
    (hrun : run step s actions = some t)
    (hfew : (listeners ++ registered actions).length ≤ 2 ^ 32) :
    Named (listeners ++ registered actions) t := by
  induction actions generalizing s listeners with
  | nil =>
      obtain rfl : s = t := by simpa [Transition.run] using hrun
      simpa [registered] using h
  | cons action rest ih =>
      obtain ⟨next, hnext, hrest⟩ := run_cons hrun
      cases hregistered : action.registered with
      | none =>
          have hsame : registered (action :: rest) = registered rest :=
            List.filterMap_cons_none hregistered
          rw [hsame] at hfew ⊢
          exact ih (h.other hnext hregistered) hrest hfew
      | some wpaEventListener =>
          have hmore : listeners ++ registered (action :: rest) =
              (listeners ++ [wpaEventListener]) ++ registered rest := by
            rw [registered, List.filterMap_cons_some hregistered, List.append_assoc]
            rfl
          rw [hmore] at hfew ⊢
          have hlt : listeners.length < 2 ^ 32 := by
            simp only [List.length_append, List.length_singleton] at hfew
            omega
          obtain rfl := Action.eq_of_registered hregistered
          have hstate := Option.some.inj hnext
          exact ih (hstate ▸ h.register hlt wpaEventListener) hrest hfew

-- A token among those to remove still names a listener that has ended.
theorem Named.lookup_advance (h : Named listeners s) (hstep : step s .Advance = some t)
    {token : WpaEventListenerRegistrationToken} {eventListener : Listener}
    (hmapped : s.registrations.eventListeners.lookup token = some eventListener)
    (halive : eventListener ∉ s.expired) :
    t.registrations.eventListeners.lookup token = some eventListener := by
  cases steps_of_step hstep with
  | Skip _ _ _ _ _ _ _ => exact hmapped
  | Promote _ _ _ _ _ _ _ => exact hmapped
  | Return _ _ _ _ _ => exact hmapped
  | Finish _ _ _ => exact hmapped
  | Clean expired hthread =>
      have hremoved := h.expired
      simp only [Thread.expired, hthread] at hremoved
      have hkept : token ∉ expired := by
        intro hmem
        obtain ⟨other, hother, hnamed⟩ := hremoved token hmem
        have hsame := (h.mapped token eventListener hmapped).symm.trans hnamed
        exact halive (Option.some.inj hsame ▸ hother)
      rw [lookup_removeExpired, if_neg hkept]
      exact hmapped

end Tokens

section Runs

variable [DecidableEq Listener]

-- In a run an event is processed: the map is copied as `snapshot`, and `loop` leads from
-- the copy to where `ProcessNextEvent` returns.
structure Processes (wpaType : WpaType) (actions : List (Action Listener))
    (wpaEventArgs : WpaEventArgs) (snapshot : Table WpaEventListenerRegistrationToken Listener)
    (copied : State Listener) (loop : List (Action Listener)) : Prop where
  copies : ∃ before order after s, actions = before ++ .Copy order :: (loop ++ after) ∧
    run step (initial wpaType) before = some s ∧ s.thread = .Received wpaEventArgs ∧
    s.registrations.eventListeners = snapshot ∧ step s (.Copy order) = some copied
  once : ∀ a ∈ loop, ¬ a.copies
  returns : ∃ t, run step copied loop = some t ∧ t.thread = .Draining

-- Each registration of the snapshot has one turn, and who is called is alive at a turn.
def DeliversPerRegistration (wpaType : WpaType) (actions : List (Action Listener)) : Prop :=
  ∀ wpaEventArgs snapshot copied loop,
    Processes wpaType actions wpaEventArgs snapshot copied loop →
    ((observed step turn copied loop).map Turn.registration).Perm
      (snapshot.pairs.map fun entry => (wpaEventArgs, entry)) ∧
    observed step onWpaEvent copied loop = (observed step turn copied loop).filterMap Turn.call

def KeepsTheLiving (wpaType : WpaType) (actions : List (Action Listener)) : Prop :=
  ∀ before after s t, actions = before ++ .Advance :: after →
    run step (initial wpaType) before = some s → step s .Advance = some t →
    ∀ token eventListener, s.registrations.eventListeners.lookup token = some eventListener →
      eventListener ∉ s.expired →
      t.registrations.eventListeners.lookup token = some eventListener

variable {wpaType : WpaType} {actions : List (Action Listener)}

theorem copied_of_copy {s copied : State Listener} {wpaEventArgs : WpaEventArgs}
    {order : List (Registration Listener)}
    (hthread : s.thread = .Received wpaEventArgs) (hcopy : step s (.Copy order) = some copied) :
    order.Perm s.registrations.eventListeners.pairs ∧
      waiting copied = order.map (fun entry => (wpaEventArgs, entry)) ∧ promised copied = [] := by
  cases steps_of_step hcopy with
  | Copy args _ hreceived hperm =>
      obtain rfl : wpaEventArgs = args := Thread.Received.inj (hthread.symm.trans hreceived)
      exact ⟨hperm, rfl, rfl⟩

-- Whatever has happened before, an event that is received can be processed.
theorem exists_processes {before : List (Action Listener)} {s : State Listener}
    {wpaEventArgs : WpaEventArgs} (hrun : run step (initial wpaType) before = some s)
    (hthread : s.thread = .Received wpaEventArgs) :
    ∃ order copied loop, Processes wpaType (before ++ .Copy order :: loop) wpaEventArgs
      s.registrations.eventListeners copied loop := by
  have hcopy : step s (.Copy s.registrations.eventListeners.pairs) = some { s with
      thread := .Delivering wpaEventArgs s.registrations.eventListeners.pairs [] } := by
    simp only [step, copy, hthread, if_pos (List.Perm.refl _)]
  obtain ⟨count, t, hloop, hreturned⟩ := delivering_returns
    (s := { s with thread := .Delivering wpaEventArgs s.registrations.eventListeners.pairs [] }) rfl
  have honce : ∀ a ∈ List.replicate count (Action.Advance : Action Listener), ¬ a.copies := by
    intro a hmem
    rw [List.eq_of_mem_replicate hmem]
    exact Bool.false_ne_true
  refine ⟨s.registrations.eventListeners.pairs, _, List.replicate count .Advance,
    ⟨before, _, [], s, ?_, hrun, hthread, rfl, hcopy⟩, honce, t, hloop, hreturned⟩
  rw [List.append_nil]

theorem deliversPerRegistration (wpaType : WpaType) (actions : List (Action Listener)) :
    DeliversPerRegistration wpaType actions := by
  rintro wpaEventArgs snapshot copied loop ⟨hcopies, honce, t, hrun, hreturned⟩
  obtain ⟨before, order, after, s, -, -, hthread, rfl, hcopy⟩ := hcopies
  obtain ⟨hperm, hwaiting, hpromised⟩ := copied_of_copy hthread hcopy
  have hdone : waiting t = [] ∧ promised t = [] := by
    unfold waiting promised
    rw [hreturned]
    exact ⟨rfl, rfl⟩
  have hturns := waiting_run honce hrun
  have hcalls := promised_run hrun
  rw [hwaiting, hdone.1, List.append_nil] at hturns
  rw [hpromised, hdone.2, List.append_nil, List.nil_append] at hcalls
  exact ⟨hturns ▸ hperm.map _, hcalls.symm⟩

theorem keepsTheLiving (hfew : (registered actions).length ≤ 2 ^ 32) :
    KeepsTheLiving wpaType actions := by
  rintro before after s t rfl hrun hstep token eventListener hmapped halive
  have hbefore : ([] ++ registered before).length ≤ 2 ^ 32 := by
    rw [registered, List.filterMap_append, List.length_append] at hfew
    exact (Nat.le_add_right _ _).trans hfew
  exact ((named_initial wpaType).run hrun hbefore).lookup_advance hstep hmapped halive

theorem processNextEvent_dispatches (hfew : (registered actions).length < 2 ^ 32) :
    DeliversPerRegistration wpaType actions ∧ KeepsTheLiving wpaType actions :=
  ⟨deliversPerRegistration wpaType actions, keepsTheLiving hfew.le⟩

-- A listener registered twice among the ones that come, go and stay.
def listenersComeAndGo : List (Action Nat) :=
  [.Call (.RegisterEventListener 0), .Call (.RegisterEventListener 1),
    .Call (.RegisterEventListener 0), .Expire 1, .Receive 0 (some (str "<3>AP-ENABLED")),
    .Copy [(1, 1), (2, 0), (0, 0)], .Advance, .Call (.UnregisterEventListener 0), .Advance,
    .Call (.RegisterEventListener 3), .Advance, .Advance, .Advance, .Advance, .Advance]

theorem processNextEvent_dispatches_listenersComeAndGo :
    (registered listenersComeAndGo).length < 2 ^ 32 ∧
      DeliversPerRegistration .Hostapd listenersComeAndGo ∧
      KeepsTheLiving .Hostapd listenersComeAndGo :=
  ⟨by decide, processNextEvent_dispatches (by decide)⟩

-- Each listener of the snapshot that is alive at its turns is called once.
def DeliversPerListener (wpaType : WpaType) (actions : List (Action Listener)) : Prop :=
  ∀ wpaEventArgs snapshot copied loop,
    Processes wpaType actions wpaEventArgs snapshot copied loop →
    ∀ token eventListener, snapshot.lookup token = some eventListener →
      (∀ own ∈ observed step turn copied loop, own.eventListener = eventListener → own.alive) →
      (observed step onWpaEvent copied loop).count (wpaEventArgs, eventListener) = 1

theorem onWpaEvent_callsTwice : ¬ DeliversPerListener .Hostapd listenersComeAndGo := by
  intro hdelivers
  have hprocesses : Processes .Hostapd listenersComeAndGo _ _ _
      (listenersComeAndGo.drop 6) :=
    ⟨⟨listenersComeAndGo.take 5, [(1, 1), (2, 0), (0, 0)], [], _, rfl, rfl, rfl, rfl, rfl⟩,
      by decide, ⟨_, rfl, rfl⟩⟩
  have honce := hdelivers _ _ _ _ hprocesses 0 0 rfl (by decide)
  exact absurd honce (by decide)

end Runs

end NetRemote.Wpa.Dispatch
