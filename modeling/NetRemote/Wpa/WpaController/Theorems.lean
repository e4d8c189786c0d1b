import NetRemote.Wpa.WpaController.SendCommand

namespace NetRemote.Wpa.WpaController

open Foundation Foundation.Bytes Foundation.Transition

section Single

def State.holder (s : State) : Caller := s.gateWriter.elim .Idle s.callers

-- What is true of the connection while a thread holds the lock exclusively, or no
-- thread does.
def Settled (holder : Caller) (connection : Option Nat) (established : Nat) : Prop :=
  match holder with
  | .Creating _ => connection = none ∧ established = 0
  | .Publishing _ _ => connection = none ∧ established = 1
  | _ => established = connection.elim 0 fun _ => 1

structure Single (s : State) : Prop where
  exclusive : ∀ thread, (s.callers thread).holdsExclusive = true ↔ s.gateWriter = some thread
  settled : Settled s.holder s.controlSocketCommandConnection s.connections.length

variable {s t : State} {thread : Nat} {caller : Caller}

theorem single_initial : Single initial where
  exclusive thread := by simp [initial, Caller.holdsExclusive]
  settled := rfl

theorem established_le_one (h : Single s) : s.connections.length ≤ 1 := by
  have hsettled := h.settled
  unfold Settled at hsettled
  split at hsettled
  · omega
  · omega
  · cases hconnection : s.controlSocketCommandConnection with
    | none => simp [hconnection] at hsettled; simp [hsettled]
    | some connection => simp [hconnection] at hsettled; omega

-- A thread without the lock changes nothing that the lock protects.
theorem single_outside (h : Single s) (hbefore : (s.callers thread).holdsExclusive = false)
    (hafter : caller.holdsExclusive = false)
    (hcallers : t.callers = Function.update s.callers thread caller)
    (hwriter : t.gateWriter = s.gateWriter)
    (hconnection : t.controlSocketCommandConnection = s.controlSocketCommandConnection)
    (hlength : t.connections.length = s.connections.length) : Single t := by
  have hne : s.gateWriter ≠ some thread := by
    intro hwriter
    rw [(h.exclusive thread).mpr hwriter] at hbefore
    cases hbefore
  have hholder : t.holder = s.holder := by
    unfold State.holder
    rw [hwriter, hcallers]
    cases hcase : s.gateWriter with
    | none => rfl
    | some writer =>
        have hother : writer ≠ thread := by
          rintro rfl
          exact hne hcase
        exact Function.update_of_ne hother caller s.callers
  refine ⟨fun other => ?_, ?_⟩
  · rw [hcallers, hwriter]
    by_cases hother : other = thread
    · subst hother
      rw [Function.update_self, hafter]
      simp [hne]
    · rw [Function.update_of_ne hother]
      exact h.exclusive other
  · rw [hholder, hconnection, hlength]
    exact h.settled

-- The thread that has the lock, keeps it or gives it back.
theorem single_inside
    (hothers : ∀ other, other ≠ thread → (s.callers other).holdsExclusive = false)
    (hcallers : t.callers = Function.update s.callers thread caller)
    (hwriter : t.gateWriter = if caller.holdsExclusive then some thread else none)
    (hsettled : Settled (if caller.holdsExclusive then caller else .Idle)
      t.controlSocketCommandConnection t.connections.length) : Single t := by
  refine ⟨fun other => ?_, ?_⟩
  · rw [hcallers, hwriter]
    by_cases hother : other = thread
    · subst hother
      rw [Function.update_self]
      cases caller.holdsExclusive <;> simp
    · rw [Function.update_of_ne hother, hothers other hother]
      have hne : thread ≠ other := Ne.symm hother
      cases caller.holdsExclusive <;> simp [hne]
  · have hholder : t.holder = if caller.holdsExclusive then caller else .Idle := by
      unfold State.holder
      rw [hwriter, hcallers]
      cases caller.holdsExclusive with
      | false => rfl
      | true => exact Function.update_self thread caller s.callers
    rw [hholder]
    exact hsettled

theorem others_outside (h : Single s) (hheld : (s.callers thread).holdsExclusive = true) :
    ∀ other, other ≠ thread → (s.callers other).holdsExclusive = false := by
  intro other hother
  by_contra hholds
  have hwriter := (h.exclusive other).mp (by simpa using hholds)
  rw [(h.exclusive thread).mp hheld] at hwriter
  exact hother (Option.some.inj hwriter).symm

theorem settled_holder (h : Single s) (hcaller : s.callers thread = caller)
    (hheld : caller.holdsExclusive = true) :
    Settled caller s.controlSocketCommandConnection s.connections.length := by
  have hwriter := (h.exclusive thread).mp (by rw [hcaller]; exact hheld)
  have hsettled := h.settled
  unfold State.holder at hsettled
  rw [hwriter] at hsettled
  simpa [hcaller] using hsettled

-- What a thread can do by itself, with the guard of each step.
inductive Advanced (s : State) (thread : Nat) : State → Prop where
  | LockShared {call : Call} (hcaller : s.callers thread = .LockingShared call) :
      Advanced s thread
        { s.moved thread (.CheckingShared call) with gateReaders := s.gateReaders + 1 }
  | CheckShared {call : Call} (hcaller : s.callers thread = .CheckingShared call) :
      Advanced s thread (s.moved thread (.UnlockingShared call s.controlSocketCommandConnection))
  | UnlockShared {call : Call} {connection : Option Nat} {caller : Caller}
      (hcaller : s.callers thread = .UnlockingShared call connection)
      (houtside : caller.holdsExclusive = false) :
      Advanced s thread { s.moved thread caller with gateReaders := s.gateReaders - 1 }
  | LockExclusive {call : Call} (hcaller : s.callers thread = .LockingExclusive call)
      (hfree : s.gateWriter = none) :
      Advanced s thread { s.moved thread (.CheckingExclusive call) with gateWriter := some thread }
  | FindNone {call : Call} (hcaller : s.callers thread = .CheckingExclusive call)
      (hconnection : s.controlSocketCommandConnection = none) :
      Advanced s thread (s.moved thread (.Creating call))
  | FindSome {call : Call} {connection : Nat}
      (hcaller : s.callers thread = .CheckingExclusive call)
      (hconnection : s.controlSocketCommandConnection = some connection) :
      Advanced s thread (s.moved thread (.UnlockingExclusive call (some connection)))
  | Publish {call : Call} {connection : Nat}
      (hcaller : s.callers thread = .Publishing call connection) :
      Advanced s thread { s.moved thread (.UnlockingExclusive call (some connection)) with
        controlSocketCommandConnection := some connection }
  | UnlockExclusive {call : Call} {connection : Option Nat} {caller : Caller}
      (hcaller : s.callers thread = .UnlockingExclusive call connection)
      (houtside : caller.holdsExclusive = false) :
      Advanced s thread { s.moved thread caller with gateWriter := none }

theorem advanced_of_advance (hstep : advance s thread = some t) : Advanced s thread t := by
  unfold advance at hstep
  split at hstep
  case h_1 call hcaller =>
    obtain ⟨-, hstep⟩ := Option.ite_none_right_eq_some.mp hstep
    exact Option.some.inj hstep ▸ .LockShared hcaller
  case h_2 call hcaller => exact Option.some.inj hstep ▸ .CheckShared hcaller
  case h_3 call hcaller => exact Option.some.inj hstep ▸ .UnlockShared hcaller rfl
  case h_4 call connection hcaller => exact Option.some.inj hstep ▸ .UnlockShared hcaller rfl
  case h_5 call hcaller =>
    obtain ⟨⟨hfree, -⟩, hstep⟩ := Option.ite_none_right_eq_some.mp hstep
    exact Option.some.inj hstep ▸ .LockExclusive hcaller hfree
  case h_6 call hcaller =>
    cases hconnection : s.controlSocketCommandConnection with
    | none =>
        simp only [hconnection] at hstep
        exact Option.some.inj hstep ▸ .FindNone hcaller hconnection
    | some connection =>
        simp only [hconnection] at hstep
        exact Option.some.inj hstep ▸ .FindSome hcaller hconnection
  case h_7 call connection hcaller => exact Option.some.inj hstep ▸ .Publish hcaller
  case h_8 call hcaller => exact Option.some.inj hstep ▸ .UnlockExclusive hcaller rfl
  case h_9 call connection hcaller => exact Option.some.inj hstep ▸ .UnlockExclusive hcaller rfl
  case h_10 => cases hstep

theorem single_advance (h : Single s) (hstep : advance s thread = some t) : Single t := by
  have houtside {caller : Caller} (hcaller : s.callers thread = caller)
      (hnot : caller.holdsExclusive = false) : (s.callers thread).holdsExclusive = false := by
    rw [hcaller]
    exact hnot
  have hholds {caller : Caller} (hcaller : s.callers thread = caller)
      (hheld : caller.holdsExclusive = true) : (s.callers thread).holdsExclusive = true := by
    rw [hcaller]
    exact hheld
  cases advanced_of_advance hstep with
  | LockShared hcaller => exact single_outside h (houtside hcaller rfl) rfl rfl rfl rfl rfl
  | CheckShared hcaller => exact single_outside h (houtside hcaller rfl) rfl rfl rfl rfl rfl
  | UnlockShared hcaller hafter =>
      exact single_outside h (houtside hcaller rfl) hafter rfl rfl rfl rfl
  | LockExclusive hcaller hfree =>
      have hothers : ∀ other, other ≠ thread → (s.callers other).holdsExclusive = false := by
        intro other _
        by_contra hother
        have hwriter := (h.exclusive other).mp (by simpa using hother)
        rw [hfree] at hwriter
        cases hwriter
      have hsettled := h.settled
      unfold State.holder at hsettled
      rw [hfree] at hsettled
      exact single_inside hothers rfl rfl hsettled
  | FindNone hcaller hconnection =>
      have hheld := hholds hcaller rfl
      have hsettled := settled_holder h hcaller rfl
      rw [hconnection] at hsettled
      exact single_inside (others_outside h hheld) rfl ((h.exclusive thread).mp hheld)
        ⟨hconnection, hsettled⟩
  | FindSome hcaller hconnection =>
      have hheld := hholds hcaller rfl
      have hsettled := settled_holder h hcaller rfl
      exact single_inside (others_outside h hheld) rfl ((h.exclusive thread).mp hheld) hsettled
  | Publish hcaller =>
      have hheld := hholds hcaller rfl
      have hsettled := settled_holder h hcaller rfl
      exact single_inside (others_outside h hheld) rfl ((h.exclusive thread).mp hheld) hsettled.2
  | @UnlockExclusive call connection caller hcaller hafter =>
      have hsettled := settled_holder h hcaller rfl
      have hwriter : none = if caller.holdsExclusive then some thread else none := by
        rw [hafter]
        rfl
      have hfreed : Settled (if caller.holdsExclusive then caller else .Idle)
          s.controlSocketCommandConnection s.connections.length := by
        rw [hafter]
        exact hsettled
      exact single_inside (others_outside h (hholds hcaller rfl)) rfl hwriter hfreed

theorem single_create {succeeds : Bool} (h : Single s)
    (hstep : create s thread succeeds = some t) : Single t := by
  unfold create at hstep
  cases hcaller : s.callers thread with
  | Creating call =>
      have hholds : (s.callers thread).holdsExclusive = true := by
        rw [hcaller]
        rfl
      have hothers := others_outside h hholds
      have hsettled := settled_holder h hcaller rfl
      have hheld := (h.exclusive thread).mp hholds
      cases succeeds with
      | true =>
          simp only [hcaller, if_true, Option.some.injEq] at hstep
          subst hstep
          refine single_inside hothers rfl hheld ⟨hsettled.1, ?_⟩
          simp [hsettled.2]
      | false =>
          simp only [hcaller, Bool.false_eq_true, if_false, Option.some.injEq] at hstep
          subst hstep
          refine single_inside hothers rfl hheld ?_
          change s.connections.length = Option.elim s.controlSocketCommandConnection 0 fun _ => 1
          rw [hsettled.1, hsettled.2]
          rfl
  | _ => simp [hcaller] at hstep

end Single

section Fifo

-- What is on the way are the calls sent last, in the order in which they were sent.
structure Fifo (connection : ControlSocketConnection) : Prop where
  bound : connection.received ≤ connection.sent.length
  order : connection.replies.map Datagram.call ++ connection.requests =
    connection.sent.drop connection.received

variable {connection : ControlSocketConnection}

theorem fifo_established : Fifo .established := ⟨Nat.le_refl 0, rfl⟩

theorem fifo_send (h : Fifo connection) (call : Call) : Fifo (connection.send call) where
  bound := by
    have hbound := h.bound
    simp only [ControlSocketConnection.send, List.length_append, List.length_singleton]
    omega
  order := by
    simp only [ControlSocketConnection.send]
    rw [← List.append_assoc, h.order, List.drop_append_of_le_length h.bound]

theorem fifo_answer (h : Fifo connection) (payload : ByteString) :
    Fifo (connection.answer payload) := by
  unfold ControlSocketConnection.answer
  cases hrequests : connection.requests with
  | nil => exact h
  | cons call requests =>
      refine ⟨h.bound, ?_⟩
      have horder := h.order
      rw [hrequests] at horder
      simpa using horder

theorem sent_received (h : Fifo connection) {datagram : Datagram}
    (hnext : connection.replies.head? = some datagram) :
    connection.sent[connection.received]? = some datagram.call := by
  obtain ⟨rest, hreplies⟩ := List.head?_eq_some_iff.mp hnext
  have horder := h.order
  rw [hreplies, List.map_cons, List.cons_append] at horder
  rw [← List.head?_drop, ← horder]
  rfl

theorem fifo_receive (h : Fifo connection) {datagram : Datagram}
    (hnext : connection.replies.head? = some datagram) : Fifo connection.receive := by
  have hsent := sent_received h hnext
  obtain ⟨rest, hreplies⟩ := List.head?_eq_some_iff.mp hnext
  have hlt := (List.getElem?_eq_some_iff.mp hsent).1
  have horder := h.order
  rw [hreplies, List.map_cons, List.cons_append] at horder
  refine ⟨hlt, ?_⟩
  simp only [ControlSocketConnection.receive, hreplies, List.tail_cons]
  rw [← List.tail_drop, ← horder, List.tail_cons]

-- Only the connection that a step is about changes.
theorem fifo_modify {connections : List ControlSocketConnection} {index : Nat}
    {change : ControlSocketConnection → ControlSocketConnection}
    (h : ∀ connection ∈ connections, Fifo connection)
    (hchange : ∀ connection, connections[index]? = some connection → Fifo connection →
      Fifo (change connection)) :
    ∀ connection ∈ connections.modify index change, Fifo connection := by
  intro changed hmem
  obtain ⟨position, hposition⟩ := List.mem_iff_getElem?.mp hmem
  rw [List.getElem?_modify] at hposition
  obtain ⟨connection, hconnection, hchanged⟩ := Option.map_eq_some_iff.mp hposition
  have hfifo := h connection (List.mem_of_getElem? hconnection)
  by_cases hindex : index = position
  · rw [if_pos hindex] at hchanged
    subst hindex hchanged
    exact hchange connection hconnection hfifo
  · rw [if_neg hindex] at hchanged
    subst hchanged
    exact hfifo

end Fifo

section Answers

variable (platform : Platform)

-- Every call that returned an answer returned the one to its own command.
def OwnAnswers (s : State) : Prop := ∀ entry ∈ s.returned, entry.2.call = entry.1

-- An answer that is returned is received by the call whose command was sent first,
-- of those that no answer has been received for.
def inTurn (s : State) : Action → Bool
  | .Receive thread =>
      match s.next thread with
      | some (call, connection, datagram) =>
          !parses platform call.command datagram.payload ||
            (s.connections[connection]?).bind (fun socket => socket.sent[socket.received]?) =
              some call
      | none => true
  | _ => true

structure Inv (s : State) : Prop where
  single : Single s
  fifo : ∀ connection ∈ s.connections, Fifo connection

variable {platform} {s t : State} {thread : Nat}

theorem inv_initial : Inv initial := ⟨single_initial, nofun⟩

theorem advance_frame (hstep : advance s thread = some t) :
    t.connections = s.connections ∧ t.returned = s.returned := by
  cases advanced_of_advance hstep <;> exact ⟨rfl, rfl⟩

theorem next_eq {call : Call} {connection : Nat} {datagram : Datagram}
    (h : s.next thread = some (call, connection, datagram)) :
    s.callers thread = .Receiving call connection ∧
      ∃ socket, s.connections[connection]? = some socket ∧
        socket.replies.head? = some datagram := by
  unfold State.next at h
  split at h
  · rename_i waiting index hcaller
    obtain ⟨socket, hsocket, hreply⟩ := Option.bind_eq_some_iff.mp h
    obtain ⟨first, hfirst, heq⟩ := Option.map_eq_some_iff.mp hreply
    cases heq
    exact ⟨hcaller, socket, hsocket, hfirst⟩
  · cases h

theorem inv_send {succeeds : Bool} (h : Inv s) (hstep : send s thread succeeds = some t) :
    Inv t := by
  unfold send at hstep
  split at hstep
  · rename_i call connection hcaller
    have houtside : (s.callers thread).holdsExclusive = false := by
      rw [hcaller]
      rfl
    cases succeeds with
    | true =>
        cases hstep
        refine ⟨single_outside h.single houtside rfl rfl rfl rfl ?_, ?_⟩
        · exact List.length_modify _ _ _
        · exact fifo_modify h.fifo fun socket _ hsocket => fifo_send hsocket call
    | false =>
        cases hstep
        exact ⟨single_outside h.single houtside rfl rfl rfl rfl rfl, h.fifo⟩
  · cases hstep

theorem inv_receive (h : Inv s) (hstep : receive platform s thread = some t) : Inv t := by
  obtain ⟨⟨call, connection, datagram⟩, hnext, ht⟩ := Option.map_eq_some_iff.mp hstep
  obtain ⟨hcaller, socket, hsocket, hreply⟩ := next_eq hnext
  have houtside : (s.callers thread).holdsExclusive = false := by
    rw [hcaller]
    rfl
  cases ht
  refine ⟨single_outside h.single houtside rfl rfl rfl rfl ?_, ?_⟩
  · exact List.length_modify _ _ _
  · apply fifo_modify h.fifo
    intro other hother hfifo
    obtain rfl := Option.some.inj (hsocket.symm.trans hother)
    exact fifo_receive hfifo hreply

theorem inv_step (s : State) (action : Action) (t : State) (h : Inv s)
    (hstep : step platform s action = some t) : Inv t := by
  cases action with
  | Begin thread command =>
      obtain ⟨hidle, ht⟩ := Option.ite_none_right_eq_some.mp hstep
      have houtside : (s.callers thread).holdsExclusive = false := by
        rw [hidle]
        rfl
      cases ht
      exact ⟨single_outside h.single houtside rfl rfl rfl rfl rfl, h.fifo⟩
  | Advance thread =>
      have hframe := advance_frame hstep
      exact ⟨single_advance h.single hstep, by rw [hframe.1]; exact h.fifo⟩
  | Create thread succeeds =>
      refine ⟨single_create h.single hstep, ?_⟩
      change create s thread succeeds = some t at hstep
      unfold create at hstep
      split at hstep
      · split_ifs at hstep
        · cases hstep
          rw [List.forall_mem_append, List.forall_mem_singleton]
          exact ⟨h.fifo, fifo_established⟩
        · cases hstep
          exact h.fifo
      · cases hstep
  | Send thread succeeds => exact inv_send h hstep
  | Receive thread => exact inv_receive h hstep
  | GiveUp thread =>
      change giveUp s thread = some t at hstep
      unfold giveUp at hstep
      split at hstep
      · rename_i call connection hcaller
        have houtside : (s.callers thread).holdsExclusive = false := by
          rw [hcaller]
          rfl
        cases hstep
        exact ⟨single_outside h.single houtside rfl rfl rfl rfl rfl, h.fifo⟩
      · cases hstep
  | Answer connection payload =>
      cases hstep
      refine ⟨⟨h.single.exclusive, ?_⟩, ?_⟩
      · have hlength : (s.connections.modify connection (·.answer payload)).length =
            s.connections.length := List.length_modify _ _ _
        have hsettled := h.single.settled
        rw [← hlength] at hsettled
        exact hsettled
      · exact fifo_modify h.fifo fun socket _ hsocket => fifo_answer hsocket payload

-- No other step returns an answer.
theorem returned_step {action : Action} (haction : ∀ thread, action ≠ .Receive thread)
    (hstep : step platform s action = some t) : t.returned = s.returned := by
  cases action with
  | Begin thread command =>
      obtain ⟨_, ht⟩ := Option.ite_none_right_eq_some.mp hstep
      cases ht
      rfl
  | Advance thread => exact (advance_frame hstep).2
  | Create thread succeeds =>
      change create s thread succeeds = some t at hstep
      unfold create at hstep
      split at hstep
      · split_ifs at hstep <;> cases hstep <;> rfl
      · cases hstep
  | Send thread succeeds =>
      change send s thread succeeds = some t at hstep
      unfold send at hstep
      split at hstep
      · split_ifs at hstep <;> cases hstep <;> rfl
      · cases hstep
  | Receive thread => exact absurd rfl (haction thread)
  | GiveUp thread =>
      change giveUp s thread = some t at hstep
      unfold giveUp at hstep
      split at hstep
      · cases hstep
        rfl
      · cases hstep
  | Answer connection payload =>
      cases hstep
      rfl

-- The connection is a queue, so that what a thread receives is the answer to the
-- command that was sent first.
theorem ownAnswers_receive (h : Inv s) (hstep : receive platform s thread = some t) :
    OwnAnswers t ↔ OwnAnswers s ∧ inTurn platform s (.Receive thread) = true := by
  obtain ⟨⟨call, connection, datagram⟩, hnext, ht⟩ := Option.map_eq_some_iff.mp hstep
  obtain ⟨_, socket, hsocket, hreply⟩ := next_eq hnext
  have hsent := sent_received (h.fifo socket (List.mem_of_getElem? hsocket)) hreply
  have hturn : inTurn platform s (.Receive thread) = true ↔
      (parses platform call.command datagram.payload = true → datagram.call = call) := by
    simp only [inTurn, hnext, hsocket, Option.bind_some, hsent, Option.some.injEq,
      Bool.or_eq_true, Bool.not_eq_true', decide_eq_true_eq]
    cases parses platform call.command datagram.payload <;> simp
  rw [hturn]
  cases ht
  unfold OwnAnswers
  by_cases hparses : parses platform call.command datagram.payload = true
  · simp only [hparses, if_true, List.forall_mem_append, List.forall_mem_singleton,
      forall_const]
  · simp only [hparses, Bool.false_eq_true, if_false, false_implies, and_true]

theorem ownAnswers_step (s : State) (action : Action) (t : State) (h : Inv s)
    (hstep : step platform s action = some t) :
    OwnAnswers t ↔ OwnAnswers s ∧ inTurn platform s action = true := by
  have hother (haction : ∀ thread, action ≠ .Receive thread)
      (hturn : inTurn platform s action = true) :
      OwnAnswers t ↔ OwnAnswers s ∧ inTurn platform s action = true := by
    unfold OwnAnswers
    rw [returned_step haction hstep]
    exact (and_iff_left hturn).symm
  cases action with
  | Receive thread => exact ownAnswers_receive h hstep
  | Begin thread command => exact hother nofun rfl
  | Advance thread => exact hother nofun rfl
  | Create thread succeeds => exact hother nofun rfl
  | Send thread succeeds => exact hother nofun rfl
  | GiveUp thread => exact hother nofun rfl
  | Answer connection payload => exact hother nofun rfl

-- There is never a second connection, but the calls share it.
theorem sendCommand_ownAnswers_iff (platform : Platform) (actions : List Action) (s : State)
    (hrun : run (step platform) initial actions = some s) :
    s.connections.length ≤ 1 ∧
      (OwnAnswers s ↔
        HoldsAlong (step platform) (fun s action => inTurn platform s action = true) initial
          actions) := by
  have hinv := invariant_always inv_step inv_initial hrun
  refine ⟨established_le_one hinv.single, ?_⟩
  rw [safe_iff_of_step inv_step ownAnswers_step inv_initial hrun]
  exact and_iff_right nofun

instance (s : State) : Decidable (OwnAnswers s) :=
  inferInstanceAs (Decidable (∀ entry ∈ s.returned, entry.2.call = entry.1))

-- Two calls, the first of which establishes the connection, are about to send.
def bothConnected : List Action :=
  [.Begin 0 .Ping, .Begin 1 .Reload] ++ List.replicate 5 (.Advance 0) ++ [.Create 0 true] ++
    List.replicate 2 (.Advance 0) ++ List.replicate 3 (.Advance 1)

def inOrder : List Action :=
  bothConnected ++ [.Send 0 true, .Send 1 true, .Answer 0 (str "PONG"), .Answer 0 (str "OK"),
    .Receive 0, .Receive 1]

theorem sendCommand_ownAnswers_in_order :
    ∃ s, run (step ⟨default, default, default, 0⟩) initial inOrder = some s ∧ OwnAnswers s :=
  ⟨_, rfl, ((sendCommand_ownAnswers_iff ⟨default, default, default, 0⟩ inOrder _ rfl).2).mpr
    (by decide +kernel)⟩

def crossed : List Action :=
  bothConnected ++ [.Send 0 true, .Send 1 true, .Answer 0 (str "PONG"), .Answer 0 (str "OK"),
    .Receive 1, .Receive 0]

-- Each of the two calls returns the answer to the other.
theorem sendCommand_crosses_answers :
    ∃ s, run (step ⟨default, default, default, 0⟩) initial crossed = some s ∧
      s.returned = [(⟨1, .Reload⟩, ⟨⟨0, .Ping⟩, str "PONG"⟩),
        (⟨0, .Ping⟩, ⟨⟨1, .Reload⟩, str "OK"⟩)] ∧ ¬ OwnAnswers s :=
  ⟨_, rfl, rfl, by decide⟩

end Answers

end NetRemote.Wpa.WpaController
