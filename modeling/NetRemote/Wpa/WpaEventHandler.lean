import NetRemote.Foundation.Transition

namespace NetRemote.Wpa.WpaEventHandler

abbrev WpaEventListenerRegistrationToken := Nat

def EventFdStopRequestValue : Nat := 1

-- The two descriptors that the listener thread waits on.
inductive Source where
  | EventFdStop
  | WpaSocket
  deriving DecidableEq, Repr

-- Where the listener thread stands in `ProcessEvents` and `ProcessNextEvent`;
-- `entries` are the slots of the epoll array it has still to look at.
inductive Listener where
  | Starting
  | Published
  | Testing
  | Waiting
  | Handling (entries : List Source)
  | Draining (entries : List Source)
  | Snapshotting (entries : List Source)
  | Copying (entries : List Source)
  | Delivering (entries : List Source)
      (snapshot expired : List WpaEventListenerRegistrationToken)
  | Locking (entries : List Source) (expired : List WpaEventListenerRegistrationToken)
  | Erasing (entries : List Source) (expired : List WpaEventListenerRegistrationToken)
  | Closing
  | Exited
  deriving DecidableEq, Repr

-- Where the caller of `StopListening` stands.
inductive Stopper where
  | Idle
  | Checking
  | Signaling
  | Requesting
  | Joining
  | Stopped
  deriving DecidableEq, Repr

-- `StopListening` keeps the shared lock until it has joined the thread; the
-- listener thread takes it exclusively to erase.
def Stopper.holdsShared : Stopper → Bool
  | .Checking | .Signaling | .Requesting | .Joining => true
  | .Idle | .Stopped => false

def Listener.holdsExclusive : Listener → Bool
  | .Erasing _ _ => true
  | _ => false

-- `eventFdStop` is `none` while the member is -1, otherwise the counter of the
-- eventfd; `secondSlot` is the slot of the epoll array that a single event
-- leaves as it was. The read and the parse of an event are the environment's choice.
structure State where
  listener : Listener
  stopper : Stopper
  eventFdStop : Option Nat
  stopTokenRequested : Bool
  stopRequested : Bool
  secondSlot : Source
  pending : Nat
  eventListeners : List WpaEventListenerRegistrationToken
  expired : List WpaEventListenerRegistrationToken
  deriving DecidableEq, Repr

-- `StartListening` has returned: the thread exists and has not run yet.
def initial (eventListeners expired : List WpaEventListenerRegistrationToken) (pending : Nat) :
    State where
  listener := .Starting
  stopper := .Idle
  eventFdStop := none
  stopTokenRequested := false
  stopRequested := false
  secondSlot := .WpaSocket
  pending := pending
  eventListeners := eventListeners
  expired := expired

inductive Received where
  | Failed
  | Unparsed
  | Parsed
  deriving DecidableEq, Repr

inductive ListenerAction where
  | Advance
  | Fail
  | Wake (fresh : List Source)
  | Receive (received : Received)
  deriving DecidableEq, Repr

inductive Action where
  | Listen (action : ListenerAction)
  | Stop
  | Arrive
  | Interrupt
  | Expire (token : WpaEventListenerRegistrationToken)
  deriving DecidableEq, Repr

def State.counter (s : State) : Nat := s.eventFdStop.getD 0

def State.ready (s : State) : Source → Bool
  | .EventFdStop => 0 < s.counter
  | .WpaSocket => 0 < s.pending

-- The steps at which the listener thread has no choice.
def advance (s : State) : Option State :=
  match s.listener with
  | .Starting => some { s with listener := .Published, eventFdStop := some 0 }
  | .Published => some { s with listener := .Testing }
  | .Testing =>
      if s.stopTokenRequested || s.stopRequested then some { s with listener := .Closing }
      else some { s with listener := .Waiting }
  | .Waiting => none
  | .Handling [] => some { s with listener := .Testing }
  | .Handling (.EventFdStop :: entries) =>
      -- The read of an eventfd blocks while its counter is zero.
      if s.counter = 0 then none
      else if s.counter = EventFdStopRequestValue then
        some { s with listener := .Testing, eventFdStop := some 0, stopRequested := true }
      else some { s with listener := .Handling entries, eventFdStop := some 0 }
  | .Handling (.WpaSocket :: entries) => some { s with listener := .Draining entries }
  | .Draining entries =>
      if 0 < s.pending then none else some { s with listener := .Handling entries }
  | .Snapshotting entries => some { s with listener := .Copying entries }
  | .Copying entries => some { s with listener := .Delivering entries s.eventListeners [] }
  | .Delivering entries (token :: snapshot) expired =>
      if token ∈ s.expired then
        some { s with listener := .Delivering entries snapshot (expired ++ [token]) }
      else some { s with listener := .Delivering entries snapshot expired }
  | .Delivering entries [] [] => some { s with listener := .Draining entries }
  | .Delivering entries [] expired => some { s with listener := .Locking entries expired }
  | .Locking entries expired =>
      if s.stopper.holdsShared then none else some { s with listener := .Erasing entries expired }
  | .Erasing entries expired =>
      some { s with
        listener := .Draining entries
        eventListeners := s.eventListeners.filter (· ∉ expired) }
  | .Closing => some { s with listener := .Exited, eventFdStop := none }
  | .Exited => none

-- Any call of the set-up may fail; past the eventfd the scope guards run.
def fail (s : State) : Option State :=
  match s.listener with
  | .Starting => some { s with listener := .Exited }
  | .Published => some { s with listener := .Closing }
  | _ => none

-- `epoll_wait` fills the first slots; the loop then looks at both slots,
-- whether they were filled by this call or not.
def wake (s : State) (fresh : List Source) : Option State :=
  match s.listener, fresh with
  | .Waiting, [first] =>
      if s.ready first then some { s with listener := .Handling [first, s.secondSlot] }
      else none
  | .Waiting, [first, second] =>
      if first ≠ second ∧ s.ready first ∧ s.ready second then
        some { s with listener := .Handling [first, second], secondSlot := second }
      else none
  | _, _ => none

def receive (s : State) (received : Received) : Option State :=
  match s.listener with
  | .Draining entries =>
      if 0 < s.pending then
        match received with
        | .Failed => some s
        | .Unparsed => some { s with pending := s.pending - 1 }
        | .Parsed => some { s with pending := s.pending - 1, listener := .Snapshotting entries }
      else none
  | _ => none

def listenerStep (s : State) : ListenerAction → Option State
  | .Advance => advance s
  | .Fail => fail s
  | .Wake fresh => wake s fresh
  | .Receive received => receive s received

-- `StopListening`: the descriptor is read once for the check and once for the
-- write, and a write to a descriptor closed in between only logs an error.
def stopListening (s : State) : Option State :=
  match s.stopper with
  | .Idle => if s.listener.holdsExclusive then none else some { s with stopper := .Checking }
  | .Checking =>
      if s.eventFdStop.isSome then some { s with stopper := .Signaling }
      else some { s with stopper := .Requesting }
  | .Signaling =>
      some { s with
        stopper := .Requesting
        eventFdStop := s.eventFdStop.map (· + EventFdStopRequestValue) }
  | .Requesting => some { s with stopper := .Joining, stopTokenRequested := true }
  | .Joining => if s.listener = .Exited then some { s with stopper := .Stopped } else none
  | .Stopped => none

def step (s : State) : Action → Option State
  | .Listen action => listenerStep s action
  | .Stop => stopListening s
  | .Arrive => some { s with pending := s.pending + 1 }
  | .Interrupt => if s.listener = .Waiting then some { s with listener := .Testing } else none
  | .Expire token => some { s with expired := token :: s.expired }

-- `StopListening` waits in `join` and the thread cannot move by itself.
def Stuck (s : State) : Prop :=
  s.stopper = .Joining ∧ s.listener ≠ .Exited ∧ ∀ action, listenerStep s action = none

end NetRemote.Wpa.WpaEventHandler
