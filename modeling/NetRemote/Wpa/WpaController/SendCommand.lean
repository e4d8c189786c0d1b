import Mathlib.Logic.Function.Basic
import NetRemote.Foundation.Transition
import NetRemote.Wpa.Hostapd

namespace NetRemote.Wpa.WpaController

open Foundation Foundation.Bytes

-- One call of `SendCommand`. The number tells it from other calls with the same
-- command.
structure Call where
  number : Nat
  command : WpaCommand
  deriving DecidableEq, Repr

-- An answer of hostapd with the call that it is the answer to.
structure Datagram where
  call : Call
  payload : ByteString
  deriving DecidableEq, Repr

-- A control socket connection. Hostapd answers the `requests` in order, and the
-- `replies` lie in the socket until they are received.
structure ControlSocketConnection where
  sent : List Call
  received : Nat
  requests : List Call
  replies : List Datagram
  deriving DecidableEq, Repr

namespace ControlSocketConnection

def established : ControlSocketConnection := ⟨[], 0, [], []⟩

def send (connection : ControlSocketConnection) (call : Call) : ControlSocketConnection :=
  { connection with
    sent := connection.sent ++ [call]
    requests := connection.requests ++ [call] }

def answer (connection : ControlSocketConnection) (payload : ByteString) :
    ControlSocketConnection :=
  match connection.requests with
  | [] => connection
  | call :: requests =>
      { connection with requests := requests, replies := connection.replies ++ [⟨call, payload⟩] }

def receive (connection : ControlSocketConnection) : ControlSocketConnection :=
  { connection with received := connection.received + 1, replies := connection.replies.tail }

end ControlSocketConnection

-- Where a thread stands in `SendCommand`. A connection is known by the number of
-- those that were established before it.
inductive Caller where
  | Idle
  | LockingShared (call : Call)
  | CheckingShared (call : Call)
  | UnlockingShared (call : Call) (connection : Option Nat)
  | LockingExclusive (call : Call)
  | CheckingExclusive (call : Call)
  | Creating (call : Call)
  | Publishing (call : Call) (connection : Nat)
  | UnlockingExclusive (call : Call) (connection : Option Nat)
  | Sending (call : Call) (connection : Nat)
  | Receiving (call : Call) (connection : Nat)
  deriving DecidableEq, Repr

def Caller.holdsExclusive : Caller → Bool
  | .CheckingExclusive _ | .Creating _ | .Publishing _ _ | .UnlockingExclusive _ _ => true
  | _ => false

-- The gate is a lock that any number of readers hold, or one writer. The calls that
-- have succeeded are kept with the answers they returned.
structure State where
  callers : Nat → Caller
  begun : Nat
  gateReaders : Nat
  gateWriter : Option Nat
  controlSocketCommandConnection : Option Nat
  connections : List ControlSocketConnection
  returned : List (Call × Datagram)

def initial : State := ⟨fun _ => .Idle, 0, 0, none, none, [], []⟩

inductive Action where
  | Begin (thread : Nat) (command : WpaCommand)
  | Advance (thread : Nat)
  | Create (thread : Nat) (succeeds : Bool)
  | Send (thread : Nat) (succeeds : Bool)
  | Receive (thread : Nat)
  | GiveUp (thread : Nat)
  | Answer (connection : Nat) (payload : ByteString)
  deriving DecidableEq, Repr

def State.moved (s : State) (thread : Nat) (caller : Caller) : State :=
  { s with callers := Function.update s.callers thread caller }

def State.changed (s : State) (connection : Nat)
    (change : ControlSocketConnection → ControlSocketConnection) : State :=
  { s with connections := s.connections.modify connection change }

-- The steps of `GetCommandControlSocketConnection` at which a thread has no choice.
def advance (s : State) (thread : Nat) : Option State :=
  match s.callers thread with
  | .LockingShared call =>
      if s.gateWriter = none then
        some { s.moved thread (.CheckingShared call) with gateReaders := s.gateReaders + 1 }
      else none
  | .CheckingShared call =>
      some (s.moved thread (.UnlockingShared call s.controlSocketCommandConnection))
  | .UnlockingShared call none =>
      some { s.moved thread (.LockingExclusive call) with gateReaders := s.gateReaders - 1 }
  | .UnlockingShared call (some connection) =>
      some { s.moved thread (.Sending call connection) with gateReaders := s.gateReaders - 1 }
  | .LockingExclusive call =>
      if s.gateWriter = none ∧ s.gateReaders = 0 then
        some { s.moved thread (.CheckingExclusive call) with gateWriter := some thread }
      else none
  | .CheckingExclusive call =>
      match s.controlSocketCommandConnection with
      | none => some (s.moved thread (.Creating call))
      | some connection => some (s.moved thread (.UnlockingExclusive call (some connection)))
  | .Publishing call connection =>
      some { s.moved thread (.UnlockingExclusive call (some connection)) with
        controlSocketCommandConnection := some connection }
  | .UnlockingExclusive _ none => some { s.moved thread .Idle with gateWriter := none }
  | .UnlockingExclusive call (some connection) =>
      some { s.moved thread (.Sending call connection) with gateWriter := none }
  | _ => none

-- `WpaControlSocketConnection::TryCreate` under the exclusive lock.
def create (s : State) (thread : Nat) (succeeds : Bool) : Option State :=
  match s.callers thread with
  | .Creating call =>
      if succeeds then
        some { s.moved thread (.Publishing call s.connections.length) with
          connections := s.connections ++ [.established] }
      else some (s.moved thread (.UnlockingExclusive call none))
  | _ => none

-- The two halves of `wpa_ctrl_request`. A request that fails or times out leaves
-- its answer, if there comes one, in the socket.
def send (s : State) (thread : Nat) (succeeds : Bool) : Option State :=
  match s.callers thread with
  | .Sending call connection =>
      if succeeds then
        some ((s.moved thread (.Receiving call connection)).changed connection (·.send call))
      else some (s.moved thread .Idle)
  | _ => none

def giveUp (s : State) (thread : Nat) : Option State :=
  match s.callers thread with
  | .Receiving _ _ => some (s.moved thread .Idle)
  | _ => none

variable (platform : Platform)

-- Whether `ParseResponse` gives a response.
def parses (command : WpaCommand) (payload : ByteString) : Bool :=
  match command with
  | .Status =>
      match WpaStatusResponseParser.parse platform.bssCapacity platform.properties payload with
      | .ok response => response.isSome
      | .error _ => false
  | .GetConfig =>
      match WpaGetConfigResponseParser.parse platform.properties platform.uninitialized payload with
      | .ok response => response.isSome
      | .error _ => false
  | _ => true

-- The call that a thread waits for an answer to, and the answer that is next.
def State.next (s : State) (thread : Nat) : Option (Call × Nat × Datagram) :=
  match s.callers thread with
  | .Receiving call connection =>
      (s.connections[connection]?).bind fun socket =>
        socket.replies.head?.map fun datagram => (call, connection, datagram)
  | _ => none

def receive (s : State) (thread : Nat) : Option State :=
  (s.next thread).map fun (call, connection, datagram) =>
    { (s.moved thread .Idle).changed connection (·.receive) with
      returned :=
        if parses platform call.command datagram.payload then s.returned ++ [(call, datagram)]
        else s.returned }

def step (s : State) : Action → Option State
  | .Begin thread command =>
      if s.callers thread = .Idle then
        some { s.moved thread (.LockingShared ⟨s.begun, command⟩) with begun := s.begun + 1 }
      else none
  | .Advance thread => advance s thread
  | .Create thread succeeds => create s thread succeeds
  | .Send thread succeeds => send s thread succeeds
  | .Receive thread => receive platform s thread
  | .GiveUp thread => giveUp s thread
  | .Answer connection payload =>
      some (s.changed connection (·.answer payload))

end NetRemote.Wpa.WpaController
