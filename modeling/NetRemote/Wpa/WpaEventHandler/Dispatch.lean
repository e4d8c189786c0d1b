import NetRemote.Foundation.Transition
import NetRemote.Wpa.WpaEvent
import NetRemote.Wpa.WpaEventHandler.Registrations

namespace NetRemote.Wpa.Dispatch

open Foundation Foundation.Bytes Registrations

structure WpaEventArgs where
  timestamp : Nat
  event : WpaEvent
  deriving DecidableEq, Repr

abbrev Registration (Listener : Type) := WpaEventListenerRegistrationToken × Listener

-- Where the listener thread stands: `Received` waits for the gate, and `Firing` is in
-- the callback of a listener that its shared pointer keeps alive.
inductive Thread (Listener : Type) where
  | Draining
  | Received (wpaEventArgs : WpaEventArgs)
  | Delivering (wpaEventArgs : WpaEventArgs)
      (eventListeners : List (Registration Listener))
      (expired : List WpaEventListenerRegistrationToken)
  | Firing (wpaEventArgs : WpaEventArgs) (eventListener : Listener)
      (eventListeners : List (Registration Listener))
      (expired : List WpaEventListenerRegistrationToken)
  | Cleaning (expired : List WpaEventListenerRegistrationToken)
  deriving DecidableEq, Repr

structure State (Listener : Type) where
  wpaType : WpaType
  registrations : Registrations.State Listener
  expired : List Listener
  thread : Thread Listener

variable {Listener : Type}

def initial (wpaType : WpaType) : State Listener where
  wpaType := wpaType
  registrations := {}
  expired := []
  thread := .Draining

-- What can happen next: a call of another thread, the end of a listener, what the control
-- socket hands out, the order in which the copy will be gone through, and the listener
-- thread's own next step.
inductive Action (Listener : Type) where
  | Call (call : Call Listener)
  | Expire (wpaEventListener : Listener)
  | Receive (timestamp : Nat) (received : Option ByteString)
  | Copy (order : List (Registration Listener))
  | Advance
  deriving DecidableEq, Repr

-- An event that is not received, or that is not parsed, is dropped.
def receive (s : State Listener) (timestamp : Nat) (received : Option ByteString) :
    Option (State Listener) :=
  match s.thread with
  | .Draining =>
      match received.bind WpaEvent.parse with
      | none => some s
      | some wpaEvent =>
          some { s with thread := .Received ⟨timestamp, { wpaEvent with source := s.wpaType }⟩ }
  | _ => none

def copy [DecidableEq Listener] (s : State Listener)
    (order : List (Registration Listener)) : Option (State Listener) :=
  match s.thread with
  | .Received wpaEventArgs =>
      if order.Perm s.registrations.eventListeners.pairs then
        some { s with thread := .Delivering wpaEventArgs order [] }
      else none
  | _ => none

def removeExpired (s : Registrations.State Listener)
    (expired : List WpaEventListenerRegistrationToken) : Registrations.State Listener :=
  let eventListeners := expired.foldl
    (fun (eventListeners : Table _ Listener) token => eventListeners.erase token) s.eventListeners
  { s with eventListeners := eventListeners }

def advance [DecidableEq Listener] (s : State Listener) : Option (State Listener) :=
  match s.thread with
  | .Delivering wpaEventArgs ((token, eventListener) :: eventListeners) expired =>
      if eventListener ∈ s.expired then
        some { s with thread := .Delivering wpaEventArgs eventListeners (expired ++ [token]) }
      else
        some { s with thread := .Firing wpaEventArgs eventListener eventListeners expired }
  | .Delivering _ [] expired =>
      some { s with thread := if expired = [] then .Draining else .Cleaning expired }
  | .Firing wpaEventArgs _ eventListeners expired =>
      some { s with thread := .Delivering wpaEventArgs eventListeners expired }
  | .Cleaning expired =>
      some { s with
        registrations := removeExpired s.registrations expired
        thread := .Draining }
  | .Draining | .Received _ => none

-- The listener that a callback keeps alive.
def Thread.held : Thread Listener → Option Listener
  | .Firing _ eventListener _ _ => some eventListener
  | _ => none

def step [DecidableEq Listener] (s : State Listener) : Action Listener → Option (State Listener)
  | .Call call => some { s with registrations := perform s.registrations call }
  | .Expire wpaEventListener =>
      if s.thread.held = some wpaEventListener then none
      else some { s with expired := wpaEventListener :: s.expired }
  | .Receive timestamp received => receive s timestamp received
  | .Copy order => copy s order
  | .Advance => advance s

end NetRemote.Wpa.Dispatch
