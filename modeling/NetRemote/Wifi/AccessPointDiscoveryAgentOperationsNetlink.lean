import NetRemote.Netlink.Nl80211
import NetRemote.Wifi.AccessPointManager

namespace NetRemote.Wifi.AccessPointDiscoveryAgentOperationsNetlink

open Netlink

-- What the checks and `Nl80211Interface::Parse` find in a message.
structure NetlinkMessage where
  headerValid : Bool
  attributesValid : Bool
  cmd : UInt8
  nl80211Interface : Option Nl80211Interface

inductive CallbackAction where
  | NL_OK
  | NL_SKIP
  deriving DecidableEq, Repr

-- What is found out while a message is handled: how the kernel answers the lookup
-- of a wiphy, and whether the access point that is made has a controller.
structure Answers where
  fromIndex : UInt32 → Option Nl80211Wiphy
  object : Nat
  controllable : Bool

def makeAccessPoint (nl80211Interface : Nl80211Interface) (answers : Answers) : AccessPoint where
  interfaceName := nl80211Interface.name
  object := answers.object
  controllable := answers.controllable

-- The presence callback is that of the manager.
def processNetlinkMessage (accessPointManager : AccessPointManager)
    (netlinkMessage : NetlinkMessage) (answers : Answers) : CallbackAction × AccessPointManager :=
  if !netlinkMessage.headerValid then (.NL_SKIP, accessPointManager)
  else if !netlinkMessage.attributesValid then (.NL_SKIP, accessPointManager)
  else if netlinkMessage.cmd = NL80211_CMD_NEW_INTERFACE ∨
      netlinkMessage.cmd = NL80211_CMD_DEL_INTERFACE then
    let accessPointPresenceEvent : AccessPointPresenceEvent :=
      if netlinkMessage.cmd = NL80211_CMD_NEW_INTERFACE then .Arrived else .Departed
    match netlinkMessage.nl80211Interface with
    | none => (.NL_OK, accessPointManager)
    | some nl80211Interface =>
        if !nl80211Interface.supportsAccessPointMode answers.fromIndex then
          (.NL_OK, accessPointManager)
        else
          (.NL_OK, accessPointManager.onAccessPointPresenceChanged accessPointPresenceEvent
            (makeAccessPoint nl80211Interface answers))
  else (.NL_SKIP, accessPointManager)

-- The two descriptors that the loop waits on.
inductive Source where
  | EventLoopStop
  | NetlinkSocket
  deriving DecidableEq, Repr

-- Where `ProcessNetlinkMessagesThread` stands.
inductive Thread where
  | Starting
  | Created
  | Registered
  | Testing
  | Waiting
  | Handling (ready : List Source)
  | Closing
  | Clearing
  | Exited
  deriving DecidableEq, Repr

-- Where the caller of `Stop` stands.
inductive Stopper where
  | Idle
  | Checking
  | Signaling
  | Requesting
  | Joining
  | Stopped
  deriving DecidableEq, Repr

-- The member names the eventfd once it is published; the eventfd has a counter
-- while it is open.
structure State where
  thread : Thread
  stopper : Stopper
  eventLoopStopFdPublished : Bool
  eventLoopStop : Option Nat
  stopTokenRequested : Bool
  stopRequested : Bool
  pending : Nat
  deriving DecidableEq, Repr

-- `Start` has returned: the thread exists and has not run yet.
def initial (pending : Nat) : State := ⟨.Starting, .Idle, false, none, false, false, pending⟩

def State.counter (s : State) : Nat := s.eventLoopStop.getD 0

inductive Action where
  | Advance
  | Fail
  | Interrupt
  | Wake (ready : List Source)
  | Stop
  | Arrive
  deriving DecidableEq, Repr

def State.ready (s : State) : Source → Bool
  | .EventLoopStop => 0 < s.counter
  | .NetlinkSocket => 0 < s.pending

-- The counter of the eventfd is not read, and the netlink socket is read once.
def advance (s : State) : Option State :=
  match s.thread with
  | .Starting => some { s with thread := .Created, eventLoopStop := some 0 }
  | .Created => some { s with thread := .Registered }
  | .Registered => some { s with thread := .Testing, eventLoopStopFdPublished := true }
  | .Testing =>
      if s.stopTokenRequested || s.stopRequested then some { s with thread := .Closing }
      else some { s with thread := .Waiting }
  | .Waiting => none
  | .Handling [] => some { s with thread := .Testing }
  | .Handling (.NetlinkSocket :: ready) =>
      some { s with thread := .Handling ready, pending := s.pending - 1 }
  | .Handling (.EventLoopStop :: ready) =>
      some { s with thread := .Handling ready, stopRequested := true }
  | .Closing => some { s with thread := .Clearing, eventLoopStop := none }
  | .Clearing => some { s with thread := .Exited, eventLoopStopFdPublished := false }
  | .Exited => none

-- The calls before the loop can fail and the wait itself; past the eventfd the
-- scope guard closes it.
def fail (s : State) : Option State :=
  match s.thread with
  | .Starting => some { s with thread := .Exited }
  | .Created => some { s with thread := .Closing }
  | .Waiting => some { s with thread := .Closing }
  | _ => none

def interrupt (s : State) : Option State :=
  match s.thread with
  | .Waiting => some { s with thread := .Testing }
  | _ => none

-- `epoll_wait` without a timeout.
def wake (s : State) (ready : List Source) : Option State :=
  match s.thread with
  | .Waiting =>
      if ready ≠ [] ∧ ready.Nodup ∧ ∀ source ∈ ready, s.ready source then
        some { s with thread := .Handling ready }
      else none
  | _ => none

-- `Stop`, with the check and the write of `RequestNetlinkProcessingLoopStop`. A
-- write to a descriptor that was closed in between only logs an error.
def stop (s : State) : Option State :=
  match s.stopper with
  | .Idle => some { s with stopper := .Checking }
  | .Checking =>
      if s.eventLoopStopFdPublished then some { s with stopper := .Signaling }
      else some { s with stopper := .Requesting }
  | .Signaling =>
      some { s with stopper := .Requesting, eventLoopStop := s.eventLoopStop.map (· + 1) }
  | .Requesting => some { s with stopper := .Joining, stopTokenRequested := true }
  | .Joining => if s.thread = .Exited then some { s with stopper := .Stopped } else none
  | .Stopped => none

def step (s : State) : Action → Option State
  | .Advance => advance s
  | .Fail => fail s
  | .Interrupt => interrupt s
  | .Wake ready => wake s ready
  | .Stop => stop s
  | .Arrive => some { s with pending := s.pending + 1 }

-- `Stop` waits in `join` for a thread that waits itself, and nothing tells the
-- thread that it was asked to stop.
def Stuck (s : State) : Prop :=
  s.stopper = .Joining ∧ s.thread = .Waiting ∧ s.counter = 0 ∧ s.stopTokenRequested = true

end NetRemote.Wifi.AccessPointDiscoveryAgentOperationsNetlink
