import NetRemote.Netlink.NetlinkOperations.Tidy

namespace NetRemote.Netlink

open Foundation Foundation.Bytes Foundation.Resources

-- The two classes, each of which owns what it wraps.
inductive NetlinkClass where
  | Socket
  | Message
  deriving DecidableEq, Repr

namespace NetlinkClass

def allocate : NetlinkClass → NetlinkAction Pointer
  | Socket => do
      let netlinkSocket ← NetlinkSocket.allocate
      return netlinkSocket.socket
  | Message => do
      let netlinkMessage ← NetlinkMessage.allocate
      return netlinkMessage.message

def free : NetlinkClass → Nat → NetlinkAction Unit
  | Socket => NetlinkSocket.free
  | Message => NetlinkMessage.free

def handle : NetlinkClass → Nat → Handle
  | Socket => .Socket
  | Message => .Message

theorem handle_injective (netlinkClass : NetlinkClass) :
    Function.Injective netlinkClass.handle := by
  intro address other h
  cases netlinkClass with
  | Socket => exact Handle.Socket.inj h
  | Message => exact Handle.Message.inj h

theorem gives_allocate {needed : Finset Handle} (netlinkClass : NetlinkClass) :
    libraryResources.Gives needed (fun pointer => pointer.map netlinkClass.handle)
      netlinkClass.allocate := by
  cases netlinkClass with
  | Socket => exact gives_checked gives_allocateSocket fun _ => .inl ⟨_, rfl, rfl⟩
  | Message => exact gives_checked gives_allocateMessage fun _ => .inl ⟨_, rfl, rfl⟩

theorem frees_free (netlinkClass : NetlinkClass) (address : Nat) :
    libraryResources.Frees (some (netlinkClass.handle address)) (netlinkClass.free address) := by
  cases netlinkClass with
  | Socket =>
      exact frees_call (.NlSocketFree (some address)) (fun _ => rfl) (by simp [used, released])
  | Message =>
      exact frees_call (.NlmsgFree (some address)) (fun _ => rfl) (by simp [used, released])

def performAll (netlinkClass : NetlinkClass) (operations : List UniquePointer.Operation) :
    NetlinkAction UniquePointer.Objects :=
  UniquePointer.performAll netlinkClass.allocate netlinkClass.free .initial operations

theorem leaves_performAll (netlinkClass : NetlinkClass)
    (operations : List UniquePointer.Operation) :
    libraryResources.Leaves
      (fun objects now => Shared now (UniquePointer.owned netlinkClass.handle objects))
      (fun _ _ => False) (netlinkClass.performAll operations) ∅ := by
  apply UniquePointer.leaves_performAll netlinkClass.handle_injective netlinkClass.gives_allocate
    netlinkClass.frees_free
  constructor
  · simp [UniquePointer.owned_initial]
  · simp [UniquePointer.owned_initial]

end NetlinkClass

-- Whatever the threads do with their objects, no socket and no message is freed twice, and
-- all that is allocated has one owner until it is freed, which is an object or a caller to
-- whom it was released.
theorem netlinkObjects_owned {ι : Type} [DecidableEq ι] (classes : ι → NetlinkClass)
    (operations : ι → List UniquePointer.Operation) (traces : ι → List Library.Exchange)
    (outcomes : ι → Except NetlinkFault UniquePointer.Objects)
    (hruns : ∀ thread,
      ((classes thread).performAll (operations thread)).Runs (traces thread) (outcomes thread))
    (merged : List (ι × Library.Exchange)) (hmerged : Interleaving traces merged)
    (hfresh : libraryResources.Fresh ∅ (merged.map Prod.snd)) :
    libraryResources.Valid ∅ (merged.map Prod.snd) ∧ ∃ objects : ι → UniquePointer.Objects,
      (∀ thread, outcomes thread = .ok (objects thread)) ∧
      Shared (libraryResources.heldAfter ∅ (merged.map Prod.snd))
        (fun who : ι × Option Nat =>
          UniquePointer.owned (classes who.1).handle (objects who.1) who.2) ∧
      ((∀ thread, objects thread = .initial) →
        libraryResources.heldAfter ∅ (merged.map Prod.snd) = ∅) := by
  have hnone : Shared (∅ : Finset Handle) fun _ : ι => (∅ : Finset Handle) := ⟨by simp, by simp⟩
  obtain ⟨hvalid, left, hleft, hended⟩ := valid_interleaving
    (fun thread => (classes thread).leaves_performAll (operations thread)) hruns hmerged hnone
    hfresh
  have hobjects (thread : ι) : ∃ objects, outcomes thread = .ok objects ∧
      Shared (left thread) (UniquePointer.owned (classes thread).handle objects) := by
    have hthread := hended thread
    cases houtcome : outcomes thread with
    | error fault =>
        rw [houtcome] at hthread
        exact hthread.elim
    | ok objects =>
        rw [houtcome] at hthread
        exact ⟨objects, rfl, hthread⟩
  choose objects houtcomes hshared using hobjects
  have hall := shared_nested hleft hshared
  refine ⟨hvalid, objects, houtcomes, hall, fun hinitial => hall.eq_empty fun who => ?_⟩
  rw [hinitial who.1]
  exact UniquePointer.owned_initial who.2

-- A socket is replaced, assigned to itself, released and adopted again, while another thread
-- moves a message.
def movesOf : Bool → List UniquePointer.Operation
  | true => [.Allocate 0, .Allocate 1, .MoveAssign 1 0, .MoveAssign 1 1, .Release 1, .Adopt 2 100,
      .MoveConstruct 3 2, .Destroy 3]
  | false => [.Allocate 0, .Construct 1, .MoveAssign 1 0, .Destroy 0]

def movedClasses : Bool → NetlinkClass
  | true => .Socket
  | false => .Message

def movesRun (thread : Bool) : List Library.Exchange × Except NetlinkFault UniquePointer.Objects :=
  ((movedClasses thread).performAll (movesOf thread)).run
    (answering (if thread then 100 else 200)) []

def movesMixed : List (Bool × Library.Exchange) := between (fun thread => (movesRun thread).1) 2

theorem netlinkObjects_owned_moves :
    libraryResources.Valid ∅ (movesMixed.map Prod.snd) ∧
      ∃ objects : Bool → UniquePointer.Objects,
        (∀ thread, (movesRun thread).2 = .ok (objects thread)) ∧
        Shared (libraryResources.heldAfter ∅ (movesMixed.map Prod.snd))
          (fun who : Bool × Option Nat =>
            UniquePointer.owned (movedClasses who.1).handle (objects who.1) who.2) ∧
        ((∀ thread, objects thread = .initial) →
          libraryResources.heldAfter ∅ (movesMixed.map Prod.snd) = ∅) :=
  netlinkObjects_owned movedClasses movesOf (fun thread => (movesRun thread).1)
    (fun thread => (movesRun thread).2) (fun _ => Program.runs_run _ _) movesMixed
    (interleaving_between _ 2) (by decide +kernel)

end NetRemote.Netlink
