import NetRemote.Netlink.NetlinkOperations.Tidy
import NetRemote.Wifi.AccessPointDiscoveryAgentOperationsNetlink.EventLoop

namespace NetRemote.Wifi.AccessPointDiscoveryAgentOperationsNetlink

open Foundation Foundation.Bytes Foundation.Resources Netlink

section Thread

variable {needed : Finset Handle} (order : GroupOrder) (protocolState : Nl80211ProtocolState)

theorem tidy_reportMessage (netlinkMessage : ParsedMessage) :
    libraryResources.Tidy needed (reportMessage order protocolState netlinkMessage) := by
  refine tidy_ite (fun _ => tidy_return _) fun _ => tidy_ite (fun _ => tidy_return _) fun _ =>
    tidy_ite (fun _ => ?_) fun _ => tidy_return _
  cases netlinkMessage.nl80211Interface with
  | none => exact tidy_return _
  | some nl80211Interface =>
      apply tidy_bind (tidy_fromId order _ _ _)
      intro wiphy
      apply tidy_ite _ fun _ => tidy_return _
      intro _
      apply tidy_bind (tidy_call _ (fun _ => rfl) rfl (by simp [Netlink.used]))
      intro made
      exact tidy_call _ (fun _ => rfl) rfl (by simp [Netlink.used])

variable {netlinkSocket : NetlinkSocket}
  (hsocket : ∃ handle ∈ needed, netlinkSocket.handle = some handle)

include hsocket

-- The inductions are on the rounds, of which each gives back what it takes.
theorem tidy_handleNetlinkSocketReady (rounds : Nat) :
    libraryResources.Tidy needed
      (handleNetlinkSocketReady order protocolState netlinkSocket rounds) := by
  induction rounds with
  | zero => exact tidy_return _
  | succ rounds ih =>
      apply tidy_bind (tidy_callHeld hsocket _ (fun _ => rfl) rfl rfl)
      intro received
      apply tidy_bind (tidy_forM fun message _ => tidy_reportMessage order protocolState message)
      exact fun _ => tidy_ite (fun _ => ih) fun _ => tidy_return _

theorem tidy_handleReady (descriptors : Descriptors) (rounds : Nat) (stopRequested : Bool)
    (ready : List Int) :
    libraryResources.Tidy needed
      (handleReady order protocolState netlinkSocket descriptors rounds stopRequested ready) := by
  induction ready generalizing stopRequested with
  | nil => exact tidy_return _
  | cons fd rest ih =>
      apply tidy_ite
      · intro _
        apply tidy_bind (tidy_handleNetlinkSocketReady order protocolState hsocket rounds)
        exact fun _ => ih _
      · exact fun _ => ih _

theorem tidy_eventLoop {descriptors : Descriptors}
    (hepoll : .FileDescriptor descriptors.fdEpoll ∈ needed) (stopRequested : Bool) (rounds : Nat) :
    libraryResources.Tidy needed
      (eventLoop order protocolState netlinkSocket descriptors stopRequested rounds) := by
  induction rounds generalizing stopRequested with
  | zero => exact tidy_return _
  | succ rounds ih =>
      apply tidy_bind (tidy_call .StopRequested (fun _ => rfl) rfl fun _ h => nomatch h)
      refine fun (requested : Bool) => tidy_ite (fun _ => tidy_return _) fun _ => ?_
      apply tidy_bind (tidy_callHeld ⟨_, hepoll, rfl⟩ (.EpollWait descriptors.fdEpoll)
        (fun _ => rfl) rfl rfl)
      rintro (errno | ready)
      · exact tidy_ite (fun _ => ih _) fun _ => tidy_return _
      · apply tidy_bind (tidy_handleReady order protocolState hsocket descriptors rounds _ ready)
        exact fun stopRequested => ih _

end Thread

section Discovery

variable {needed : Finset Handle} (order : GroupOrder) (protocolState : Nl80211ProtocolState)

theorem frees_close (fd : Int) : libraryResources.Frees (some (.FileDescriptor fd)) (close fd) :=
  frees_call (.Close fd) (fun _ => rfl) (by simp [Netlink.used, Netlink.released])

-- What is opened is closed at the end of the scope that follows the check.
theorem takes_opened {fd : Int} {α : Type} {program other : NetlinkAction α}
    (hother : libraryResources.Tidy needed other)
    (hprogram : libraryResources.Tidy (needed ∪ {.FileDescriptor fd}) program) :
    libraryResources.Takes needed (descriptor fd)
      (if fd < 0 then other else Program.enclosed (close fd) program) := by
  unfold descriptor
  split_ifs
  · exact takes_none hother
  · exact takes_enclosed (frees_close fd) hprogram

theorem takes_processNetlinkMessagesThread {netlinkSocket : NetlinkSocket}
    (hsocket : netlinkSocket.handle.isSome) (rounds : Nat) :
    libraryResources.Takes needed netlinkSocket.handle
      (processNetlinkMessagesThread order protocolState netlinkSocket rounds) := by
  obtain ⟨socket, hsocket⟩ := Option.isSome_iff_exists.mp hsocket
  apply takes_enclosed (frees_socket netlinkSocket)
  rw [hsocket]
  have hneeded : ∃ handle ∈ needed ∪ (some socket).toFinset, netlinkSocket.handle = some handle :=
    ⟨socket, by simp, hsocket⟩
  apply tidy_bind (tidy_callHeld hneeded _ (fun _ => rfl) rfl rfl)
  intro _
  apply tidy_bind (tidy_callHeld hneeded _ (fun _ => rfl) rfl rfl)
  refine fun (ret : Int) => tidy_ite (fun _ => tidy_return _) fun _ => ?_
  apply tidy_bind (tidy_callHeld hneeded _ (fun _ => rfl) rfl rfl)
  refine fun (ret : Int) => tidy_ite (fun _ => tidy_return _) fun _ => ?_
  apply tidy_bind (tidy_callHeld hneeded _ (fun _ => rfl) rfl rfl)
  refine fun (netlinkSocketFileDescriptor : Int) => tidy_ite (fun _ => tidy_return _) fun _ => ?_
  apply tidy_passed (gives_call .EpollCreate1 (fun _ => rfl) rfl fun _ h => nomatch h)
    (Program.returns_of_forall fun _ => trivial)
  refine fun (fdEpoll : Int) _ => takes_opened (tidy_return _) ?_
  have hepoll : Handle.FileDescriptor fdEpoll ∈
      needed ∪ (some socket).toFinset ∪ {.FileDescriptor fdEpoll} := by simp
  apply tidy_bind (tidy_callBoth ⟨_, hepoll, rfl⟩ ⟨socket, by simp, hsocket⟩ (.EpollCtlAddSocket
    fdEpoll netlinkSocketFileDescriptor netlinkSocket.socket) (fun _ => rfl) rfl rfl)
  refine fun (ret : Int) => tidy_ite (fun _ => tidy_return _) fun _ => ?_
  apply tidy_passed (gives_call .Eventfd (fun _ => rfl) rfl fun _ h => nomatch h)
    (Program.returns_of_forall fun _ => trivial)
  refine fun (eventLoopStopFd : Int) _ => takes_opened (tidy_return _) ?_
  have hepoll := Finset.mem_union_left {Handle.FileDescriptor eventLoopStopFd} hepoll
  apply tidy_bind (tidy_callBoth ⟨_, hepoll, rfl⟩ ⟨.FileDescriptor eventLoopStopFd, by simp, rfl⟩
    (.EpollCtlAdd fdEpoll eventLoopStopFd) (fun _ => rfl) rfl rfl)
  refine fun (ret : Int) => tidy_ite (fun _ => tidy_return _) fun _ => ?_
  exact tidy_eventLoop order protocolState ⟨socket, by simp, hsocket⟩ hepoll false rounds

theorem gives_subscribe :
    libraryResources.Gives needed NetlinkSocket.handle (subscribe protocolState) := by
  apply gives_guarded gives_createNl80211Socket (owns_createConnectedSocket _) frees_socket
  · intro nl80211Socket howns
    apply tidy_bind (tidy_callOwned howns _ (fun _ => rfl) rfl rfl)
    exact fun ret => tidy_bind (tidy_onlyIf _ (tidy_throw _)) fun _ => tidy_return _
  · exact fun nl80211Socket => Program.returns_last fun ret => Program.returns_last fun _ => rfl

theorem owns_subscribe : (subscribe protocolState).Returns NetlinkSocket.Owns := by
  apply Program.returns_bind (owns_createConnectedSocket _)
  intro nl80211Socket howns
  exact Program.returns_guarded _
    (Program.returns_last fun ret => Program.returns_last fun _ => howns)

theorem tidy_discover (rounds : Nat) :
    libraryResources.Tidy needed (discover order protocolState rounds) :=
  tidy_passed (gives_subscribe protocolState) (owns_subscribe protocolState)
    fun _ howns => takes_processNetlinkMessagesThread order protocolState howns rounds

end Discovery

section Operations

-- What the process does with the netlink libraries.
inductive NetlinkOperation where
  | Construct
  | EnumerateInterfaces (constructed : Option Nl80211ProtocolState)
  | WiphyFromIndex (constructed : Option Nl80211ProtocolState) (wiphyIndex : UInt32)
  | WiphyFromInterfaceName (constructed : Option Nl80211ProtocolState) (interfaceName : ByteString)
  | EnumerateLinks
  | EnumerateIpAddresses
  | LinkFromInterfaceIndex (interfaceIndex : Int)
  | Discover (protocolState : Nl80211ProtocolState) (rounds : Nat)

variable (order : GroupOrder)

def NetlinkOperation.perform : NetlinkOperation → NetlinkAction Unit
  | .Construct => discard (Nl80211ProtocolState.construct order)
  | .EnumerateInterfaces constructed => discard (Nl80211Interface.enumerate order constructed)
  | .WiphyFromIndex constructed wiphyIndex =>
      discard (Nl80211Wiphy.fromIndex order constructed wiphyIndex)
  | .WiphyFromInterfaceName constructed interfaceName =>
      discard (Nl80211Wiphy.fromInterfaceName order constructed interfaceName)
  | .EnumerateLinks => discard netlinkEnumerateLinks
  | .EnumerateIpAddresses => discard netlinkEnumerateIpAddresses
  | .LinkFromInterfaceIndex interfaceIndex =>
      discard (NetlinkLinkDetails.fromInterfaceIndex interfaceIndex)
  | .Discover protocolState rounds => discover order protocolState rounds

-- A thread goes on after an operation that has thrown.
def performAll (operations : List NetlinkOperation) : NetlinkAction Unit :=
  operations.forM fun operation => (operation.perform order).attempt .Return fun _ => .Return ()

theorem tidy_perform {needed : Finset Handle} (operation : NetlinkOperation) :
    libraryResources.Tidy needed (operation.perform order) := by
  have hdiscard {α : Type} {program : NetlinkAction α}
      (h : libraryResources.Tidy needed program) :
      libraryResources.Tidy needed (discard program) := tidy_bind h fun _ => tidy_return _
  cases operation with
  | Construct => exact hdiscard (tidy_construct order)
  | EnumerateInterfaces constructed => exact hdiscard (tidy_enumerate order constructed)
  | WiphyFromIndex constructed wiphyIndex => exact hdiscard (tidy_fromId order constructed _ _)
  | WiphyFromInterfaceName constructed interfaceName =>
      exact hdiscard (tidy_fromInterfaceName order constructed interfaceName)
  | EnumerateLinks => exact hdiscard tidy_netlinkEnumerateLinks
  | EnumerateIpAddresses => exact hdiscard tidy_netlinkEnumerateIpAddresses
  | LinkFromInterfaceIndex interfaceIndex => exact hdiscard (tidy_fromInterfaceIndex interfaceIndex)
  | Discover protocolState rounds => exact tidy_discover order protocolState rounds

theorem tidy_performAll {needed : Finset Handle} (operations : List NetlinkOperation) :
    libraryResources.Tidy needed (performAll order operations) :=
  tidy_forM fun operation _ =>
    tidy_attempt (tidy_perform order operation) tidy_return fun _ => tidy_return _

-- A link is looked up between two steps of a discovery.
def twoThreads : Bool → List NetlinkOperation
  | true => [.Discover {} 2]
  | false => [.LinkFromInterfaceIndex 1]

def threadRun (thread : Bool) : List Library.Exchange × Except NetlinkFault Unit :=
  (performAll default (twoThreads thread)).run (answering (if thread then 100 else 200)) []

def threadsMixed : List (Bool × Library.Exchange) := between (fun thread => (threadRun thread).1) 9

end Operations

end NetRemote.Wifi.AccessPointDiscoveryAgentOperationsNetlink
