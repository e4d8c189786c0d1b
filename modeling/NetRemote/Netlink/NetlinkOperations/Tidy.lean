import NetRemote.Netlink.NetlinkOperations

namespace NetRemote.Netlink

open Foundation Foundation.Bytes Foundation.Resources

section Objects

variable {needed : Finset Handle} {α : Type}

def NetlinkSocket.handle (netlinkSocket : NetlinkSocket) : Option Handle :=
  netlinkSocket.socket.map .Socket

def NetlinkMessage.handle (netlinkMessage : NetlinkMessage) : Option Handle :=
  netlinkMessage.message.map .Message

def NetlinkSocket.Owns (netlinkSocket : NetlinkSocket) : Prop := netlinkSocket.handle.isSome

-- A call that gets all its pointers from what is held.
theorem tidy_call (request : LibraryRequest) (hacquired : ∀ reply, acquired ⟨request, reply⟩ = none)
    (hreleased : released request = none)
    (hused : ∀ pointer ∈ used request, ∃ handle ∈ needed, pointer = some handle) :
    libraryResources.Tidy needed (call request) :=
  tidy_ask hacquired hreleased hused

theorem gives_call (request : LibraryRequest) {handleOf : request.Reply → Option Handle}
    (hacquired : ∀ reply, acquired ⟨request, reply⟩ = handleOf reply)
    (hreleased : released request = none)
    (hused : ∀ pointer ∈ used request, ∃ handle ∈ needed, pointer = some handle) :
    libraryResources.Gives needed handleOf (call request) :=
  gives_ask hacquired hreleased hused

theorem frees_call (request : LibraryRequest)
    (hacquired : ∀ reply, acquired ⟨request, reply⟩ = none)
    (hused : ∀ pointer ∈ used request, pointer.isSome ∧ pointer = released request) :
    libraryResources.Frees (released request) (call request >>= fun _ => return ()) := by
  refine frees_ask hacquired ?_ fun _ => rfl
  intro pointer hpointer
  obtain ⟨hsome, hreleased⟩ := hused pointer hpointer
  obtain ⟨handle, rfl⟩ := Option.isSome_iff_exists.mp hsome
  exact ⟨handle, Option.mem_toFinset.mpr hreleased.symm, rfl⟩

theorem frees_socket (netlinkSocket : NetlinkSocket) :
    libraryResources.Frees netlinkSocket.handle netlinkSocket.destroy := by
  obtain ⟨socket⟩ := netlinkSocket
  cases socket with
  | none => exact frees_none
  | some address =>
      exact frees_call (.NlSocketFree (some address)) (fun _ => rfl) (by simp [used, released])

theorem frees_message (netlinkMessage : NetlinkMessage) :
    libraryResources.Frees netlinkMessage.handle netlinkMessage.destroy := by
  obtain ⟨message⟩ := netlinkMessage
  cases message with
  | none => exact frees_none
  | some address =>
      exact frees_call (.NlmsgFree (some address)) (fun _ => rfl) (by simp [used, released])

theorem gives_allocateMessage :
    libraryResources.Gives needed NetlinkMessage.handle NetlinkMessage.allocate := by
  apply gives_checked (gives_call .NlmsgAlloc (fun _ => rfl) rfl fun _ h => nomatch h)
  exact fun message => .inl ⟨_, rfl, rfl⟩

theorem gives_allocateSocket :
    libraryResources.Gives needed NetlinkSocket.handle NetlinkSocket.allocate := by
  apply gives_checked (gives_call .NlSocketAlloc (fun _ => rfl) rfl fun _ h => nomatch h)
  rintro (_ | address)
  · exact .inr ⟨_, rfl, rfl⟩
  · exact .inl ⟨_, rfl, rfl⟩

theorem owns_allocateSocket : NetlinkSocket.allocate.Returns NetlinkSocket.Owns := by
  rintro (_ | address)
  · trivial
  · rfl

theorem tidy_callHeld {handle : Option Handle} (hheld : ∃ owned ∈ needed, handle = some owned)
    (request : LibraryRequest) (hacquired : ∀ reply, acquired ⟨request, reply⟩ = none)
    (hreleased : released request = none) (hused : used request = [handle]) :
    libraryResources.Tidy needed (call request) := by
  apply tidy_call request hacquired hreleased
  rwa [hused, List.forall_mem_singleton]

-- A call that gets two pointers.
theorem tidy_callBoth {handle other : Option Handle}
    (hheld : ∃ owned ∈ needed, handle = some owned) (hother : ∃ owned ∈ needed, other = some owned)
    (request : LibraryRequest) (hacquired : ∀ reply, acquired ⟨request, reply⟩ = none)
    (hreleased : released request = none) (hused : used request = [handle, other]) :
    libraryResources.Tidy needed (call request) := by
  apply tidy_call request hacquired hreleased
  rw [hused, List.forall_mem_cons, List.forall_mem_singleton]
  exact ⟨hheld, hother⟩

theorem held_of_owns {handle : Option Handle} (howns : handle.isSome)
    (hneeded : handle.toFinset ⊆ needed) : ∃ owned ∈ needed, handle = some owned := by
  obtain ⟨owned, rfl⟩ := Option.isSome_iff_exists.mp howns
  exact ⟨owned, hneeded (by simp), rfl⟩

-- A call on what is owned.
theorem tidy_callOwned {handle : Option Handle} (howns : handle.isSome)
    (request : LibraryRequest) (hacquired : ∀ reply, acquired ⟨request, reply⟩ = none)
    (hreleased : released request = none) (hused : used request = [handle]) :
    libraryResources.Tidy (needed ∪ handle.toFinset) (call request) :=
  tidy_callHeld (held_of_owns howns Finset.subset_union_right) request hacquired hreleased hused

theorem gives_callOwned {handle : Option Handle} (howns : handle.isSome)
    (request : LibraryRequest) {handleOf : request.Reply → Option Handle}
    (hacquired : ∀ reply, acquired ⟨request, reply⟩ = handleOf reply)
    (hreleased : released request = none) (hused : used request = [handle]) :
    libraryResources.Gives (needed ∪ handle.toFinset) handleOf (call request) := by
  apply gives_call request hacquired hreleased
  rw [hused, List.forall_mem_singleton]
  exact held_of_owns howns Finset.subset_union_right

theorem gives_createConnectedSocket {connect : Pointer → NetlinkAction Int}
    (hconnect : ∀ netlinkSocket : NetlinkSocket, netlinkSocket.Owns →
      libraryResources.Tidy (needed ∪ netlinkSocket.handle.toFinset)
        (connect netlinkSocket.socket)) :
    libraryResources.Gives needed NetlinkSocket.handle (createConnectedSocket connect) := by
  apply gives_guarded gives_allocateSocket owns_allocateSocket frees_socket
  · intro netlinkSocket howns
    apply tidy_bind (hconnect netlinkSocket howns)
    exact fun ret => tidy_bind (tidy_onlyIf _ (tidy_throw _)) fun _ => tidy_return _
  · exact fun netlinkSocket => Program.returns_last fun ret => Program.returns_last fun _ => rfl

theorem owns_createConnectedSocket (connect : Pointer → NetlinkAction Int) :
    (createConnectedSocket connect).Returns NetlinkSocket.Owns := by
  apply Program.returns_bind owns_allocateSocket
  intro netlinkSocket howns
  apply Program.returns_guarded
  exact Program.returns_last fun ret => Program.returns_last fun _ => howns

theorem gives_createNl80211Socket :
    libraryResources.Gives needed NetlinkSocket.handle createNl80211Socket :=
  gives_createConnectedSocket fun _ howns => tidy_callOwned howns _ (fun _ => rfl) rfl rfl

theorem gives_createNlRouteSocket :
    libraryResources.Gives needed NetlinkSocket.handle createNlRouteSocket :=
  gives_createConnectedSocket fun _ howns => tidy_callOwned howns _ (fun _ => rfl) rfl rfl

end Objects

section Nl80211

variable {needed : Finset Handle} (order : GroupOrder)

theorem tidy_resolveGroups {netlinkSocket : NetlinkSocket} (howns : netlinkSocket.Owns)
    (groups : List (Nl80211MulticastGroup × ByteString))
    (multicastGroupId : Table Nl80211MulticastGroup Int) :
    libraryResources.Tidy (needed ∪ netlinkSocket.handle.toFinset)
      (Nl80211ProtocolState.resolveGroups netlinkSocket multicastGroupId groups) := by
  induction groups generalizing multicastGroupId with
  | nil => exact tidy_return _
  | cons group rest ih =>
      apply tidy_bind (tidy_callOwned howns _ (fun _ => rfl) rfl rfl)
      exact fun (id : Int) => tidy_ite (fun _ => tidy_throw _) fun _ => ih _

theorem tidy_construct :
    libraryResources.Tidy needed (Nl80211ProtocolState.construct order) := by
  apply tidy_passed gives_allocateSocket owns_allocateSocket
  intro netlinkSocket howns
  apply takes_enclosed (frees_socket netlinkSocket)
  apply tidy_bind (tidy_callOwned howns _ (fun _ => rfl) rfl rfl)
  intro ret
  apply tidy_bind (tidy_onlyIf _ (tidy_throw _))
  intro _
  apply tidy_bind (tidy_callOwned howns _ (fun _ => rfl) rfl rfl)
  intro driverId
  apply tidy_bind (tidy_onlyIf _ (tidy_throw _))
  intro _
  exact tidy_bind (tidy_resolveGroups howns _ _) fun _ => tidy_return _

theorem tidy_theInstance (constructed : Option Nl80211ProtocolState) :
    libraryResources.Tidy needed (Nl80211ProtocolState.theInstance order constructed) := by
  cases constructed with
  | none => exact tidy_construct order
  | some protocolState => exact tidy_return _

theorem tidy_transact {nl80211Socket : NetlinkSocket} {nl80211Message : NetlinkMessage}
    (hsocket : nl80211Socket.handle.isSome) (hmessage : nl80211Message.handle.isSome) :
    libraryResources.Tidy (needed ∪ nl80211Message.handle.toFinset ∪ nl80211Socket.handle.toFinset)
      (transact nl80211Socket nl80211Message) := by
  apply tidy_bind (tidy_callOwned hsocket _ (fun _ => rfl) rfl rfl)
  refine fun (ret : Int) => tidy_ite (fun _ => tidy_return _) fun _ => ?_
  apply tidy_bind
  · apply tidy_callBoth (held_of_owns hsocket Finset.subset_union_right) (held_of_owns hmessage _)
      (.NlSendAuto nl80211Socket.socket nl80211Message.message) (fun _ => rfl) rfl rfl
    exact Finset.subset_union_right.trans Finset.subset_union_left
  refine fun (ret : Int) => tidy_ite (fun _ => tidy_return _) fun _ => ?_
  apply tidy_bind (tidy_callOwned hsocket _ (fun _ => rfl) rfl rfl)
  exact fun _ => tidy_return _

theorem isSome_handle {nl80211Message : NetlinkMessage} (h : nl80211Message.message ≠ none) :
    nl80211Message.handle.isSome := by
  simpa [NetlinkMessage.handle, Option.isSome_iff_ne_none] using h

-- A dump and a lookup differ in the request that they put into the message and in what
-- they make of the answers.
theorem tidy_enumerate (constructed : Option Nl80211ProtocolState) :
    libraryResources.Tidy needed (Nl80211Interface.enumerate order constructed) := by
  apply tidy_passed gives_allocateMessage (Program.returns_of_forall fun _ => trivial)
  intro message _
  apply takes_enclosed (frees_message message)
  refine tidy_ite (fun _ => tidy_return _) fun hmessage => ?_
  apply tidy_bind (tidy_theInstance order constructed)
  intro protocolState
  apply tidy_bind (tidy_callOwned (isSome_handle hmessage) _ (fun _ => rfl) rfl rfl)
  refine fun (populated : Bool) => tidy_ite (fun _ => tidy_return _) fun _ => ?_
  apply tidy_passed gives_createNl80211Socket (owns_createConnectedSocket _)
  intro nl80211Socket hsocket
  apply takes_enclosed (frees_socket nl80211Socket)
  exact tidy_bind (tidy_transact hsocket (isSome_handle hmessage)) fun _ => tidy_return _

theorem tidy_fromId (constructed : Option Nl80211ProtocolState) (identifier : Nat)
    (value : UInt32) :
    libraryResources.Tidy needed (Nl80211Wiphy.fromId order constructed identifier value) := by
  apply tidy_passed gives_allocateMessage (Program.returns_of_forall fun _ => trivial)
  intro message _
  apply takes_enclosed (frees_message message)
  refine tidy_ite (fun _ => tidy_return _) fun hmessage => ?_
  apply tidy_bind (tidy_theInstance order constructed)
  intro protocolState
  apply tidy_bind (tidy_callOwned (isSome_handle hmessage) _ (fun _ => rfl) rfl rfl)
  refine fun (populated : Bool) => tidy_ite (fun _ => tidy_return _) fun _ => ?_
  apply tidy_bind (tidy_callOwned (isSome_handle hmessage) _ (fun _ => rfl) rfl rfl)
  intro _
  apply tidy_passed gives_createNl80211Socket (owns_createConnectedSocket _)
  intro nl80211Socket hsocket
  apply takes_enclosed (frees_socket nl80211Socket)
  exact tidy_bind (tidy_transact hsocket (isSome_handle hmessage)) fun _ => tidy_return _

theorem tidy_fromInterfaceName (constructed : Option Nl80211ProtocolState)
    (interfaceName : ByteString) :
    libraryResources.Tidy needed
      (Nl80211Wiphy.fromInterfaceName order constructed interfaceName) := by
  apply tidy_bind (tidy_call (.IfNametoindex interfaceName) (fun _ => rfl) rfl fun _ h => nomatch h)
  exact fun (interfaceIndex : UInt32) =>
    tidy_ite (fun _ => tidy_return _) fun _ => tidy_fromId order constructed _ _

end Nl80211

section Route

variable {needed : Finset Handle}

theorem frees_freeCache (cache : Nat) :
    libraryResources.Frees (some (.Cache cache)) (freeCache cache) :=
  frees_call (.NlCacheFree (some cache)) (fun _ => rfl) (by simp [used, released])

theorem frees_freeLink (rtnlLink : Nat) :
    libraryResources.Frees (some (.Link rtnlLink)) (freeLink rtnlLink) :=
  frees_call (.NlObjectFree (some rtnlLink)) (fun _ => rfl) (by simp [used, released])

theorem gives_cacheOrThrow {program : NetlinkAction (Except Int Nat)} (kind : ByteString)
    (hgives : libraryResources.Gives needed (fun result => result.toOption.map Handle.Cache)
      program) :
    libraryResources.Gives needed (fun cache => some (Handle.Cache cache))
      (program >>= cacheOrThrow kind) := by
  apply gives_checked hgives
  rintro (ret | cache)
  · exact .inr ⟨_, rfl, rfl⟩
  · exact .inl ⟨cache, rfl, rfl⟩

theorem tidy_netlinkEnumerateLinks : libraryResources.Tidy needed netlinkEnumerateLinks := by
  apply tidy_passed gives_createNlRouteSocket (owns_createConnectedSocket _)
  intro nlRouteSocket hsocket
  apply takes_enclosed (frees_socket nlRouteSocket)
  apply tidy_passed (gives_cacheOrThrow _ (gives_callOwned hsocket
    (.RtnlLinkAllocCache nlRouteSocket.socket AF_UNSPEC) (fun _ => rfl) rfl rfl))
    (Program.returns_of_forall fun _ => trivial)
  intro linkCache _
  apply takes_enclosed (frees_freeCache linkCache)
  exact tidy_bind (tidy_callOwned rfl (.RtnlLinks (some linkCache)) (fun _ => rfl) rfl rfl)
    fun _ => tidy_return _

theorem tidy_netlinkEnumerateIpAddresses :
    libraryResources.Tidy needed netlinkEnumerateIpAddresses := by
  apply tidy_passed gives_createNlRouteSocket (owns_createConnectedSocket _)
  intro nlRouteSocket hsocket
  apply takes_enclosed (frees_socket nlRouteSocket)
  apply tidy_passed (gives_cacheOrThrow _ (gives_callOwned hsocket
    (.RtnlAddrAllocCache nlRouteSocket.socket) (fun _ => rfl) rfl rfl))
    (Program.returns_of_forall fun _ => trivial)
  intro ipAddressCache _
  apply takes_enclosed (frees_freeCache ipAddressCache)
  exact tidy_bind (tidy_callOwned rfl (.RtnlAddrs (some ipAddressCache)) (fun _ => rfl) rfl rfl)
    fun _ => tidy_return _

theorem tidy_fromInterfaceIndex (interfaceIndex : Int) :
    libraryResources.Tidy needed (NetlinkLinkDetails.fromInterfaceIndex interfaceIndex) := by
  apply tidy_bind (tidy_call (.IfIndextoname interfaceIndex) (fun _ => rfl) rfl
    fun _ h => nomatch h)
  intro interfaceName
  apply tidy_passed gives_createNlRouteSocket (owns_createConnectedSocket _)
  intro nlRouteSocket hsocket
  apply takes_enclosed (frees_socket nlRouteSocket)
  apply tidy_passed (gives_callOwned hsocket
    (.RtnlLinkGetKernel nlRouteSocket.socket interfaceIndex interfaceName) (fun _ => rfl) rfl rfl)
    (Program.returns_of_forall fun _ => trivial)
  rintro (ret | rtnlLink) _
  · exact takes_none (tidy_return _)
  · apply takes_enclosed (frees_freeLink rtnlLink)
    exact tidy_bind (tidy_callOwned rfl (.RtnlLinkGet (some rtnlLink)) (fun _ => rfl) rfl rfl)
      fun _ => tidy_return _

end Route

end NetRemote.Netlink
