import NetRemote.Foundation.UniquePointer
import NetRemote.Net.NetworkOperationsLinux
import NetRemote.Netlink.Nl80211
import NetRemote.Wifi.AccessPointManager

namespace NetRemote.Netlink

open Foundation Foundation.Bytes

-- What a library hands out, or null.
abbrev Pointer := Option Nat

-- What the checks of a message and its parsers find.
structure ParsedMessage where
  headerValid : Bool
  attributesValid : Bool
  cmd : UInt8
  nl80211Interface : Option Nl80211Interface
  nl80211Wiphy : Option Nl80211Wiphy

-- The callback of the socket is invoked for each of the messages.
structure Received where
  ret : Int
  errno : Int
  messages : List ParsedMessage

structure RtnlLink where
  index : Int
  name : ByteString
  type : Option ByteString
  macAddress : ByteString
  deriving DecidableEq, Repr

structure RtnlAddr where
  index : Int
  family : Int
  prefixLength : Int
  localAddress : ByteString
  deriving DecidableEq, Repr

inductive LibraryRequest where
  | NlSocketAlloc
  | NlSocketFree (socket : Pointer)
  | NlmsgAlloc
  | NlmsgFree (message : Pointer)
  | GenlConnect (socket : Pointer)
  | NlConnect (socket : Pointer) (protocol : Int)
  | GenlCtrlResolve (socket : Pointer) (name : ByteString)
  | GenlCtrlResolveGrp (socket : Pointer) (familyName groupName : ByteString)
  | GenlmsgPut (message : Pointer) (family : Int) (flags : Nat) (cmd : UInt8)
  | NlaPutU32 (message : Pointer) (attributeType : Nat) (value : UInt32)
  | NlSocketModifyCb (socket : Pointer)
  | NlSendAuto (socket message : Pointer)
  | NlRecvmsgsDefault (socket : Pointer)
  | NlSocketAddMembership (socket : Pointer) (group : Int)
  | NlSocketDisableSeqCheck (socket : Pointer)
  | NlSocketSetNonblocking (socket : Pointer)
  | NlSocketGetFd (socket : Pointer)
  | RtnlLinkAllocCache (socket : Pointer) (family : Int)
  | RtnlAddrAllocCache (socket : Pointer)
  | RtnlLinkGetKernel (socket : Pointer) (interfaceIndex : Int) (interfaceName : ByteString)
  | RtnlLinks (linkCache : Pointer)
  | RtnlAddrs (ipAddressCache : Pointer)
  | RtnlLinkGet (rtnlLink : Pointer)
  | NlCacheFree (cache : Pointer)
  | NlObjectFree (rtnlLink : Pointer)
  | IfNametoindex (interfaceName : ByteString)
  | IfIndextoname (interfaceIndex : Int)
  | EpollCreate1
  | EpollCtlAdd (fdEpoll fd : Int)
  | EpollCtlAddSocket (fdEpoll fd : Int) (socket : Pointer)
  | Eventfd
  | EpollWait (fdEpoll : Int)
  | Close (fd : Int)
  | StopRequested
  | MakeAccessPoint (interfaceName : String)
  | PresenceChanged (presence : Wifi.AccessPointPresenceEvent) (accessPoint : Wifi.AccessPoint)
  deriving DecidableEq, Repr

-- An allocation that can fail with a code returns the code or a pointer; a wait returns
-- the error or the descriptors that are ready. The access point that is made is an object,
-- with or without a controller, and the presence callback, which is `noexcept`, comes back.
def LibraryRequest.Reply : LibraryRequest → Type
  | .NlSocketAlloc | .NlmsgAlloc => Pointer
  | .NlSocketFree _ | .NlmsgFree _ | .NlCacheFree _ | .NlObjectFree _ | .Close _ |
    .NlSocketDisableSeqCheck _ | .PresenceChanged _ _ => Unit
  | .GenlmsgPut _ _ _ _ => Bool
  | .NlRecvmsgsDefault _ => Received
  | .RtnlLinkAllocCache _ _ | .RtnlAddrAllocCache _ | .RtnlLinkGetKernel _ _ _ => Except Int Nat
  | .RtnlLinks _ => List RtnlLink
  | .RtnlAddrs _ => List RtnlAddr
  | .RtnlLinkGet _ => RtnlLink
  | .IfNametoindex _ => UInt32
  | .IfIndextoname _ => ByteString
  | .EpollWait _ => Except Int (List Int)
  | .StopRequested => Bool
  | .MakeAccessPoint _ => Nat × Bool
  | _ => Int

abbrev Library : Environment := ⟨LibraryRequest, LibraryRequest.Reply⟩

abbrev NetlinkAction := Program Library NetlinkFault

def call (request : LibraryRequest) : NetlinkAction request.Reply :=
  Program.ask (E := Library) request

inductive Handle where
  | Socket (address : Nat)
  | Message (address : Nat)
  | Cache (address : Nat)
  | Link (address : Nat)
  | FileDescriptor (fd : Int)
  deriving DecidableEq, Repr

def descriptor (fd : Int) : Option Handle := if fd < 0 then none else some (.FileDescriptor fd)

def acquired : Library.Exchange → Option Handle
  | ⟨.NlSocketAlloc, socket⟩ => Option.map Handle.Socket socket
  | ⟨.NlmsgAlloc, message⟩ => Option.map Handle.Message message
  | ⟨.RtnlLinkAllocCache _ _, result⟩ | ⟨.RtnlAddrAllocCache _, result⟩ =>
      (Except.toOption result).map Handle.Cache
  | ⟨.RtnlLinkGetKernel _ _ _, result⟩ => (Except.toOption result).map Handle.Link
  | ⟨.EpollCreate1, fd⟩ | ⟨.Eventfd, fd⟩ => descriptor fd
  | _ => none

def released : LibraryRequest → Option Handle
  | .NlSocketFree socket => socket.map .Socket
  | .NlmsgFree message => message.map .Message
  | .NlCacheFree cache => cache.map .Cache
  | .NlObjectFree rtnlLink => rtnlLink.map .Link
  | .Close fd => some (.FileDescriptor fd)
  | _ => none

-- The descriptor of a netlink socket lives as long as the socket, which is what is used where
-- it is added. Any other descriptor that is added has an owner of its own.
def used : LibraryRequest → List (Option Handle)
  | .NlSocketFree socket | .GenlConnect socket | .NlConnect socket _ | .GenlCtrlResolve socket _ |
    .GenlCtrlResolveGrp socket _ _ | .NlSocketModifyCb socket | .NlRecvmsgsDefault socket |
    .NlSocketAddMembership socket _ | .NlSocketDisableSeqCheck socket |
    .NlSocketSetNonblocking socket | .NlSocketGetFd socket | .RtnlLinkAllocCache socket _ |
    .RtnlAddrAllocCache socket | .RtnlLinkGetKernel socket _ _ => [socket.map .Socket]
  | .NlmsgFree message | .GenlmsgPut message _ _ _ | .NlaPutU32 message _ _ =>
      [message.map .Message]
  | .NlSendAuto socket message => [socket.map .Socket, message.map .Message]
  | .RtnlLinks cache | .RtnlAddrs cache | .NlCacheFree cache => [cache.map .Cache]
  | .RtnlLinkGet rtnlLink | .NlObjectFree rtnlLink => [rtnlLink.map .Link]
  | .EpollCtlAdd fdEpoll fd => [some (.FileDescriptor fdEpoll), some (.FileDescriptor fd)]
  | .EpollCtlAddSocket fdEpoll _ socket => [some (.FileDescriptor fdEpoll), socket.map .Socket]
  | .EpollWait fdEpoll => [some (.FileDescriptor fdEpoll)]
  | .Close fd => [some (.FileDescriptor fd)]
  | .NlSocketAlloc | .NlmsgAlloc | .IfNametoindex _ | .IfIndextoname _ | .EpollCreate1 |
    .Eventfd | .StopRequested | .MakeAccessPoint _ | .PresenceChanged _ _ => []

def libraryResources : Resources Library Handle where
  acquired := acquired
  released := released
  used := used
  used_of_released := by
    intro request handle h
    cases request with
    | NlSocketFree pointer | NlmsgFree pointer | NlCacheFree pointer | NlObjectFree pointer =>
        exact List.mem_singleton.mpr h.symm
    | Close fd =>
        cases h
        exact List.mem_singleton_self _
    | _ => cases h

-- Allocations succeed with addresses from the given one on, and so does all else.
def answering (first : Nat) (past : List Library.Exchange) :
    (request : LibraryRequest) → request.Reply
  | .NlSocketAlloc | .NlmsgAlloc => some (first + past.length)
  | .RtnlLinkAllocCache _ _ | .RtnlAddrAllocCache _ | .RtnlLinkGetKernel _ _ _ =>
      .ok (first + past.length)
  | .NlSocketFree _ | .NlmsgFree _ | .NlCacheFree _ | .NlObjectFree _ | .Close _ |
    .NlSocketDisableSeqCheck _ | .PresenceChanged _ _ => ()
  | .GenlmsgPut _ _ _ _ => true
  | .NlRecvmsgsDefault _ => ⟨0, 0, []⟩
  | .RtnlLinks _ => []
  | .RtnlAddrs _ => []
  | .RtnlLinkGet _ => ⟨1, str "wlan0", none, []⟩
  | .IfNametoindex _ => (1 : UInt32)
  | .IfIndextoname _ => str "wlan0"
  | .EpollWait _ => .ok []
  | .StopRequested => false
  | .MakeAccessPoint _ => (past.length, true)
  | .EpollCreate1 | .Eventfd | .NlSocketGetFd _ => Int.ofNat (first + past.length)
  | .GenlConnect _ | .NlConnect _ _ | .GenlCtrlResolve _ _ | .GenlCtrlResolveGrp _ _ _ |
    .NlaPutU32 _ _ _ | .NlSocketModifyCb _ | .NlSendAuto _ _ | .NlSocketAddMembership _ _ |
    .NlSocketSetNonblocking _ | .EpollCtlAdd _ _ | .EpollCtlAddSocket _ _ _ => (0 : Int)

-- A message or a socket that is owned, or none after it was moved or released.
structure NetlinkMessage where
  message : Pointer := none
  deriving DecidableEq, Repr

structure NetlinkSocket where
  socket : Pointer := none
  deriving DecidableEq, Repr

namespace NetlinkMessage

def allocate : NetlinkAction NetlinkMessage := do
  let message ← call .NlmsgAlloc
  return ⟨message⟩

def free (message : Nat) : NetlinkAction Unit := do
  call (.NlmsgFree (some message))

def reset (netlinkMessage : NetlinkMessage) : NetlinkAction NetlinkMessage := do
  let message ← UniquePointer.reset free netlinkMessage.message
  return ⟨message⟩

def destroy (netlinkMessage : NetlinkMessage) : NetlinkAction Unit := do
  let _ ← netlinkMessage.reset

end NetlinkMessage

def NLE_NOMEM : Int := 5

namespace NetlinkSocket

def allocate : NetlinkAction NetlinkSocket := do
  let socket ← call .NlSocketAlloc
  match (socket : Pointer) with
  | none => .Throw (.SystemError NLE_NOMEM (str "Failed to allocate netlink socket"))
  | some socket => return ⟨some socket⟩

def free (socket : Nat) : NetlinkAction Unit := do
  call (.NlSocketFree (some socket))

def reset (netlinkSocket : NetlinkSocket) : NetlinkAction NetlinkSocket := do
  let socket ← UniquePointer.reset free netlinkSocket.socket
  return ⟨socket⟩

def destroy (netlinkSocket : NetlinkSocket) : NetlinkAction Unit := do
  let _ ← netlinkSocket.reset

end NetlinkSocket

def failedToConnect (ret : Int) : NetlinkFault :=
  .SystemError (-ret)
    (str "Failed to connect netlink socket for nl control with error " ++ signedDecimal (-ret))

-- The socket is moved out to the caller.
def createConnectedSocket (connect : Pointer → NetlinkAction Int) :
    NetlinkAction NetlinkSocket := do
  let netlinkSocket ← NetlinkSocket.allocate
  Program.guarded netlinkSocket.destroy do
    let ret ← connect netlinkSocket.socket
    Program.onlyIf (ret < 0) (.Throw (failedToConnect ret))
    return netlinkSocket

def createNl80211Socket : NetlinkAction NetlinkSocket :=
  createConnectedSocket fun socket => call (.GenlConnect socket)

def NETLINK_ROUTE : Int := 0

def createNlRouteSocket : NetlinkAction NetlinkSocket :=
  createConnectedSocket fun socket => call (.NlConnect socket NETLINK_ROUTE)

end NetRemote.Netlink
