import NetRemote.Netlink.NetlinkOperations
import NetRemote.Wifi.AccessPointDiscoveryAgentOperationsNetlink

namespace NetRemote.Wifi.AccessPointDiscoveryAgentOperationsNetlink

open Foundation Foundation.Bytes Netlink

def EINTR : Int := 4

-- The socket is moved to the thread that `Start` creates.
def subscribe (protocolState : Nl80211ProtocolState) : NetlinkAction NetlinkSocket := do
  let nl80211Socket ← createNl80211Socket
  Program.guarded nl80211Socket.destroy do
    let ret : Int ← call (.NlSocketAddMembership nl80211Socket.socket
      ((protocolState.multicastGroupId.lookup .Configuration).getD 0))
    Program.onlyIf (ret < 0) (.Throw (.NetlinkException (-ret)
      (str "Failed to add netlink socket membership for 'NL80211_MULTICAST_GROUP_CONFIG'")))
    return nl80211Socket

section Thread

variable (order : GroupOrder) (protocolState : Nl80211ProtocolState)

def reportMessage (netlinkMessage : ParsedMessage) : NetlinkAction Unit :=
  if !netlinkMessage.headerValid then return ()
  else if !netlinkMessage.attributesValid then return ()
  else if netlinkMessage.cmd = NL80211_CMD_NEW_INTERFACE ∨
      netlinkMessage.cmd = NL80211_CMD_DEL_INTERFACE then
    let accessPointPresenceEvent : AccessPointPresenceEvent :=
      if netlinkMessage.cmd = NL80211_CMD_NEW_INTERFACE then .Arrived else .Departed
    match netlinkMessage.nl80211Interface with
    | none => return ()
    | some nl80211Interface => do
        let wiphy ← Nl80211Wiphy.fromIndex order (some protocolState) nl80211Interface.wiphyIndex
        if nl80211Interface.supportsAccessPointMode fun _ => wiphy then do
          let (object, controllable) : Nat × Bool ← call (.MakeAccessPoint nl80211Interface.name)
          let accessPoint :=
            makeAccessPoint nl80211Interface ⟨fun _ => wiphy, object, controllable⟩
          call (.PresenceChanged accessPointPresenceEvent accessPoint)
        else return ()
  else return ()

-- A receipt that is interrupted is tried again. The loops have no bound of their own, so
-- that the number of rounds stands for how far they have come.
def handleNetlinkSocketReady (netlinkSocket : NetlinkSocket) : Nat → NetlinkAction Unit
  | 0 => return ()
  | rounds + 1 => do
      let received : Received ← call (.NlRecvmsgsDefault netlinkSocket.socket)
      received.messages.forM (reportMessage order protocolState)
      if received.ret < 0 ∧ received.errno = EINTR then
        handleNetlinkSocketReady netlinkSocket rounds
      else return ()

structure Descriptors where
  fdEpoll : Int
  netlinkSocketFileDescriptor : Int
  eventLoopStopFd : Int

def handleReady (netlinkSocket : NetlinkSocket) (descriptors : Descriptors) (rounds : Nat)
    (stopRequested : Bool) : List Int → NetlinkAction Bool
  | [] => return stopRequested
  | fd :: rest =>
      if fd = descriptors.netlinkSocketFileDescriptor then do
        handleNetlinkSocketReady order protocolState netlinkSocket rounds
        handleReady netlinkSocket descriptors rounds stopRequested rest
      else
        handleReady netlinkSocket descriptors rounds
          (stopRequested || fd = descriptors.eventLoopStopFd) rest

def eventLoop (netlinkSocket : NetlinkSocket) (descriptors : Descriptors) (stopRequested : Bool) :
    Nat → NetlinkAction Unit
  | 0 => return ()
  | rounds + 1 => do
      let requested : Bool ← call .StopRequested
      if requested || stopRequested then return ()
      else do
        let ready : Except Int (List Int) ← call (.EpollWait descriptors.fdEpoll)
        match ready with
        | .error errno =>
            if errno = EINTR then eventLoop netlinkSocket descriptors stopRequested rounds
            else return ()
        | .ok ready => do
            let stopRequested ←
              handleReady order protocolState netlinkSocket descriptors rounds stopRequested ready
            eventLoop netlinkSocket descriptors stopRequested rounds

def close (fd : Int) : NetlinkAction Unit := call (.Close fd)

-- Each step that fails ends the thread, which then leaves the scopes it has entered.
def processNetlinkMessagesThread (netlinkSocket : NetlinkSocket) (rounds : Nat) :
    NetlinkAction Unit :=
  Program.enclosed netlinkSocket.destroy do
    call (.NlSocketDisableSeqCheck netlinkSocket.socket)
    let ret : Int ← call (.NlSocketModifyCb netlinkSocket.socket)
    if ret < 0 then return ()
    else do
      let ret : Int ← call (.NlSocketSetNonblocking netlinkSocket.socket)
      if ret < 0 then return ()
      else do
        let netlinkSocketFileDescriptor : Int ← call (.NlSocketGetFd netlinkSocket.socket)
        if netlinkSocketFileDescriptor < 0 then return ()
        else do
          let fdEpoll : Int ← call .EpollCreate1
          if fdEpoll < 0 then return ()
          else Program.enclosed (close fdEpoll) do
            let ret : Int ← call
              (.EpollCtlAddSocket fdEpoll netlinkSocketFileDescriptor netlinkSocket.socket)
            if ret < 0 then return ()
            else do
              let eventLoopStopFd : Int ← call .Eventfd
              if eventLoopStopFd < 0 then return ()
              else Program.enclosed (close eventLoopStopFd) do
                let descriptors := { fdEpoll, netlinkSocketFileDescriptor, eventLoopStopFd }
                let ret : Int ← call (.EpollCtlAdd fdEpoll eventLoopStopFd)
                if ret < 0 then return ()
                else eventLoop order protocolState netlinkSocket descriptors false rounds

end Thread

-- All of a discovery, from the subscription to the end of the thread.
def discover (order : GroupOrder) (protocolState : Nl80211ProtocolState) (rounds : Nat) :
    NetlinkAction Unit := do
  let netlinkSocket ← subscribe protocolState
  processNetlinkMessagesThread order protocolState netlinkSocket rounds

end NetRemote.Wifi.AccessPointDiscoveryAgentOperationsNetlink
