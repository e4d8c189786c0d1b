import NetRemote.Netlink.NetlinkSocket
import NetRemote.Netlink.Nl80211Messages

namespace NetRemote.Netlink

open Foundation Foundation.Bytes Net

inductive Nl80211MulticastGroup where
  | Configuration
  | Scan
  | Regulatory
  | Mlme
  | Nan
  deriving DecidableEq, Repr

def Nl80211MulticastGroupNames : Table Nl80211MulticastGroup ByteString :=
  [(.Configuration, str "config"), (.Scan, str "scan"), (.Regulatory, str "regulatory"),
    (.Mlme, str "mlme"), (.Nan, str "nan")].foldl
      (fun (names : Table Nl80211MulticastGroup ByteString) entry => names.insert entry.1 entry.2) ∅

def NL80211_GENL_NAME : ByteString := str "nl80211"
def NL80211_CMD_GET_WIPHY : UInt8 := 1
def NL80211_CMD_GET_INTERFACE : UInt8 := 5
def NLM_F_DUMP : Nat := 0x300

structure Nl80211ProtocolState where
  driverId : Int := -1
  multicastGroupId : Table Nl80211MulticastGroup Int := ∅

-- The table of the names is visited in an order of its own.
abbrev GroupOrder := Table.Traversal Nl80211MulticastGroup ByteString

namespace Nl80211ProtocolState

def resolveGroups (netlinkSocket : NetlinkSocket)
    (multicastGroupId : Table Nl80211MulticastGroup Int) :
    List (Nl80211MulticastGroup × ByteString) → NetlinkAction (Table Nl80211MulticastGroup Int)
  | [] => return multicastGroupId
  | (multicastGroup, multicastGroupName) :: rest => do
      let id : Int ←
        call (.GenlCtrlResolveGrp netlinkSocket.socket NL80211_GENL_NAME multicastGroupName)
      if id < 0 then
        .Throw (.NetlinkException (-id) (str "Failed to resolve nl80211 " ++ multicastGroupName ++
          str " multicast group id"))
      else resolveGroups netlinkSocket (multicastGroupId.insert multicastGroup id) rest

def construct (order : GroupOrder) : NetlinkAction Nl80211ProtocolState := do
  let netlinkSocket ← NetlinkSocket.allocate
  Program.enclosed netlinkSocket.destroy do
    let ret : Int ← call (.GenlConnect netlinkSocket.socket)
    Program.onlyIf (ret < 0)
      (.Throw (.NetlinkException (-ret) (str "Failed to connect netlink socket for nl control")))
    let driverId : Int ← call (.GenlCtrlResolve netlinkSocket.socket NL80211_GENL_NAME)
    Program.onlyIf (driverId < 0)
      (.Throw (.NetlinkException (-driverId) (str "Failed to resolve nl80211 netlink id")))
    let multicastGroupId ← resolveGroups netlinkSocket ∅ (order.visit Nl80211MulticastGroupNames)
    return { driverId, multicastGroupId }

-- The one object is constructed by the first call, or by a later one where that threw.
def theInstance (order : GroupOrder) (constructed : Option Nl80211ProtocolState) :
    NetlinkAction Nl80211ProtocolState :=
  constructed.elim (construct order) fun protocolState => return protocolState

end Nl80211ProtocolState

-- A request is sent and its answers are received, unless one of the calls fails.
def transact (nl80211Socket : NetlinkSocket) (nl80211Message : NetlinkMessage) :
    NetlinkAction (Option (List ParsedMessage)) := do
  let ret : Int ← call (.NlSocketModifyCb nl80211Socket.socket)
  if ret < 0 then return none
  else do
    let ret : Int ← call (.NlSendAuto nl80211Socket.socket nl80211Message.message)
    if ret < 0 then return none
    else do
      let received : Received ← call (.NlRecvmsgsDefault nl80211Socket.socket)
      return if received.ret < 0 then none else some received.messages

section Nl80211

variable (order : GroupOrder) (constructed : Option Nl80211ProtocolState)

def Nl80211Interface.enumerate : NetlinkAction (List Nl80211Interface) := do
  let nl80211MessageGetInterfaces ← NetlinkMessage.allocate
  Program.enclosed nl80211MessageGetInterfaces.destroy
    (if nl80211MessageGetInterfaces.message = none then return []
    else do
      let protocolState ← Nl80211ProtocolState.theInstance order constructed
      let populated : Bool ← call (.GenlmsgPut nl80211MessageGetInterfaces.message
        protocolState.driverId NLM_F_DUMP NL80211_CMD_GET_INTERFACE)
      if !populated then return []
      else do
        let nl80211Socket ← createNl80211Socket
        Program.enclosed nl80211Socket.destroy do
          let messages ← transact nl80211Socket nl80211MessageGetInterfaces
          return (messages.getD []).filterMap (·.nl80211Interface))

-- Each message that is received replaces what was found in the one before.
def Nl80211Wiphy.fromId (identifier : Nat) (value : UInt32) :
    NetlinkAction (Option Nl80211Wiphy) := do
  let nl80211MessageGetWiphy ← NetlinkMessage.allocate
  Program.enclosed nl80211MessageGetWiphy.destroy
    (if nl80211MessageGetWiphy.message = none then return none
    else do
      let protocolState ← Nl80211ProtocolState.theInstance order constructed
      let populated : Bool ← call (.GenlmsgPut nl80211MessageGetWiphy.message
        protocolState.driverId 0 NL80211_CMD_GET_WIPHY)
      if !populated then return none
      else do
        let _ ← call (.NlaPutU32 nl80211MessageGetWiphy.message identifier value)
        let nl80211Socket ← createNl80211Socket
        Program.enclosed nl80211Socket.destroy do
          let messages ← transact nl80211Socket nl80211MessageGetWiphy
          return (messages.getD []).foldl (fun _ message => message.nl80211Wiphy) none)

def Nl80211Wiphy.fromIndex (wiphyIndex : UInt32) : NetlinkAction (Option Nl80211Wiphy) :=
  Nl80211Wiphy.fromId order constructed NL80211_ATTR_WIPHY wiphyIndex

def Nl80211Wiphy.fromInterfaceName (interfaceName : ByteString) :
    NetlinkAction (Option Nl80211Wiphy) := do
  let interfaceIndex : UInt32 ← call (.IfNametoindex interfaceName)
  if interfaceIndex = 0 then return none
  else Nl80211Wiphy.fromId order constructed NL80211_ATTR_IFINDEX interfaceIndex

end Nl80211

section Route

structure NetlinkLinkDetails extends NetlinkLink where
  interfaceIndex : Int
  macAddress : ByteString
  deriving DecidableEq, Repr

def NetlinkLinkDetails.fromRtnlLink (rtnlLink : RtnlLink) : NetlinkLinkDetails where
  interfaceIndex := rtnlLink.index
  name := rtnlLink.name
  type := rtnlLink.type.getD (str "none")
  macAddress := rtnlLink.macAddress

def fromRtnlAddr (rtnlAddress : RtnlAddr) : NetlinkIpAddress where
  interfaceIndex := rtnlAddress.index
  family := rtnlAddress.family
  prefixLength := rtnlAddress.prefixLength
  address := rtnlAddress.localAddress

def AF_UNSPEC : Int := 0

def freeCache (cache : Nat) : NetlinkAction Unit := call (.NlCacheFree (some cache))

def freeLink (rtnlLink : Nat) : NetlinkAction Unit := call (.NlObjectFree (some rtnlLink))

def cacheOrThrow (kind : ByteString) : Except Int Nat → NetlinkAction Nat
  | .ok cache => return cache
  | .error ret =>
      .Throw (.SystemError (-ret) (str "Failed to allocate " ++ kind ++ str " cache with error " ++
        signedDecimal (-ret)))

def netlinkEnumerateLinks : NetlinkAction (Finset NetlinkLinkDetails) := do
  let nlRouteSocket ← createNlRouteSocket
  Program.enclosed nlRouteSocket.destroy do
    let linkCache ←
      call (.RtnlLinkAllocCache nlRouteSocket.socket AF_UNSPEC) >>= cacheOrThrow (str "link")
    Program.enclosed (freeCache linkCache) do
      let rtnlLinks : List RtnlLink ← call (.RtnlLinks (some linkCache))
      return (rtnlLinks.map NetlinkLinkDetails.fromRtnlLink).toFinset

def netlinkEnumerateIpAddresses : NetlinkAction (Finset NetlinkIpAddress) := do
  let nlRouteSocket ← createNlRouteSocket
  Program.enclosed nlRouteSocket.destroy do
    let ipAddressCache ←
      call (.RtnlAddrAllocCache nlRouteSocket.socket) >>= cacheOrThrow (str "address")
    Program.enclosed (freeCache ipAddressCache) do
      let rtnlAddrs : List RtnlAddr ← call (.RtnlAddrs (some ipAddressCache))
      return (rtnlAddrs.map fromRtnlAddr).toFinset

def NetlinkLinkDetails.fromInterfaceIndex (interfaceIndex : Int) :
    NetlinkAction (Option NetlinkLinkDetails) := do
  let interfaceName : ByteString ← call (.IfIndextoname interfaceIndex)
  let nlRouteSocket ← createNlRouteSocket
  Program.enclosed nlRouteSocket.destroy do
    let rtnlLink : Except Int Nat ←
      call (.RtnlLinkGetKernel nlRouteSocket.socket interfaceIndex interfaceName)
    match rtnlLink with
    | .error _ => return none
    | .ok rtnlLink =>
        Program.enclosed (freeLink rtnlLink) do
          let found : RtnlLink ← call (.RtnlLinkGet (some rtnlLink))
          return some (NetlinkLinkDetails.fromRtnlLink found)

end Route

end NetRemote.Netlink
