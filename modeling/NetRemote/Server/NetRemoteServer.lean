import NetRemote.Foundation.Program
import NetRemote.Net.NetworkOperationsLinux
import NetRemote.Server.NetRemoteServerConfiguration

namespace NetRemote.Server

open Foundation Foundation.Bytes Net

-- A D-Bus object path, which is not empty.
structure ObjectPath where
  path : ByteString
  nonempty : path ≠ []
  deriving DecidableEq, Repr

-- What systemd-resolved is told of a service.
structure DnssdService where
  serviceName : ByteString
  protocol : ByteString
  port : UInt16
  priority : UInt16
  weight : UInt16
  txtDataRecord : List (Table ByteString ByteString)

inductive HostRequest where
  | NetlinkIpAddresses
  | RegisterService (service : DnssdService)
  | UnregisterService (serviceObjectPath : ByteString)
  | BuildAndStart (serverAddress : ByteString)
  | Shutdown (server : Nat)

-- The addresses are told in the order of their container and with the links that are
-- found for them; a D-Bus call that fails throws an error with a text.
def HostRequest.Reply : HostRequest → Type
  | .NetlinkIpAddresses => List NetlinkIpAddress × (Int → Option NetlinkLink)
  | .RegisterService _ => Except ByteString ObjectPath
  | .UnregisterService _ => Except ByteString Unit
  | .BuildAndStart _ => Option Nat
  | .Shutdown _ => Unit

abbrev Host : Environment := ⟨HostRequest, HostRequest.Reply⟩

abbrev HostAction := Program Host Empty

def ask (request : HostRequest) : HostAction request.Reply := Program.ask (E := Host) request

namespace ResolvedDnssd

def getInterfaceTypeName : NetworkInterfaceType → ByteString
  | .Unknown => str "Unknown"
  | .Other => str "Other"
  | .Ethernet => str "Ethernet"
  | .Wifi => str "Wifi"
  | .Bridge => str "Bridge"

def withoutPrefixLength (ipAddress : ByteString) : ByteString :=
  match findLastOf ipAddress 47 with
  | none => ipAddress
  | some prefixIndex => ipAddress.take prefixIndex

def buildTxtDataRecordIpAddressKeyValuePair (ipAddress : ByteString)
    (ipAddressInformation : IpAddressInformation) : ByteString × ByteString :=
  (withoutPrefixLength ipAddress, getInterfaceTypeName ipAddressInformation.interfaceType)

-- An insertion leaves an entry that exists as it is.
def buildTxtDataRecord (traversal : Table.Traversal ByteString IpAddressInformation)
    (ipAddresses : Table ByteString IpAddressInformation) : Table ByteString ByteString :=
  (traversal.visit ipAddresses).foldl (fun txtDataRecord entry =>
    let pair := buildTxtDataRecordIpAddressKeyValuePair entry.1 entry.2
    txtDataRecord.emplace pair.1 pair.2) ∅

def registerService (serviceName protocol : ByteString) (port : UInt16)
    (txtDataRecord : List (Table ByteString ByteString)) (priority weight : Option UInt16) :
    HostAction ByteString := do
  let result : Except ByteString ObjectPath ← ask (.RegisterService {
    serviceName, protocol, port, txtDataRecord
    priority := priority.getD 0
    weight := weight.getD 0 })
  match result with
  | .ok dnssdObjectPath => return dnssdObjectPath.path
  | .error _ => return []

def unregisterService (serviceObjectPath : ByteString) : HostAction Bool := do
  let result : Except ByteString Unit ← ask (.UnregisterService serviceObjectPath)
  match result with
  | .ok _ => return true
  | .error _ => return false

end ResolvedDnssd

def PortDefault : UInt16 := 5047
def DnssdServiceName : ByteString := str "netremote"
def DnssdServiceProtocol : ByteString := str "_netremote._udp"

structure NetRemoteDiscoveryServiceConfiguration where
  port : UInt16 := PortDefault
  name : ByteString := DnssdServiceName
  protocol : ByteString := DnssdServiceProtocol
  ipAddresses : Table ByteString IpAddressInformation := ∅

structure NetRemoteDiscoveryServiceLinuxDnssd where
  configuration : NetRemoteDiscoveryServiceConfiguration
  txtDataRecord : Table ByteString ByteString
  dbusServiceObjectPath : ByteString := []

namespace NetRemoteDiscoveryServiceLinuxDnssd

def create (traversal : Table.Traversal ByteString IpAddressInformation)
    (configuration : NetRemoteDiscoveryServiceConfiguration) :
    NetRemoteDiscoveryServiceLinuxDnssd where
  configuration := configuration
  txtDataRecord := ResolvedDnssd.buildTxtDataRecord traversal configuration.ipAddresses

def stop (service : NetRemoteDiscoveryServiceLinuxDnssd) :
    HostAction NetRemoteDiscoveryServiceLinuxDnssd :=
  if service.dbusServiceObjectPath = [] then return service
  else do
    let unregisterSucceeded ← ResolvedDnssd.unregisterService service.dbusServiceObjectPath
    return if unregisterSucceeded then { service with dbusServiceObjectPath := [] } else service

def start (service : NetRemoteDiscoveryServiceLinuxDnssd) :
    HostAction NetRemoteDiscoveryServiceLinuxDnssd := do
  let service ← (if service.dbusServiceObjectPath ≠ [] then service.stop else return service)
  let dbusServiceObjectPath ← ResolvedDnssd.registerService service.configuration.name
    service.configuration.protocol service.configuration.port [service.txtDataRecord] none none
  return if dbusServiceObjectPath = [] then service else { service with dbusServiceObjectPath }

end NetRemoteDiscoveryServiceLinuxDnssd

structure NetRemoteServer where
  serverAddress : ByteString
  discoveryService : Option NetRemoteDiscoveryServiceLinuxDnssd := none
  server : Option Nat := none

namespace NetRemoteServer

def initializeDiscoveryService (traversal : Table.Traversal ByteString IpAddressInformation)
    (discoveryServiceFactory : Bool) (netRemoteServer : NetRemoteServer) :
    HostAction NetRemoteServer :=
  if netRemoteServer.discoveryService.isSome then return netRemoteServer
  else if !discoveryServiceFactory then return netRemoteServer
  else do
    let (netlinkIpAddresses, fromInterfaceIndex) :
        List NetlinkIpAddress × (Int → Option NetlinkLink) ← ask .NetlinkIpAddresses
    let ipAddresses := getLocalIpAddressInformation fromInterfaceIndex netlinkIpAddresses
      netRemoteServer.serverAddress
    return { netRemoteServer with
      discoveryService :=
        some (NetRemoteDiscoveryServiceLinuxDnssd.create traversal { ipAddresses }) }

def construct (traversal : Table.Traversal ByteString IpAddressInformation)
    (configuration : NetRemoteServerConfiguration) : HostAction NetRemoteServer :=
  initializeDiscoveryService traversal configuration.discoveryServiceFactory
    { serverAddress := configuration.serverAddress }

-- Discovery is started whether the server was or not.
def run (netRemoteServer : NetRemoteServer) : HostAction NetRemoteServer :=
  if netRemoteServer.server.isSome then return netRemoteServer
  else do
    let server : Option Nat ← ask (.BuildAndStart netRemoteServer.serverAddress)
    match netRemoteServer.discoveryService with
    | none => return { netRemoteServer with server }
    | some discoveryService => do
        let discoveryService ← discoveryService.start
        return { netRemoteServer with server, discoveryService := some discoveryService }

def stopDiscovery (netRemoteServer : NetRemoteServer) : HostAction NetRemoteServer :=
  match netRemoteServer.discoveryService with
  | none => return netRemoteServer
  | some discoveryService => do
      let discoveryService ← discoveryService.stop
      return { netRemoteServer with discoveryService := some discoveryService }

-- The destructor does the same.
def stop (netRemoteServer : NetRemoteServer) : HostAction NetRemoteServer := do
  let netRemoteServer ← netRemoteServer.stopDiscovery
  match netRemoteServer.server with
  | none => return netRemoteServer
  | some server => do
      let _ ← ask (.Shutdown server)
      return { netRemoteServer with server := none }

inductive Operation where
  | Run
  | Stop
  deriving DecidableEq, Repr

def perform (netRemoteServer : NetRemoteServer) : Operation → HostAction NetRemoteServer
  | .Run => netRemoteServer.run
  | .Stop => netRemoteServer.stop

def performAll (netRemoteServer : NetRemoteServer) : List Operation → HostAction NetRemoteServer
  | [] => return netRemoteServer
  | operation :: rest => do
      let netRemoteServer ← netRemoteServer.perform operation
      netRemoteServer.performAll rest

-- A server from its construction on.
def live (traversal : Table.Traversal ByteString IpAddressInformation)
    (configuration : NetRemoteServerConfiguration) (operations : List Operation) :
    HostAction NetRemoteServer := do
  let netRemoteServer ← construct traversal configuration
  netRemoteServer.performAll operations

end NetRemoteServer

end NetRemote.Server
