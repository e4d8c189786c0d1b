import NetRemote.Foundation.Table
import NetRemote.Streaming.DataStreamReader.Theorems
import NetRemote.Streaming.DataStreamReaderWriter.Theorems
import NetRemote.Streaming.DataStreamWriter.Theorems
import NetRemote.Streaming.DataStreamReaderWriter.Failures
import NetRemote.Streaming.DataStreamWriter.Download
import NetRemote.Wifi.AccessPointManager.Theorems
import NetRemote.Wifi.AccessPointControllerLinux.Theorems
import NetRemote.Wpa.Hostapd.Theorems
import NetRemote.Wpa.WpaEventHandler.Theorems
import NetRemote.Wpa.WpaResponseParser.Theorems
import NetRemote.Service.Adapters
import NetRemote.Service.NetRemoteService
import NetRemote.Wpa.Hostapd.Settings
import NetRemote.Wifi.AccessPointControllerLinux.Settings
import NetRemote.Service.NetRemoteService.Theorems
import NetRemote.Service.NetRemoteService.AuthenticationDot1x
import NetRemote.Service.NetRemoteService.PairwiseCipherSuites
import NetRemote.Service.NetRemoteService.PreSharedKey
import NetRemote.Wpa.WpaResponseParser.Safety
import NetRemote.Wpa.WpaResponseParser.Properties
import NetRemote.Wpa.Hostapd.SaePasswords
import NetRemote.Wifi.AccessPointControllerLinux.AkmSuites
import NetRemote.Wpa.WpaController.SendCommand
import NetRemote.Wpa.WpaController.Theorems
import NetRemote.Wifi.AccessPointDiscoveryAgentOperationsNetlink
import NetRemote.Wifi.AccessPointDiscoveryAgentOperationsNetlink.Stop
import NetRemote.Wifi.AccessPointManager.Operations
import NetRemote.Wifi.AccessPointDiscoveryAgentOperationsNetlink.Departures
import NetRemote.Foundation.Interleaving
import NetRemote.Service.NetRemoteService.SaePasswords
import NetRemote.Foundation.Followed
import NetRemote.Wpa.Hostapd.Setters
import NetRemote.Wpa.Hostapd.Enforcement
import NetRemote.Wifi.AccessPointControllerLinux.Enforcement
import NetRemote.Wifi.AccessPointControllerLinux.Calls
import NetRemote.Wifi.AccessPointControllerLinux.RadiusServers
import NetRemote.Wifi.AccessPointControllerLinux.PhyType
import NetRemote.Service.NetRemoteService.Items
import NetRemote.Service.NetRemoteService.ItemRuns
import NetRemote.Service.NetRemoteService.Ssid
import NetRemote.Service.NetRemoteService.PeerMacAddresses
import NetRemote.Service.NetRemoteService.Enable
import NetRemote.Service.NetRemoteService.UnknownValues
import NetRemote.Service.NetRemoteService.Validation
import NetRemote.Cli.NetRemoteCli.RadiusServerEndpoint
import NetRemote.Cli.NetRemoteCli.AccessPointEnable
import NetRemote.Cli.NetRemoteCliHandlerOperations.RoundTrip
import NetRemote.Wifi.AccessPointManager.Creation
import NetRemote.Wifi.AccessPointDiscoveryAgent
import NetRemote.Foundation.Regex
import NetRemote.Net.NetworkIpAddress
import NetRemote.Streaming.DataBlocks
import NetRemote.Streaming.DataStreamReaderWriter.Writes
import NetRemote.Service.NetRemoteService.OperationalState
import NetRemote.Foundation.Scripted
import NetRemote.Wpa.Hostapd.RadiusEndpoints
import NetRemote.Wpa.Hostapd.SaePasswordList
import NetRemote.Service.NetRemoteService.SaePasswordList
import NetRemote.Service.NetRemoteService.PreSharedKeyHex
import NetRemote.Foundation.BitSet
import NetRemote.Wpa.Hostapd.Bitmasks
import NetRemote.Wpa.Hostapd.KeyManagement
import NetRemote.Wifi.AccessPointControllerLinux.AkmSuitesCheck
import NetRemote.Foundation.Search
import NetRemote.Wpa.WpaEvent
import NetRemote.Wpa.WpaEvent.Theorems
import NetRemote.Wpa.WpaEventHandler.Registrations
import NetRemote.Wpa.WpaEventHandler.Dispatch
import NetRemote.Wpa.WpaEventHandler.Dispatch.Theorems
import NetRemote.Service.ToServiceDot1xAdapters
import NetRemote.Strings.StringParsing
import NetRemote.Cli.NetRemoteCli.MacAddress
import NetRemote.Net.NetworkIpAddress.Grammar
import NetRemote.Net.NetworkOperationsLinux
import NetRemote.Service.NetRemoteService.Enumerate
import NetRemote.Wifi.AccessPointControllerLinux.SupportedPhyTypes
import NetRemote.Foundation.Json
import NetRemote.Foundation.FromChars
import NetRemote.Foundation.Attributes
import NetRemote.Netlink.Nl80211Messages
import NetRemote.Wpa.WpaResponseParser.Integers
import NetRemote.Wifi.AccessPointAttributes
import NetRemote.Netlink.Nl80211Messages.Bounds
import NetRemote.Foundation.Output
import NetRemote.Wpa.Hostapd.Installation
import NetRemote.Wifi.AccessPointControllerLinux.Installation
import NetRemote.Service.NetRemoteService.Requests
import NetRemote.Foundation.Store
import NetRemote.Service.NetRemoteService.Installation
import NetRemote.Service.NetRemoteService.Independence
import NetRemote.Foundation.Interpretation
import NetRemote.Service.NetRemoteService.Refinement
import NetRemote.Service.NetRemoteService.Safety
import NetRemote.Wpa.WpaController.WireFormat
import NetRemote.Service.NetRemoteService.Commands
import NetRemote.Foundation.Resources
import NetRemote.Netlink.NetlinkSocket
import NetRemote.Netlink.NetlinkOperations
import NetRemote.Wifi.AccessPointDiscoveryAgentOperationsNetlink.EventLoop
import NetRemote.Netlink.NetlinkOperations.Tidy
import NetRemote.Wifi.AccessPointDiscoveryAgentOperationsNetlink.Resources
import NetRemote.Foundation.UniquePointer
import NetRemote.Netlink.Ownership
import NetRemote.Foundation.Account
import NetRemote.Wifi.AccessPointDiscoveryAgentOperationsNetlink.Reporting
import NetRemote.Cli.NetRemoteCliHandlerOperations.Installation
import NetRemote.Server.NetRemoteServer
import NetRemote.Server.NetRemoteServer.Lifecycle
import NetRemote.Foundation.Reliance
import NetRemote.Net.NetworkManager
import NetRemote.Service.NetRemoteService.NetworkInterfaces
import NetRemote.Server.NetRemoteServerConfiguration
import NetRemote.Server.NetRemoteServerConfiguration.Enumeration
