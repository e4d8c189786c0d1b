import NetRemote.Service.ToDot11Adapters
import NetRemote.Wifi.Ieee80211AccessPointConfiguration

namespace NetRemote.Cli

open Foundation Foundation.Bytes Api Wifi Service

structure WifiAccessPointEnableRequest where
  accessPointId : ByteString := []
  configuration : Option Dot11AccessPointConfiguration := none

namespace NetRemoteCliHandlerOperations

variable (traversal : Table.Traversal Ieee80211SecurityProtocol (List Ieee80211CipherSuite))

-- Lists that are empty are not populated, which leaves them empty. There is
-- nothing for the BSSID.
def dot11AccessPointConfigurationOf
    (ieee80211AccessPointConfiguration : Ieee80211AccessPointConfiguration) :
    Dot11AccessPointConfiguration where
  ssid := ieee80211AccessPointConfiguration.ssid.map fun ssid => ⟨some (.Name ssid)⟩
  phyType := ieee80211AccessPointConfiguration.phyType.elim Dot11PhyTypeUnknown toDot11PhyType
  akmSuites := ieee80211AccessPointConfiguration.akmSuites.map toDot11AkmSuite
  pairwiseCipherSuites := ieee80211ToDot11CipherSuiteConfigurations traversal
    ieee80211AccessPointConfiguration.pairwiseCipherSuites
  authenticationAlgorithms :=
    ieee80211AccessPointConfiguration.authenticationAlgorithms.map toDot11AuthenticationAlgorithm
  frequencyBands := ieee80211AccessPointConfiguration.frequencyBands.map toDot11FrequencyBand
  authenticationData :=
    let authenticationData := ieee80211AccessPointConfiguration.authenticationData
    if authenticationData.psk.isNone && authenticationData.sae.isNone then none
    else
      some {
        psk := authenticationData.psk.map toDot11AuthenticationDataPsk
        sae := authenticationData.sae.map toDot11AuthenticationDataSae }

-- What `WifiAccessPointEnable` sends.
def wifiAccessPointEnable (accessPointId : ByteString)
    (ieee80211AccessPointConfiguration : Option Ieee80211AccessPointConfiguration) :
    WifiAccessPointEnableRequest where
  accessPointId := accessPointId
  configuration := ieee80211AccessPointConfiguration.map (dot11AccessPointConfigurationOf traversal)

end NetRemoteCliHandlerOperations

end NetRemote.Cli
