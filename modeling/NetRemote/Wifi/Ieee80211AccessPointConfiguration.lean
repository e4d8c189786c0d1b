import NetRemote.Wifi.Ieee80211

namespace NetRemote.Wifi

open Foundation.Bytes

abbrev Ieee80211Bssid := Ieee80211MacAddress

structure Ieee80211AccessPointConfiguration where
  ssid : Option ByteString := none
  bssid : Option Ieee80211Bssid := none
  phyType : Option Ieee80211PhyType := none
  akmSuites : List Ieee80211AkmSuite := []
  pairwiseCipherSuites : CipherSuites := ∅
  authenticationAlgorithms : List Ieee80211AuthenticationAlgorithm := []
  frequencyBands : List Ieee80211FrequencyBand := []
  authenticationData : Ieee80211AuthenticationData := {}

end NetRemote.Wifi
