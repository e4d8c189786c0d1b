import NetRemote.Service.NetRemoteService.Items

namespace NetRemote.Service

open Foundation Foundation.Bytes Api Wifi Wpa

-- The remote procedure calls that change an access point, each with the fields of its
-- message.
inductive AccessPointRequest where
  | Enable (accessPointId : ByteString) (configuration : Option Dot11AccessPointConfiguration)
  | Disable (accessPointId : ByteString)
  | SetPhyType (accessPointId : ByteString) (phyType : Dot11PhyType)
  | SetFrequencyBands (accessPointId : ByteString) (frequencyBands : List Dot11FrequencyBand)
  | SetSsid (accessPointId : ByteString) (ssid : Option Dot11Ssid)
  | SetNetworkBridge (accessPointId : ByteString) (networkBridgeId : ByteString)
  | SetAuthenticationDot1x (accessPointId : ByteString)
      (authenticationDot1x : Dot11AuthenticationDot1x)
  deriving DecidableEq

def AccessPointRequest.accessPointId : AccessPointRequest → ByteString
  | .Enable accessPointId _ => accessPointId
  | .Disable accessPointId => accessPointId
  | .SetPhyType accessPointId _ => accessPointId
  | .SetFrequencyBands accessPointId _ => accessPointId
  | .SetSsid accessPointId _ => accessPointId
  | .SetNetworkBridge accessPointId _ => accessPointId
  | .SetAuthenticationDot1x accessPointId _ => accessPointId

namespace NetRemoteService

section Calls

variable {E : Environment} (platform : Platform) (accessPointManager : IAccessPointManager E)

def wifiAccessPointDisable (accessPointId : ByteString) :
    Program E Fault WifiAccessPointOperationStatus :=
  wifiAccessPointDisableImpl accessPointManager accessPointId none

def wifiAccessPointSetPhyType (accessPointId : ByteString) (phyType : Dot11PhyType) :
    Program E Fault WifiAccessPointOperationStatus :=
  wifiAccessPointSetPhyTypeImpl accessPointManager accessPointId none phyType

def wifiAccessPointSetFrequencyBands (accessPointId : ByteString)
    (frequencyBands : List Dot11FrequencyBand) :
    Program E Fault WifiAccessPointOperationStatus :=
  wifiAccessPointSetFrequencyBandsImpl accessPointManager accessPointId none frequencyBands

-- A message without the field is refused before the access point is looked up.
def wifiAccessPointSetSsid (accessPointId : ByteString) (ssid : Option Dot11Ssid) :
    Program E Fault WifiAccessPointOperationStatus :=
  match ssid with
  | some ssid => wifiAccessPointSetSsidImpl accessPointManager accessPointId none ssid
  | none => .Return (failed .InvalidParameter (str "No SSID provided"))

def wifiAccessPointSetNetworkBridge (accessPointId networkBridgeId : ByteString) :
    Program E Fault WifiAccessPointOperationStatus :=
  wifiAccessPointSetNetworkBridgeImpl accessPointManager accessPointId none networkBridgeId

def answer : AccessPointRequest → Program E Fault WifiAccessPointOperationStatus
  | .Enable accessPointId configuration =>
      wifiAccessPointEnable platform accessPointManager accessPointId configuration
  | .Disable accessPointId => wifiAccessPointDisable accessPointManager accessPointId
  | .SetPhyType accessPointId phyType =>
      wifiAccessPointSetPhyType accessPointManager accessPointId phyType
  | .SetFrequencyBands accessPointId frequencyBands =>
      wifiAccessPointSetFrequencyBands accessPointManager accessPointId frequencyBands
  | .SetSsid accessPointId ssid => wifiAccessPointSetSsid accessPointManager accessPointId ssid
  | .SetNetworkBridge accessPointId networkBridgeId =>
      wifiAccessPointSetNetworkBridge accessPointManager accessPointId networkBridgeId
  | .SetAuthenticationDot1x accessPointId authenticationDot1x =>
      wifiAccessPointSetAuthenticationDot1x accessPointManager accessPointId authenticationDot1x

end Calls

section Requests

def ssidRequest (ssid : Dot11Ssid) : List ControllerRequest :=
  ssid.value.toList.map fun
    | .Name name => .SetSsid name
    | .Hex hex => .SetSsid hex
    | .Data data => .SetSsid data

def authenticationDot1xRequest (authenticationDot1x : Dot11AuthenticationDot1x) :
    List ControllerRequest :=
  authenticationDot1x.radius.toList.map fun radius =>
    .SetRadiusConfiguration (fromServiceDot1xRadiusConfiguration radius)

-- What a configuration asks of the controller, item by item.
def configurationRequests (platform : Platform) (configuration : Dot11AccessPointConfiguration) :
    List ControllerRequest :=
  let authenticationData := configuration.authenticationData.getD {}
  (if configuration.phyType ≠ Dot11PhyTypeUnknown then
    [.SetPhyType (fromDot11PhyType configuration.phyType)]
  else []) ++
  configuration.authenticationDot1x.toList.flatMap authenticationDot1xRequest ++
  (if configuration.authenticationAlgorithms ≠ [] then
    [.SetAuthenticationAlgorithms
      (configuration.authenticationAlgorithms.map fromDot11AuthenticationAlgorithm)]
  else []) ++
  (if authenticationData.psk.isSome || authenticationData.sae.isSome then
    [.SetAuthenticationData (fromDot11AuthenticationData authenticationData)]
  else []) ++
  (if configuration.akmSuites ≠ [] then
    [.SetAkmSuites (configuration.akmSuites.map fromDot11AkmSuite)]
  else []) ++
  (if configuration.pairwiseCipherSuites ≠ [] then
    [.SetPairwiseCipherSuites (fromDot11CipherSuiteConfigurations platform.dot11CipherSuites
      (toDot11CipherSuiteConfigurations configuration.pairwiseCipherSuites))]
  else []) ++
  configuration.ssid.toList.flatMap ssidRequest ++
  (if configuration.frequencyBands ≠ [] then
    [.SetFrequencyBands (configuration.frequencyBands.map fromDot11FrequencyBand)]
  else [])

-- What a call asks of the controller, apart from questions and from changes of the
-- operational state.
def controllerRequests (platform : Platform) : AccessPointRequest → List ControllerRequest
  | .Enable _ configuration => configuration.elim [] (configurationRequests platform)
  | .Disable _ => []
  | .SetPhyType _ phyType => [.SetPhyType (fromDot11PhyType phyType)]
  | .SetFrequencyBands _ frequencyBands =>
      [.SetFrequencyBands (frequencyBands.map fromDot11FrequencyBand)]
  | .SetSsid _ ssid => ssid.elim [] ssidRequest
  | .SetNetworkBridge _ networkBridgeId => [.SetNetworkBridge networkBridgeId]
  | .SetAuthenticationDot1x _ authenticationDot1x => authenticationDot1xRequest authenticationDot1x

end Requests

section Items

variable (platform : Platform) (accessPointId : ByteString)
  (configuration : Dot11AccessPointConfiguration)

-- Each of the requests is that of an item: only a value that is not given has none.
theorem configurationRequests_sublist :
    (configurationRequests platform configuration).Sublist
      ((itemsOf platform accessPointId configuration).map Item.request) := by
  have hif {c : Prop} [Decidable c] {request : ControllerRequest} {item : Item}
      (h : request = item.request) :
      (if c then [request] else []).Sublist ((if c then [item] else []).map Item.request) := by
    split_ifs <;> simp [h]
  have hmap {α : Type} {requestsOf : α → List ControllerRequest} {itemOf : α → Item}
      (h : ∀ value, (requestsOf value).Sublist [(itemOf value).request]) (value : Option α) :
      (value.toList.flatMap requestsOf).Sublist ((value.toList.map itemOf).map Item.request) := by
    cases value with
    | none => exact List.Sublist.refl _
    | some value => simpa using h value
  unfold configurationRequests itemsOf
  simp only [List.map_append]
  refine .append (.append (.append (.append (.append (.append (.append ?_ ?_) ?_) ?_) ?_) ?_) ?_) ?_
  · exact hif rfl
  · apply hmap
    rintro ⟨_ | radius⟩
    · exact List.nil_sublist _
    · exact List.Sublist.refl _
  · exact hif rfl
  · exact hif rfl
  · exact hif rfl
  · exact hif rfl
  · apply hmap
    rintro ⟨_ | _ | _ | _⟩
    · exact List.nil_sublist _
    all_goals exact List.Sublist.refl _
  · exact hif rfl

-- What an item asks for unless it is refused.
theorem itemsOf_sublist :
    (((itemsOf platform accessPointId configuration).filter fun item => item.refused.isNone).map
      Item.request).Sublist (configurationRequests platform configuration) := by
  have hif {c : Prop} [Decidable c] {request : ControllerRequest} {item : Item}
      (h : item.request = request) :
      (((if c then [item] else []).filter fun item => item.refused.isNone).map
        Item.request).Sublist (if c then [request] else []) := by
    split_ifs
    · rw [← h]
      exact List.Sublist.map Item.request List.filter_sublist
    · exact List.Sublist.refl _
  have hmap {α : Type} {requestsOf : α → List ControllerRequest} {itemOf : α → Item}
      (h : ∀ value, (itemOf value).refused = none → requestsOf value = [(itemOf value).request])
      (value : Option α) :
      (((value.toList.map itemOf).filter fun item => item.refused.isNone).map
        Item.request).Sublist (value.toList.flatMap requestsOf) := by
    cases value with
    | none => exact List.Sublist.refl _
    | some value =>
        cases hrefused : (itemOf value).refused with
        | none => simp [hrefused, h value hrefused]
        | some message => simp [hrefused]
  unfold configurationRequests itemsOf
  simp only [List.filter_append, List.map_append]
  refine .append (.append (.append (.append (.append (.append (.append ?_ ?_) ?_) ?_) ?_) ?_) ?_) ?_
  · exact hif rfl
  · apply hmap
    rintro ⟨_ | radius⟩ hrefused
    · cases hrefused
    · rfl
  · exact hif rfl
  · exact hif rfl
  · exact hif rfl
  · exact hif rfl
  · apply hmap
    rintro ⟨_ | _ | _ | _⟩ hrefused
    · cases hrefused
    all_goals rfl
  · exact hif rfl

end Items

end NetRemoteService

end NetRemote.Service
