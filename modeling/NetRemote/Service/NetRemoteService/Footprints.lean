import NetRemote.Foundation.Store
import NetRemote.Service.NetRemoteService.Enable
import NetRemote.Service.NetRemoteService.Requests
import NetRemote.Wifi.AccessPointControllerLinux.Installation

namespace NetRemote.Service.NetRemoteService

open Foundation Foundation.Bytes Api Wifi Wpa Wpa.Hostapd
open AccessPointControllerLinux (settingsOf propertiesOf)

-- The settings that a call compiles to, with no value for what is drawn at random.
def compiled (platform : Platform) (request : AccessPointRequest) : List Setting :=
  (controllerRequests platform request).flatMap (settingsOf platform.toWifi)

-- The properties that a call can be about.
def footprint (platform : Platform) (request : AccessPointRequest) : List ByteString :=
  (controllerRequests platform request).flatMap propertiesOf

section Kinds

-- The operation that a property belongs to, as the number of its constructor.
def operationOf (propertyName : ByteString) : Option Nat :=
  let requests : List ControllerRequest :=
    [.SetPhyType .AX, .SetFrequencyBands [], .SetAuthenticationAlgorithms [],
      .SetAuthenticationData {}, .SetAkmSuites [], .SetPairwiseCipherSuites ∅, .SetSsid [],
      .SetNetworkBridge [], .SetRadiusConfiguration { authenticationServer := {} }]
  (requests.find? fun request => (propertiesOf request).contains propertyName).map (·.ctorIdx)

theorem operationOf_of_mem {request : ControllerRequest} {propertyName : ByteString}
    (h : propertyName ∈ propertiesOf request) :
    operationOf propertyName = some request.ctorIdx := by
  revert propertyName
  cases request with
  | SetPhyType ieeePhyType => cases ieeePhyType <;> decide
  | _ => simp only [propertiesOf, ControllerRequest.ctorIdx]; decide

theorem kind_authenticationDot1xRequest (authenticationDot1x : Dot11AuthenticationDot1x) :
    ((authenticationDot1xRequest authenticationDot1x).map (·.ctorIdx)).Sublist [11] := by
  obtain ⟨radius⟩ := authenticationDot1x
  cases radius with
  | none => exact List.nil_sublist _
  | some radius => exact List.Sublist.refl _

theorem kind_ssidRequest (ssid : Dot11Ssid) :
    ((ssidRequest ssid).map (·.ctorIdx)).Sublist [9] := by
  obtain ⟨value⟩ := ssid
  cases value with
  | none => exact List.nil_sublist _
  | some value => cases value <;> exact List.Sublist.refl _

-- A configuration asks for each operation once at most.
theorem kinds_configurationRequests (platform : Platform)
    (configuration : Dot11AccessPointConfiguration) :
    ((configurationRequests platform configuration).map (·.ctorIdx)).Sublist
      Enable.configurationOrder := by
  have hitems := (configurationRequests_sublist platform [] configuration).map (·.ctorIdx)
  rw [List.map_map] at hitems
  exact hitems.trans (Enable.sublist_itemsOf platform [] configuration)

theorem kinds_nodup (platform : Platform) (request : AccessPointRequest) :
    ((controllerRequests platform request).map (·.ctorIdx)).Nodup := by
  cases request with
  | Enable accessPointId configuration =>
      cases configuration with
      | none => exact List.nodup_nil
      | some configuration =>
          exact (kinds_configurationRequests platform configuration).nodup (by decide)
  | Disable accessPointId => exact List.nodup_nil
  | SetPhyType accessPointId phyType => exact List.nodup_singleton _
  | SetFrequencyBands accessPointId frequencyBands => exact List.nodup_singleton _
  | SetSsid accessPointId ssid =>
      cases ssid with
      | none => exact List.nodup_nil
      | some ssid => exact (kind_ssidRequest ssid).nodup (List.nodup_singleton _)
  | SetNetworkBridge accessPointId networkBridgeId => exact List.nodup_singleton _
  | SetAuthenticationDot1x accessPointId authenticationDot1x =>
      exact (kind_authenticationDot1xRequest authenticationDot1x).nodup (List.nodup_singleton _)

end Kinds

section Footprints

variable (platform : Platform)

-- Only what an operation refuses has the name of no property.
theorem fst_mem_of_mem_settingsOf {request : ControllerRequest} {setting : Setting}
    (h : setting ∈ settingsOf platform.toWifi request) :
    setting.1 ∈ propertiesOf request ∨ setting.1 = ProtocolHostapd.PropertyNameInvalid := by
  cases request with
  | GetOperationalState => cases h
  | GetCapabilities => cases h
  | SetOperationalState operationalState => cases h
  | SetPhyType ieeePhyType => exact .inl (List.mem_map_of_mem h)
  | SetFrequencyBands frequencyBands =>
      left
      simp only [settingsOf, AccessPointControllerLinux.frequencyBandSettings, List.mem_append,
        List.mem_singleton] at h
      rcases h with rfl | h
      · exact List.mem_cons_self
      · split_ifs at h
        · rw [List.mem_singleton.mp h]
          exact List.mem_cons_of_mem _ List.mem_cons_self
        · cases h
  | SetAuthenticationAlgorithms algorithms =>
      rw [List.mem_singleton.mp h]
      exact .inl List.mem_cons_self
  | SetAuthenticationData authenticationData =>
      left
      simp only [settingsOf, AccessPointControllerLinux.authenticationSettings, List.mem_append,
        List.mem_map, Option.mem_toList] at h
      rcases h with ⟨psk, _, rfl⟩ | h
      · cases ieee80211RsnaPskToWpaSharedKey psk with
        | WpaPskPassphraseT passphrase => exact List.mem_cons_self
        | WpaPskValueT value => exact List.mem_cons_of_mem _ List.mem_cons_self
      · cases hsae : authenticationData.sae with
        | none =>
            rw [hsae] at h
            cases h
        | some passwords =>
            rw [hsae] at h
            have hname : setting.1 = ProtocolHostapd.PropertyNameSaePassword := by
              rcases List.mem_cons.mp h with rfl | hpassword
              · rfl
              · obtain ⟨password, _, rfl⟩ := List.mem_map.mp hpassword
                rfl
            rw [hname]
            simp [propertiesOf]
  | SetAkmSuites akmSuites =>
      left
      simp only [settingsOf, keyManagementSettings, List.mem_append, List.mem_singleton] at h
      rcases h with (h | h) | rfl
      · split_ifs at h
        · rw [List.mem_singleton.mp h]
          simp [propertiesOf]
        · cases h
      · split_ifs at h
        · rw [List.mem_singleton.mp h]
          simp [propertiesOf]
        · cases h
      · simp [propertiesOf]
  | SetPairwiseCipherSuites pairwiseCipherSuites =>
      obtain ⟨entry, _, rfl⟩ := List.mem_map.mp h
      simp only [cipherSetting, wpaCipherPropertyName]
      split_ifs
      · exact .inl List.mem_cons_self
      · exact .inl (List.mem_cons_of_mem _ List.mem_cons_self)
      · exact .inr rfl
  | SetSsid ssid =>
      rw [List.mem_singleton.mp h]
      exact .inl List.mem_cons_self
  | SetNetworkBridge networkBridgeId =>
      rw [List.mem_singleton.mp h]
      exact .inl List.mem_cons_self
  | SetRadiusConfiguration radiusConfiguration =>
      left
      simp only [settingsOf, AccessPointControllerLinux.radiusConfigurationSettings,
        List.mem_append, List.mem_flatMap] at h
      rcases h with ⟨endpoint, _, hsetting⟩ | h
      · rcases fst_of_mem_radiusSettings hsetting with hname | hname | hname <;> rw [hname] <;>
          cases endpoint.type <;> simp [propertiesOf]
      · rcases List.mem_pair.mp h with rfl | rfl <;> simp [propertiesOf]

-- Two operations of different kinds have no property in common.
theorem ne_of_kind_ne {request other : ControllerRequest} (h : other.ctorIdx ≠ request.ctorIdx)
    {propertyName : ByteString} (hname : propertyName ∈ propertiesOf request)
    (hvalid : propertyName ≠ ProtocolHostapd.PropertyNameInvalid) :
    ∀ setting ∈ settingsOf platform.toWifi other, setting.1 ≠ propertyName := by
  rintro setting hsetting rfl
  rcases fst_mem_of_mem_settingsOf platform hsetting with hother | hother
  · have hkind := (operationOf_of_mem hother).symm.trans (operationOf_of_mem hname)
    exact h (Option.some.inj hkind)
  · exact hvalid hother

theorem kind_ne {request : AccessPointRequest} {item other : ControllerRequest}
    {before later : List ControllerRequest}
    (hitems : controllerRequests platform request = before ++ item :: later)
    (hother : other ∈ before ++ later) : other.ctorIdx ≠ item.ctorIdx := by
  have hnodup := kinds_nodup platform request
  rw [hitems, List.map_append, List.map_cons, List.nodup_middle, List.nodup_cons,
    ← List.map_append] at hnodup
  intro hkind
  exact hnodup.1 (List.mem_map.mpr ⟨other, hother, hkind⟩)

-- The identifier of the network access server is drawn by one operation, once.
theorem length_writtenTo_nasIdentifier (request : AccessPointRequest) :
    (Store.writtenTo ProtocolHostapd.PropertyNameNasIdentifier
      (compiled platform request)).length ≤ 1 := by
  by_cases hdrawn : ∃ item ∈ controllerRequests platform request,
      ProtocolHostapd.PropertyNameNasIdentifier ∈ propertiesOf item
  · obtain ⟨item, hmem, hname⟩ := hdrawn
    obtain ⟨before, later, hitems⟩ := List.append_of_mem hmem
    have hwritten : Store.writtenTo ProtocolHostapd.PropertyNameNasIdentifier
        (compiled platform request) = Store.writtenTo ProtocolHostapd.PropertyNameNasIdentifier
          (settingsOf platform.toWifi item) :=
      Store.writtenTo_flatMap hitems fun other hother =>
        ne_of_kind_ne platform (kind_ne platform hitems hother) hname (by decide)
    have hkind : item.ctorIdx = 7 := by
      have hoperation := operationOf_of_mem hname
      have hseven : operationOf ProtocolHostapd.PropertyNameNasIdentifier = some 7 := by decide
      exact (Option.some.inj (hseven.symm.trans hoperation)).symm
    rw [hwritten]
    cases item with
    | SetAkmSuites akmSuites => exact length_writtenTo_keyManagementSettings _
    | _ => cases hkind
  · have hnone : Store.writtenTo ProtocolHostapd.PropertyNameNasIdentifier
        (compiled platform request) = [] := by
      apply Store.writtenTo_eq_nil
      intro setting hsetting hname
      obtain ⟨item, hitem, hsettings⟩ := List.mem_flatMap.mp hsetting
      rcases fst_mem_of_mem_settingsOf platform hsettings with hmem | hinvalid
      · exact hdrawn ⟨item, hitem, hname ▸ hmem⟩
      · rw [hname] at hinvalid
        revert hinvalid
        decide
    rw [hnone]
    exact Nat.zero_le 1

end Footprints


end NetRemote.Service.NetRemoteService
