import NetRemote.Service.NetRemoteService.Footprints
import NetRemote.Service.NetRemoteService.Theorems

namespace NetRemote.Service.NetRemoteService

open Foundation Foundation.Bytes Api Wifi Wpa Wpa.Hostapd
open AccessPointControllerLinux (settingsOf Succeeded installs_perform within_perform)

-- Every access point is one of this machine, with the controller that talks to its
-- hostapd.
def OnLinux (platform : Platform) (accessPointManager : IAccessPointManager System) : Prop :=
  ∀ accessPointId accessPoint,
    accessPointManager.getAccessPoint accessPointId = some (some accessPoint) →
      accessPoint.createController =
        .ok (some (accessPointControllerLinux platform.toWifi accessPoint.interfaceName))

section Lookup

variable {E : Environment} (accessPointManager : IAccessPointManager E)
  (accessPointId : ByteString)

-- How the look-up of an access point ends that is not there, or not there any more.
def lost : AccessPointOperationStatus :=
  AccessPointOperationStatus.withCode
    ⟨accessPointId, str "TryGetAccessPoint", [], .Unknown⟩ .AccessPointInvalid
    (match accessPointManager.getAccessPoint accessPointId with
    | none => str "access point not found"
    | some _ => str "access point no longer valid")

theorem found_or_lost :
    (∃ accessPoint, accessPointManager.getAccessPoint accessPointId = some (some accessPoint)) ∨
      ∀ accessPoint, accessPointManager.getAccessPoint accessPointId ≠ some (some accessPoint) := by
  by_cases h : ∃ accessPoint,
      accessPointManager.getAccessPoint accessPointId = some (some accessPoint)
  · exact .inl h
  · exact .inr fun accessPoint hfound => h ⟨accessPoint, hfound⟩

variable {accessPointManager accessPointId}

theorem withAccessPointController_lost
    (h : ∀ accessPoint, accessPointManager.getAccessPoint accessPointId ≠ some (some accessPoint))
    (message : AccessPointOperationStatus → ByteString)
    (next : IAccessPointController E → Program E Fault WifiAccessPointOperationStatus) :
    withAccessPointController accessPointManager accessPointId none message next =
      .Return (failed .AccessPointInvalid (message (lost accessPointManager accessPointId))) := by
  cases hfound : accessPointManager.getAccessPoint accessPointId with
  | none =>
      simp only [withAccessPointController, tryGetAccessPointController, tryGetAccessPoint, hfound,
        lost]
      rfl
  | some found =>
      cases found with
      | none =>
          simp only [withAccessPointController, tryGetAccessPointController, tryGetAccessPoint,
            hfound, lost]
          rfl
      | some accessPoint => exact absurd hfound (h accessPoint)

end Lookup

section Items

variable (platform : Platform) (accessPointManager : IAccessPointManager System)
  (accessPointId interfaceName : ByteString)

theorem not_succeeds_invalid (message : ByteString) :
    ¬ Succeeds (failed .InvalidParameter message) := nofun

theorem not_succeeds_unsupported (message : ByteString) :
    ¬ Succeeds (failed .OperationNotSupported message) := nofun

theorem not_succeeds_toDot11 {operationStatus : AccessPointOperationStatus}
    (h : operationStatus.succeeded = false) (message : ByteString) :
    ¬ Succeeds (failed (toDot11AccessPointOperationStatusCode operationStatus.code) message) := by
  intro hstatus
  have hcode : operationStatus.code = .Succeeded := (toDot11_succeeded _).mp hstatus
  rw [AccessPointOperationStatus.succeeded, hcode] at h
  cases h

theorem installs_accessPointControllerLinux (request : ControllerRequest) :
    Installs (fun result => Succeeded result.1) (settingsOf platform.toWifi request)
      (accessPointControllerLinux platform.toWifi interfaceName request) :=
  Program.outputs_handled (installs_perform platform.toWifi interfaceName request)
    fun _ => Program.abandons_throw _

theorem installs_settle (request : ControllerRequest) (what : ByteString) :
    Installs Succeeds (settingsOf platform.toWifi request)
      (accessPointControllerLinux platform.toWifi interfaceName request >>= fun result =>
        .Return (settle accessPointId what result.1)) :=
  Program.outputs_map (fun _ hstatus => (settle_code _ _ _).mp hstatus)
    (installs_accessPointControllerLinux platform interfaceName request)

theorem within_query {request : ControllerRequest}
    (h : AccessPointControllerLinux.propertiesOf request = []) :
    (accessPointControllerLinux platform.toWifi interfaceName request).Within
      (Unwatched anyProperty) := by
  apply within_accessPointControllerLinux
  intro propertyName hmem
  rw [h] at hmem
  cases hmem

-- A controller is given or looked up, and in the end it is one of this machine.
def Obtains (accessPointController : Option (IAccessPointController System)) : Prop :=
  ∀ (message : AccessPointOperationStatus → ByteString)
    (next : IAccessPointController System → Wpa.Action WifiAccessPointOperationStatus)
    (sent : List Setting),
    (∀ interfaceName,
      Installs Succeeds sent (next (accessPointControllerLinux platform.toWifi interfaceName))) →
    Installs Succeeds sent
      (withAccessPointController accessPointManager accessPointId accessPointController message
        next)

theorem obtains_some :
    Obtains platform accessPointManager accessPointId
      (some (accessPointControllerLinux platform.toWifi interfaceName)) :=
  fun _ _ _ hnext => hnext interfaceName

theorem obtains_none (hlinux : OnLinux platform accessPointManager) :
    Obtains platform accessPointManager accessPointId none := by
  intro message next sent hnext
  rcases found_or_lost accessPointManager accessPointId with ⟨accessPoint, hfound⟩ | hlost
  · rw [withAccessPointController_found hfound (hlinux _ _ hfound)]
    exact hnext accessPoint.interfaceName
  · rw [withAccessPointController_lost hlost]
    exact installs_refuse nofun

variable {platform accessPointManager accessPointId}
  {accessPointController : Option (IAccessPointController System)}
  (hobtains : Obtains platform accessPointManager accessPointId accessPointController)

include hobtains

theorem installs_setPhyTypeImpl (phyType : Dot11PhyType) :
    Installs Succeeds (settingsOf platform.toWifi (.SetPhyType (fromDot11PhyType phyType)))
      (wifiAccessPointSetPhyTypeImpl accessPointManager accessPointId accessPointController
        phyType) := by
  unfold wifiAccessPointSetPhyTypeImpl
  split_ifs
  · exact installs_refuse (not_succeeds_invalid _)
  · apply hobtains
    intro interfaceName
    apply Program.outputs_after (unseen_within (within_query platform interfaceName rfl))
    rintro ⟨operationStatus, accessPointCapabilities⟩
    dsimp only
    split_ifs with hstatus
    · exact installs_refuse (not_succeeds_toDot11 ((Bool.not_eq_true' _).mp hstatus) _)
    · exact installs_refuse (not_succeeds_unsupported _)
    · exact installs_settle platform accessPointId interfaceName _ _

theorem installs_setFrequencyBandsImpl (frequencyBands : List Dot11FrequencyBand) :
    Installs Succeeds
      (settingsOf platform.toWifi (.SetFrequencyBands (frequencyBands.map fromDot11FrequencyBand)))
      (wifiAccessPointSetFrequencyBandsImpl accessPointManager accessPointId accessPointController
        frequencyBands) := by
  unfold wifiAccessPointSetFrequencyBandsImpl
  split_ifs
  · exact installs_refuse (not_succeeds_invalid _)
  · exact installs_refuse (not_succeeds_invalid _)
  · apply hobtains
    intro interfaceName
    apply Program.outputs_after (unseen_within (within_query platform interfaceName rfl))
    rintro ⟨operationStatus, accessPointCapabilities⟩
    dsimp only
    split_ifs with hstatus
    · exact installs_refuse (not_succeeds_toDot11 ((Bool.not_eq_true' _).mp hstatus) _)
    · split
      · exact installs_refuse (not_succeeds_unsupported _)
      · exact installs_settle platform accessPointId interfaceName _ _

theorem installs_setNetworkBridgeImpl (networkBridgeId : ByteString) :
    Installs Succeeds (settingsOf platform.toWifi (.SetNetworkBridge networkBridgeId))
      (wifiAccessPointSetNetworkBridgeImpl accessPointManager accessPointId accessPointController
        networkBridgeId) :=
  hobtains _ _ _ fun interfaceName => installs_settle platform accessPointId interfaceName _ _

theorem installs_setAuthenticationAlgorithmsImpl (algorithms : List Dot11AuthenticationAlgorithm) :
    Installs Succeeds
      (settingsOf platform.toWifi
        (.SetAuthenticationAlgorithms (algorithms.map fromDot11AuthenticationAlgorithm)))
      (wifiAccessPointSetAuthenticationAlgorithmsImpl accessPointManager accessPointId
        accessPointController algorithms) := by
  unfold wifiAccessPointSetAuthenticationAlgorithmsImpl
  split_ifs
  · exact installs_refuse (not_succeeds_invalid _)
  · exact installs_refuse (not_succeeds_invalid _)
  · apply hobtains
    intro interfaceName
    dsimp only
    split_ifs
    · exact installs_refuse (not_succeeds_invalid _)
    · exact installs_settle platform accessPointId interfaceName _ _

theorem installs_setAuthenticationDataImpl (authenticationData : Dot11AuthenticationData) :
    Installs Succeeds
      (settingsOf platform.toWifi
        (.SetAuthenticationData (fromDot11AuthenticationData authenticationData)))
      (wifiAccessPointSetAuthenticationDataImpl accessPointManager accessPointId
        accessPointController authenticationData) := by
  unfold wifiAccessPointSetAuthenticationDataImpl
  split
  · exact installs_refuse (not_succeeds_invalid _)
  · exact hobtains _ _ _ fun interfaceName =>
      installs_settle platform accessPointId interfaceName _ _

theorem installs_setAkmSuitesImpl (akmSuites : List Dot11AkmSuite) :
    Installs Succeeds
      (settingsOf platform.toWifi (.SetAkmSuites (akmSuites.map fromDot11AkmSuite)))
      (wifiAccessPointSetAkmSuitesImpl accessPointManager accessPointId accessPointController
        akmSuites) := by
  unfold wifiAccessPointSetAkmSuitesImpl
  split_ifs
  · exact installs_refuse (not_succeeds_invalid _)
  · exact installs_refuse (not_succeeds_invalid _)
  · apply hobtains
    intro interfaceName
    dsimp only
    split_ifs
    · exact installs_refuse (not_succeeds_invalid _)
    · exact installs_settle platform accessPointId interfaceName _ _

theorem installs_setPairwiseCipherSuitesImpl
    (pairwiseCipherSuites : Table Dot11SecurityProtocol (List Dot11CipherSuite)) :
    Installs Succeeds
      (settingsOf platform.toWifi (.SetPairwiseCipherSuites
        (fromDot11CipherSuiteConfigurations platform.dot11CipherSuites pairwiseCipherSuites)))
      (wifiAccessPointSetPairwiseCipherSuitesImpl platform accessPointManager accessPointId
        accessPointController pairwiseCipherSuites) := by
  unfold wifiAccessPointSetPairwiseCipherSuitesImpl
  split_ifs
  · exact installs_refuse (not_succeeds_invalid _)
  · exact installs_refuse (not_succeeds_invalid _)
  · apply hobtains
    intro interfaceName
    dsimp only
    split_ifs
    · exact installs_refuse (not_succeeds_invalid _)
    · exact installs_settle platform accessPointId interfaceName _ _

theorem installs_setSsidImpl (ssid : Dot11Ssid) :
    Installs Succeeds ((ssidRequest ssid).flatMap (settingsOf platform.toWifi))
      (wifiAccessPointSetSsidImpl accessPointManager accessPointId accessPointController ssid) := by
  obtain ⟨value⟩ := ssid
  unfold wifiAccessPointSetSsidImpl
  cases value with
  | none => exact installs_refuse (not_succeeds_invalid _)
  | some value =>
      apply hobtains
      intro interfaceName
      cases value with
      | Name name =>
          exact installs_settle platform accessPointId interfaceName (.SetSsid name) _
      | Hex hex => exact installs_settle platform accessPointId interfaceName (.SetSsid hex) _
      | Data data => exact installs_settle platform accessPointId interfaceName (.SetSsid data) _

theorem installs_setAuthenticationDot1xImpl (authenticationDot1x : Dot11AuthenticationDot1x) :
    Installs Succeeds
      ((authenticationDot1xRequest authenticationDot1x).flatMap (settingsOf platform.toWifi))
      (wifiAccessPointSetAuthenticationDot1xImpl accessPointManager accessPointId
        accessPointController authenticationDot1x) := by
  obtain ⟨radius⟩ := authenticationDot1x
  unfold wifiAccessPointSetAuthenticationDot1xImpl
  cases radius with
  | none => exact installs_refuse (not_succeeds_invalid _)
  | some radius =>
      have hrequest : (authenticationDot1xRequest ⟨some radius⟩).flatMap
          (settingsOf platform.toWifi) = settingsOf platform.toWifi
            (.SetRadiusConfiguration (fromServiceDot1xRadiusConfiguration radius)) :=
        List.flatMap_singleton _ _
      rw [hrequest]
      apply hobtains
      intro interfaceName
      dsimp only
      split
      · exact installs_refuse (not_succeeds_invalid _)
      · exact installs_settle platform accessPointId interfaceName _ _

end Items

section Configuration

variable {platform : Platform} {accessPointManager : IAccessPointManager System}
  {accessPointId : ByteString} {sent rest : List Setting}
  {item next : Wpa.Action WifiAccessPointOperationStatus}
  {items : List (Wpa.Action WifiAccessPointOperationStatus)}

theorem within_changeOperationalState (interfaceName : ByteString)
    (operationalState : AccessPointOperationalState) (name : ByteString) :
    (changeOperationalState accessPointId (accessPointControllerLinux platform.toWifi interfaceName)
      operationalState name).Within (Unwatched anyProperty) := by
  apply Program.within_bind (within_query platform interfaceName rfl)
  rintro ⟨operationStatus, currentState⟩
  dsimp only
  split_ifs
  · trivial
  · trivial
  · apply Program.within_bind (within_query platform interfaceName rfl)
    rintro ⟨operationStatus, _⟩
    dsimp only
    split_ifs <;> trivial

theorem installs_setConfigurationItems (hitem : Installs Succeeds sent item)
    (hrest : Installs Succeeds rest (setConfigurationItems items next)) :
    Installs Succeeds (sent ++ rest) (setConfigurationItems (item :: items) next) := by
  apply Program.outputs_checked hitem
  · intro status hstatus
    have hsucceeded : status.code = .Succeeded := hstatus
    rw [if_neg (by simp [hsucceeded])]
    exact hrest
  · intro status hstatus
    have hfailed : status.code ≠ .Succeeded := hstatus
    rw [if_pos hfailed]
    exact Program.abandons_return hstatus
  · exact Program.abandons_throw

theorem installs_optionalItem {c : Prop} [Decidable c] {request : ControllerRequest}
    (hitem : Installs Succeeds (settingsOf platform.toWifi request) item)
    (hnext : Installs Succeeds rest next) :
    Installs Succeeds
      ((if c then [request] else []).flatMap (settingsOf platform.toWifi) ++ rest)
      (setConfigurationItems (if c then [item] else []) next) := by
  by_cases hc : c
  · rw [if_pos hc, if_pos hc, List.flatMap_singleton]
    exact installs_setConfigurationItems hitem hnext
  · rw [if_neg hc, if_neg hc]
    exact hnext

theorem installs_optionItem {α : Type} {value : Option α}
    {itemOf : α → Wpa.Action WifiAccessPointOperationStatus}
    {requestsOf : α → List ControllerRequest}
    (hitem : ∀ value, Installs Succeeds
      ((requestsOf value).flatMap (settingsOf platform.toWifi)) (itemOf value))
    (hnext : Installs Succeeds rest next) :
    Installs Succeeds
      ((value.toList.flatMap requestsOf).flatMap (settingsOf platform.toWifi) ++ rest)
      (setConfigurationItems (value.toList.map itemOf) next) := by
  cases value with
  | none => exact hnext
  | some value =>
      rw [Option.toList_some, List.flatMap_singleton]
      exact installs_setConfigurationItems (hitem value) hnext

theorem installs_configurationItems (interfaceName : ByteString)
    (configuration : Dot11AccessPointConfiguration) (hnext : Installs Succeeds rest next) :
    Installs Succeeds
      ((configurationRequests platform configuration).flatMap (settingsOf platform.toWifi) ++ rest)
      (setConfigurationItems
        (configurationItems platform accessPointManager accessPointId
          (accessPointControllerLinux platform.toWifi interfaceName) configuration) next) := by
  have hobtains := obtains_some platform accessPointManager accessPointId interfaceName
  unfold configurationItems configurationRequests
  simp only [setConfigurationItems_append, List.flatMap_append, List.append_assoc]
  apply installs_optionalItem (installs_setPhyTypeImpl hobtains _)
  apply installs_optionItem (installs_setAuthenticationDot1xImpl hobtains)
  apply installs_optionalItem (installs_setAuthenticationAlgorithmsImpl hobtains _)
  apply installs_optionalItem (installs_setAuthenticationDataImpl hobtains _)
  apply installs_optionalItem (installs_setAkmSuitesImpl hobtains _)
  apply installs_optionalItem (installs_setPairwiseCipherSuitesImpl hobtains _)
  apply installs_optionItem (installs_setSsidImpl hobtains)
  exact installs_optionalItem (installs_setFrequencyBandsImpl hobtains _) hnext

theorem installs_wifiAccessPointEnable (hlinux : OnLinux platform accessPointManager)
    (configuration : Option Dot11AccessPointConfiguration) :
    Installs Succeeds
      ((configuration.elim [] (configurationRequests platform)).flatMap
        (settingsOf platform.toWifi))
      (wifiAccessPointEnable platform accessPointManager accessPointId configuration) := by
  apply obtains_none platform accessPointManager accessPointId hlinux
  intro interfaceName
  have hstate : (changeOperationalState accessPointId
      (accessPointControllerLinux platform.toWifi interfaceName) .Enabled (str "enabled")).Within
      (Unwatched anyProperty) := within_changeOperationalState interfaceName _ _
  rw [← List.append_nil (List.flatMap _ _)]
  cases configuration with
  | none => exact installs_of_within hstate
  | some configuration =>
      exact installs_configurationItems interfaceName configuration (installs_of_within hstate)

end Configuration

section Calls

variable {platform : Platform} {accessPointManager : IAccessPointManager System}

theorem installs_answer (hlinux : OnLinux platform accessPointManager)
    (request : AccessPointRequest) :
    Installs Succeeds (compiled platform request) (answer platform accessPointManager request) := by
  have hobtains (accessPointId : ByteString) :=
    obtains_none platform accessPointManager accessPointId hlinux
  have hsingle (request : ControllerRequest) :
      [request].flatMap (settingsOf platform.toWifi) = settingsOf platform.toWifi request :=
    List.flatMap_singleton _ _
  cases request with
  | Enable accessPointId configuration => exact installs_wifiAccessPointEnable hlinux configuration
  | Disable accessPointId =>
      exact hobtains accessPointId _ _ _ fun interfaceName =>
        installs_of_within (within_changeOperationalState interfaceName _ _)
  | SetPhyType accessPointId phyType =>
      rw [compiled, controllerRequests, hsingle]
      exact installs_setPhyTypeImpl (hobtains accessPointId) phyType
  | SetFrequencyBands accessPointId frequencyBands =>
      rw [compiled, controllerRequests, hsingle]
      exact installs_setFrequencyBandsImpl (hobtains accessPointId) frequencyBands
  | SetSsid accessPointId ssid =>
      cases ssid with
      | none => exact installs_refuse (not_succeeds_invalid _)
      | some ssid => exact installs_setSsidImpl (hobtains accessPointId) ssid
  | SetNetworkBridge accessPointId networkBridgeId =>
      rw [compiled, controllerRequests, hsingle]
      exact installs_setNetworkBridgeImpl (hobtains accessPointId) networkBridgeId
  | SetAuthenticationDot1x accessPointId authenticationDot1x =>
      exact installs_setAuthenticationDot1xImpl (hobtains accessPointId) authenticationDot1x

-- A call that fails leaves a part of its settings installed, from their start, and a call
-- that succeeds all of them, with the identifier that was drawn.
theorem answer_installs (hlinux : OnLinux platform accessPointManager)
    (request : AccessPointRequest) (trace : List System.Exchange)
    (outcome : Except Fault WifiAccessPointOperationStatus)
    (hruns : (answer platform accessPointManager request).Runs trace outcome) :
    ∃ identifier,
      installed trace <+: (compiled platform request).map (withIdentifier identifier) ∧
        ∀ status, outcome = .ok status → status.code = .Succeeded →
          installed trace = (compiled platform request).map (withIdentifier identifier) := by
  obtain ⟨hstart, hall⟩ := installs_answer hlinux request trace outcome hruns
  rw [filterMap_anonymousIn] at hstart hall
  have hone : (Store.writtenTo ProtocolHostapd.PropertyNameNasIdentifier
      (installed trace)).length ≤ 1 := by
    rw [← Store.length_writtenTo_fill _ []]
    exact ((hstart.filter _).map _).length_le.trans
      (length_writtenTo_nasIdentifier platform request)
  obtain ⟨identifier, hidentifier⟩ := Store.exists_fill hone
  have hfilled : ((installed trace).map (withIdentifier [])).map (withIdentifier identifier) =
      installed trace := by
    refine (List.map_map ..).trans ((List.map_congr_left fun setting _ => ?_).trans hidentifier)
    exact Store.fill_fill _ _ _ setting
  refine ⟨identifier, ?_, ?_⟩
  · rw [← hfilled]
    exact hstart.map _
  · intro status houtcome hsucceeded
    rw [← hall status houtcome hsucceeded, hfilled]

theorem answer_compiles (platform : Platform) (accessPointManager : IAccessPointManager System)
    (hlinux : OnLinux platform accessPointManager) (request : AccessPointRequest)
    (trace : List System.Exchange) (outcome : Except Fault WifiAccessPointOperationStatus)
    (hruns : (answer platform accessPointManager request).Runs trace outcome) :
    ∃ identifier,
      installed trace <+: (compiled platform request).map (withIdentifier identifier) ∧
        ∀ status, outcome = .ok status → status.code = .Succeeded →
          installed trace = (compiled platform request).map (withIdentifier identifier) :=
  answer_installs hlinux request trace outcome hruns

def defaultPlatform : Platform := { toWifi := default, dot11CipherSuites := default }

def wlan0Interface : IAccessPoint System :=
  ⟨str "wlan0", .ok (some (accessPointControllerLinux defaultPlatform.toWifi (str "wlan0")))⟩

def oneInterface : IAccessPointManager System :=
  ⟨fun accessPointId => if accessPointId = str "wlan0" then some (some wlan0Interface) else none⟩

theorem onLinux_oneInterface : OnLinux defaultPlatform oneInterface := by
  intro accessPointId accessPoint hfound
  simp only [oneInterface] at hfound
  split_ifs at hfound
  cases hfound
  rfl

def enableGuest : AccessPointRequest :=
  .Enable (str "wlan0") (some
    { ssid := some ⟨some (.Name (str "guest"))⟩
      authenticationAlgorithms := [Dot11AuthenticationAlgorithmOpenSystem] })

def enableGuestRun : List System.Exchange × Except Fault WifiAccessPointOperationStatus :=
  (answer defaultPlatform oneInterface enableGuest).run
    (AccessPointControllerLinux.acknowledging (some (str "ssid=guest"))) []

-- One of the suites is for fast transition.
def enableRoaming : AccessPointRequest :=
  .Enable (str "wlan0") (some
    { ssid := some ⟨some (.Name (str "guest"))⟩
      akmSuites := [Dot11AkmSuiteFtPsk] })

def enableRoamingRun : List System.Exchange × Except Fault WifiAccessPointOperationStatus :=
  (answer defaultPlatform oneInterface enableRoaming).run
    (AccessPointControllerLinux.acknowledging (some (str "key_mgmt=FT-PSK"))) []

theorem answer_compiles_roaming :
    ∃ identifier, installed enableRoamingRun.1 =
      [(str "nas_identifier", identifier), (str "wpa_key_mgmt", str "FT-PSK"),
        (str "ssid", str "guest")] := by
  obtain ⟨identifier, -, hall⟩ := answer_compiles defaultPlatform oneInterface onLinux_oneInterface
    enableRoaming enableRoamingRun.1 enableRoamingRun.2 (Program.runs_run _ _)
  have hsucceeds : enableRoamingRun.2 = .ok { code := .Succeeded } := by decide +kernel
  have hcompiled : compiled defaultPlatform enableRoaming =
      [(str "nas_identifier", []), (str "wpa_key_mgmt", str "FT-PSK"),
        (str "ssid", str "guest")] := by decide +kernel
  refine ⟨identifier, (hall _ hsucceeds rfl).trans ?_⟩
  rw [hcompiled]
  rfl

end Calls

end NetRemote.Service.NetRemoteService
