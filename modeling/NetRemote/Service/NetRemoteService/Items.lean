import NetRemote.Service.NetRemoteService

namespace NetRemote.Service.NetRemoteService

open Foundation Foundation.Bytes Api Wifi Wpa

-- A controller whose every operation is one exchange, answered in any way.
def requested : IAccessPointController Controller := fun request =>
  Program.ask (E := Controller) request

def granted : AccessPointOperationStatus :=
  { accessPointId := str "wlan0", operationName := [], code := .Succeeded }

-- A controller that does what it is asked for, with given capabilities, for an access
-- point that is disabled.
def granting (accessPointCapabilities : Ieee80211AccessPointCapabilities)
    (_ : List Controller.Exchange) : (request : ControllerRequest) → Controller.Reply request
  | .GetOperationalState => (granted, some AccessPointOperationalState.Disabled)
  | .GetCapabilities => (granted, some accessPointCapabilities)
  | .SetOperationalState _ => (granted, ())
  | .SetPhyType _ => (granted, ())
  | .SetFrequencyBands _ => (granted, ())
  | .SetAuthenticationAlgorithms _ => (granted, ())
  | .SetAuthenticationData _ => (granted, ())
  | .SetAkmSuites _ => (granted, ())
  | .SetPairwiseCipherSuites _ => (granted, ())
  | .SetSsid _ => (granted, ())
  | .SetNetworkBridge _ => (granted, ())
  | .SetRadiusConfiguration _ => (granted, ())

theorem granting_fst (accessPointCapabilities : Ieee80211AccessPointCapabilities)
    (past : List Controller.Exchange) (request : ControllerRequest) :
    (granting accessPointCapabilities past request).1 = granted := by
  cases request <;> rfl

section Reaches

variable {E : Environment}

-- The controller is handed in, or the manager finds the access point that makes it.
def Reaches (accessPointManager : IAccessPointManager E) (accessPointId : ByteString)
    (accessPointController : Option (IAccessPointController E))
    (controller : IAccessPointController E) : Prop :=
  accessPointController = some controller ∨
    accessPointController = none ∧ ∃ accessPoint,
      accessPointManager.getAccessPoint accessPointId = some (some accessPoint) ∧
        accessPoint.createController = .ok (some controller)

theorem withAccessPointController_reaches {accessPointManager : IAccessPointManager E}
    {accessPointId : ByteString} {accessPointController : Option (IAccessPointController E)}
    {controller : IAccessPointController E}
    (h : Reaches accessPointManager accessPointId accessPointController controller)
    (message : AccessPointOperationStatus → ByteString)
    (next : IAccessPointController E → Program E Fault WifiAccessPointOperationStatus) :
    withAccessPointController accessPointManager accessPointId accessPointController message next =
      next controller := by
  rcases h with rfl | ⟨rfl, accessPoint, hfound, hcreated⟩
  · rfl
  · simp [withAccessPointController, tryGetAccessPointController, tryGetAccessPoint, hfound,
      hcreated]

-- No other controller is handed in or found.
def Finds (accessPointManager : IAccessPointManager E) (accessPointId : ByteString)
    (accessPointController : Option (IAccessPointController E))
    (controller : IAccessPointController E) : Prop :=
  match accessPointController with
  | some accessPointController => accessPointController = controller
  | none =>
      ∀ accessPoint created,
        accessPointManager.getAccessPoint accessPointId = some (some accessPoint) →
          accessPoint.createController = .ok (some created) → created = controller

-- A request that finds no controller ends at once.
theorem runs_withAccessPointController {accessPointManager : IAccessPointManager E}
    {accessPointId : ByteString} {accessPointController : Option (IAccessPointController E)}
    {controller : IAccessPointController E}
    (h : Finds accessPointManager accessPointId accessPointController controller)
    {message : AccessPointOperationStatus → ByteString}
    {next : IAccessPointController E → Program E Fault WifiAccessPointOperationStatus}
    {trace : List E.Exchange} {outcome : Except Fault WifiAccessPointOperationStatus}
    (hruns : (withAccessPointController accessPointManager accessPointId accessPointController
      message next).Runs trace outcome) :
    (Reaches accessPointManager accessPointId accessPointController controller ∧
      (next controller).Runs trace outcome) ∨
      trace = [] ∧ ∀ status, outcome = .ok status →
        status.code = .AccessPointInvalid ∨ status.code = .InternalError := by
  cases accessPointController with
  | some accessPointController =>
      obtain rfl : accessPointController = controller := h
      exact .inl ⟨.inl rfl, hruns⟩
  | none =>
      unfold withAccessPointController tryGetAccessPointController tryGetAccessPoint at hruns
      cases hfound : accessPointManager.getAccessPoint accessPointId with
      | none =>
          simp only [hfound] at hruns
          cases hruns
          exact .inr ⟨rfl, fun _ hstatus => .inl (Except.ok.inj hstatus ▸ rfl)⟩
      | some accessPoint =>
          cases accessPoint with
          | none =>
              simp only [hfound] at hruns
              cases hruns
              exact .inr ⟨rfl, fun _ hstatus => .inl (Except.ok.inj hstatus ▸ rfl)⟩
          | some accessPoint =>
              simp only [hfound] at hruns
              cases hcreated : accessPoint.createController with
              | error fault =>
                  simp only [hcreated] at hruns
                  cases hruns
                  exact .inr ⟨rfl, nofun⟩
              | ok created =>
                  simp only [hcreated] at hruns
                  cases created with
                  | none =>
                      cases hruns
                      exact .inr ⟨rfl, fun _ hstatus => .inr (Except.ok.inj hstatus ▸ rfl)⟩
                  | some created =>
                      obtain rfl : created = controller := h accessPoint created hfound hcreated
                      exact .inl ⟨.inr ⟨rfl, accessPoint, hfound, hcreated⟩, hruns⟩

end Reaches

-- What the service does about one item: it refuses the item with a message, or it
-- passes it on, in two cases once the capabilities have been looked at.
structure Item where
  request : ControllerRequest
  configures : request.configures = true := by rfl
  refused : Option ByteString := none
  unsupported : Option (Ieee80211AccessPointCapabilities → Option ByteString) := none
  what : ByteString

section Program

variable (accessPointId : ByteString)

def Item.set (item : Item) : Program Controller Fault WifiAccessPointOperationStatus := do
  let (operationStatus, _) ← requested item.request
  .Return (settle accessPointId item.what operationStatus)

def Item.program (item : Item) : Program Controller Fault WifiAccessPointOperationStatus :=
  match item.refused with
  | some message => .Return (failed .InvalidParameter message)
  | none =>
      match item.unsupported with
      | none => item.set accessPointId
      | some unsupported => do
          let (operationStatus, accessPointCapabilities) ← requested .GetCapabilities
          if !operationStatus.succeeded then
            .Return (failedTo accessPointId (str "Failed to get capabilities") operationStatus)
          else
            match unsupported
                ((accessPointCapabilities : Option Ieee80211AccessPointCapabilities).getD {}) with
            | some message => .Return (failed .OperationNotSupported message)
            | none => item.set accessPointId

def phyTypeItem (dot11PhyType : Dot11PhyType) : Item where
  request := .SetPhyType (fromDot11PhyType dot11PhyType)
  refused := if dot11PhyType = Dot11PhyTypeUnknown then some (str "No PHY type provided") else none
  unsupported := some fun accessPointCapabilities =>
    if accessPointCapabilities.phyTypes.contains (fromDot11PhyType dot11PhyType) then none
    else some (str "PHY type '" ++ (fromDot11PhyType dot11PhyType).enumName ++
      str "' not supported by access point " ++ accessPointId)
  what := str "Failed to set PHY type"

def frequencyBandsItem (dot11FrequencyBands : List Dot11FrequencyBand) : Item where
  request := .SetFrequencyBands (dot11FrequencyBands.map fromDot11FrequencyBand)
  refused :=
    if dot11FrequencyBands = [] then some (str "No frequency band provided")
    else if dot11FrequencyBands.contains Dot11FrequencyBandUnknown then
      some (str "Invalid frequency band provided")
    else none
  unsupported := some fun accessPointCapabilities =>
    ((dot11FrequencyBands.map fromDot11FrequencyBand).find? fun requestedFrequencyBand =>
      !accessPointCapabilities.frequencyBands.contains requestedFrequencyBand).map
        fun requestedFrequencyBand =>
          str "Frequency band '" ++ requestedFrequencyBand.enumName ++
            str "' not supported by access point " ++ accessPointId
  what := str "Failed to set frequency bands"

def authenticationAlgorithmsItem
    (dot11AuthenticationAlgorithms : List Dot11AuthenticationAlgorithm) : Item where
  request :=
    .SetAuthenticationAlgorithms
      (dot11AuthenticationAlgorithms.map fromDot11AuthenticationAlgorithm)
  refused :=
    if dot11AuthenticationAlgorithms = [] then some (str "No authentication algorithms provided")
    else if dot11AuthenticationAlgorithms.contains Dot11AuthenticationAlgorithmUnknown ||
        (dot11AuthenticationAlgorithms.map fromDot11AuthenticationAlgorithm).contains .Unknown then
      some (str "Invalid authentication algorithm provided")
    else none
  what := str "Failed to set authentication algorithms"

def authenticationDataItem (dot11AuthenticationData : Dot11AuthenticationData) : Item where
  request := .SetAuthenticationData (fromDot11AuthenticationData dot11AuthenticationData)
  refused := validateAuthenticationData dot11AuthenticationData
  what := str "Failed to set authentication data"

def akmSuitesItem (dot11AkmSuites : List Dot11AkmSuite) : Item where
  request := .SetAkmSuites (dot11AkmSuites.map fromDot11AkmSuite)
  refused :=
    if dot11AkmSuites = [] then some (str "No akm suites provided")
    else if dot11AkmSuites.contains Dot11AkmSuiteUnknown ||
        (dot11AkmSuites.map fromDot11AkmSuite).contains .Unknown then
      some (str "Invalid akm suite provided")
    else none
  what := str "Failed to set akm suites"

def pairwiseCipherSuitesItem (platform : Platform)
    (dot11PairwiseCipherSuites : Table Dot11SecurityProtocol (List Dot11CipherSuite)) : Item where
  request :=
    .SetPairwiseCipherSuites (fromDot11CipherSuiteConfigurations platform.dot11CipherSuites
      dot11PairwiseCipherSuites)
  refused :=
    if dot11PairwiseCipherSuites = ∅ then some (str "No cipher suites provided")
    else if Dot11SecurityProtocolUnknown ∈ dot11PairwiseCipherSuites ∨
        Ieee80211SecurityProtocol.Unknown ∈ fromDot11CipherSuiteConfigurations
          platform.dot11CipherSuites dot11PairwiseCipherSuites then
      some (str "Invalid security protocol provided")
    else none
  what := str "Failed to set cipher suites"

-- The text of the value, in whatever form it comes.
def ssidText : Dot11SsidValue → ByteString
  | .Name name => name
  | .Hex hex => hex
  | .Data data => data

def ssidItem (dot11Ssid : Dot11Ssid) : Item where
  request := .SetSsid (dot11Ssid.value.elim [] ssidText)
  refused := if dot11Ssid.value.isNone then some (str "No SSID provided") else none
  what := str "Failed to set SSID"

def authenticationDot1xItem (dot11AuthenticationDot1x : Dot11AuthenticationDot1x) : Item where
  request :=
    .SetRadiusConfiguration
      (fromServiceDot1xRadiusConfiguration (dot11AuthenticationDot1x.radius.getD {}))
  refused :=
    dot11AuthenticationDot1x.radius.elim (some (str "No 802.1x configuration provided"))
      validateDot1xRadiusConfiguration
  what := str "Failed to set 802.1x configuration"

end Program

section Items

variable {platform : Platform} {accessPointManager : IAccessPointManager Controller}
  {accessPointId : ByteString} {accessPointController : Option (IAccessPointController Controller)}
  (h : Reaches accessPointManager accessPointId accessPointController requested)

include h

theorem wifiAccessPointSetPhyTypeImpl_eq (dot11PhyType : Dot11PhyType) :
    wifiAccessPointSetPhyTypeImpl accessPointManager accessPointId accessPointController
      dot11PhyType = (phyTypeItem accessPointId dot11PhyType).program accessPointId := by
  unfold wifiAccessPointSetPhyTypeImpl Item.program phyTypeItem
  rw [withAccessPointController_reaches h]
  by_cases hunknown : dot11PhyType = Dot11PhyTypeUnknown
  · simp only [hunknown, if_true]
  · simp only [hunknown, if_false]
    congr 1
    funext ⟨operationStatus, accessPointCapabilities⟩
    dsimp only
    cases ((accessPointCapabilities : Option Ieee80211AccessPointCapabilities).getD
      {}).phyTypes.contains (fromDot11PhyType dot11PhyType) <;> rfl

theorem wifiAccessPointSetFrequencyBandsImpl_eq (dot11FrequencyBands : List Dot11FrequencyBand) :
    wifiAccessPointSetFrequencyBandsImpl accessPointManager accessPointId accessPointController
      dot11FrequencyBands =
        (frequencyBandsItem accessPointId dot11FrequencyBands).program accessPointId := by
  unfold wifiAccessPointSetFrequencyBandsImpl Item.program frequencyBandsItem
  rw [withAccessPointController_reaches h]
  split_ifs
  · rfl
  · rfl
  · dsimp only
    congr 1
    funext ⟨operationStatus, accessPointCapabilities⟩
    dsimp only
    cases (dot11FrequencyBands.map fromDot11FrequencyBand).find? fun requestedFrequencyBand =>
      !((accessPointCapabilities : Option Ieee80211AccessPointCapabilities).getD
        {}).frequencyBands.contains requestedFrequencyBand <;> rfl

theorem wifiAccessPointSetAuthenticationAlgorithmsImpl_eq
    (dot11AuthenticationAlgorithms : List Dot11AuthenticationAlgorithm) :
    wifiAccessPointSetAuthenticationAlgorithmsImpl accessPointManager accessPointId
      accessPointController dot11AuthenticationAlgorithms =
        (authenticationAlgorithmsItem dot11AuthenticationAlgorithms).program accessPointId := by
  unfold wifiAccessPointSetAuthenticationAlgorithmsImpl Item.program authenticationAlgorithmsItem
  rw [withAccessPointController_reaches h]
  by_cases hempty : dot11AuthenticationAlgorithms = []
  · simp only [hempty, if_true]
  · by_cases hunknown :
        dot11AuthenticationAlgorithms.contains Dot11AuthenticationAlgorithmUnknown = true
    · simp only [hempty, hunknown, if_true, if_false, Bool.true_or]
    · by_cases hneutral :
          (dot11AuthenticationAlgorithms.map fromDot11AuthenticationAlgorithm).contains .Unknown
      · simp only [hempty, hunknown, hneutral, if_true, if_false, Bool.or_true, Bool.false_eq_true]
      · simp only [hempty, hunknown, hneutral, if_false, Bool.or_self]
        rfl

theorem wifiAccessPointSetAuthenticationDataImpl_eq
    (dot11AuthenticationData : Dot11AuthenticationData) :
    wifiAccessPointSetAuthenticationDataImpl accessPointManager accessPointId
      accessPointController dot11AuthenticationData =
        (authenticationDataItem dot11AuthenticationData).program accessPointId := by
  unfold wifiAccessPointSetAuthenticationDataImpl Item.program authenticationDataItem
  rw [withAccessPointController_reaches h]
  cases validateAuthenticationData dot11AuthenticationData <;> rfl

theorem wifiAccessPointSetAkmSuitesImpl_eq (dot11AkmSuites : List Dot11AkmSuite) :
    wifiAccessPointSetAkmSuitesImpl accessPointManager accessPointId accessPointController
      dot11AkmSuites = (akmSuitesItem dot11AkmSuites).program accessPointId := by
  unfold wifiAccessPointSetAkmSuitesImpl Item.program akmSuitesItem
  rw [withAccessPointController_reaches h]
  by_cases hempty : dot11AkmSuites = []
  · simp only [hempty, if_true]
  · by_cases hunknown : dot11AkmSuites.contains Dot11AkmSuiteUnknown = true
    · simp only [hempty, hunknown, if_true, if_false, Bool.true_or]
    · by_cases hneutral : (dot11AkmSuites.map fromDot11AkmSuite).contains .Unknown
      · simp only [hempty, hunknown, hneutral, if_true, if_false, Bool.or_true, Bool.false_eq_true]
      · simp only [hempty, hunknown, hneutral, if_false, Bool.or_self]
        rfl

theorem wifiAccessPointSetPairwiseCipherSuitesImpl_eq
    (dot11PairwiseCipherSuites : Table Dot11SecurityProtocol (List Dot11CipherSuite)) :
    wifiAccessPointSetPairwiseCipherSuitesImpl platform accessPointManager accessPointId
      accessPointController dot11PairwiseCipherSuites =
        (pairwiseCipherSuitesItem platform dot11PairwiseCipherSuites).program accessPointId := by
  unfold wifiAccessPointSetPairwiseCipherSuitesImpl Item.program pairwiseCipherSuitesItem
  rw [withAccessPointController_reaches h]
  by_cases hempty : dot11PairwiseCipherSuites = ∅
  · simp only [hempty, if_true]
  · by_cases hunknown : Dot11SecurityProtocolUnknown ∈ dot11PairwiseCipherSuites
    · simp only [hempty, hunknown, if_true, if_false, true_or]
    · by_cases hneutral : Ieee80211SecurityProtocol.Unknown ∈ fromDot11CipherSuiteConfigurations
          platform.dot11CipherSuites dot11PairwiseCipherSuites
      · simp only [hempty, hunknown, hneutral, if_true, if_false, or_true]
      · simp only [hempty, hunknown, hneutral, if_false, or_self]
        rfl

theorem wifiAccessPointSetSsidImpl_eq (dot11Ssid : Dot11Ssid) :
    wifiAccessPointSetSsidImpl accessPointManager accessPointId accessPointController dot11Ssid =
      (ssidItem dot11Ssid).program accessPointId := by
  unfold wifiAccessPointSetSsidImpl Item.program ssidItem
  obtain ⟨value⟩ := dot11Ssid
  cases value with
  | none => rfl
  | some value =>
      dsimp only
      rw [withAccessPointController_reaches h]
      cases value <;> rfl

theorem wifiAccessPointSetAuthenticationDot1xImpl_eq
    (dot11AuthenticationDot1x : Dot11AuthenticationDot1x) :
    wifiAccessPointSetAuthenticationDot1xImpl accessPointManager accessPointId
      accessPointController dot11AuthenticationDot1x =
        (authenticationDot1xItem dot11AuthenticationDot1x).program accessPointId := by
  unfold wifiAccessPointSetAuthenticationDot1xImpl Item.program authenticationDot1xItem
  obtain ⟨radius⟩ := dot11AuthenticationDot1x
  cases radius with
  | none => rfl
  | some radius =>
      dsimp only
      rw [withAccessPointController_reaches h]
      dsimp only [Option.elim_some, Option.getD_some]
      cases validateDot1xRadiusConfiguration radius <;> rfl

end Items

section Configuration

variable (platform : Platform) (accessPointId : ByteString)

-- The items of a configuration that are present, in the order in which they are set.
def itemsOf (dot11AccessPointConfiguration : Dot11AccessPointConfiguration) : List Item :=
  let dot11AuthenticationData := dot11AccessPointConfiguration.authenticationData.getD {}
  (if dot11AccessPointConfiguration.phyType ≠ Dot11PhyTypeUnknown then
    [phyTypeItem accessPointId dot11AccessPointConfiguration.phyType]
  else []) ++
  dot11AccessPointConfiguration.authenticationDot1x.toList.map authenticationDot1xItem ++
  (if dot11AccessPointConfiguration.authenticationAlgorithms ≠ [] then
    [authenticationAlgorithmsItem dot11AccessPointConfiguration.authenticationAlgorithms]
  else []) ++
  (if dot11AuthenticationData.psk.isSome || dot11AuthenticationData.sae.isSome then
    [authenticationDataItem dot11AuthenticationData]
  else []) ++
  (if dot11AccessPointConfiguration.akmSuites ≠ [] then
    [akmSuitesItem dot11AccessPointConfiguration.akmSuites]
  else []) ++
  (if dot11AccessPointConfiguration.pairwiseCipherSuites ≠ [] then
    [pairwiseCipherSuitesItem platform
      (toDot11CipherSuiteConfigurations dot11AccessPointConfiguration.pairwiseCipherSuites)]
  else []) ++
  dot11AccessPointConfiguration.ssid.toList.map ssidItem ++
  (if dot11AccessPointConfiguration.frequencyBands ≠ [] then
    [frequencyBandsItem accessPointId dot11AccessPointConfiguration.frequencyBands]
  else [])

theorem configurationItems_eq (accessPointManager : IAccessPointManager Controller)
    (dot11AccessPointConfiguration : Dot11AccessPointConfiguration) :
    configurationItems platform accessPointManager accessPointId requested
      dot11AccessPointConfiguration =
        (itemsOf platform accessPointId dot11AccessPointConfiguration).map
          (Item.program accessPointId) := by
  have hgiven : Reaches accessPointManager accessPointId (some requested) requested := .inl rfl
  have hdot1x := funext fun dot11AuthenticationDot1x =>
    wifiAccessPointSetAuthenticationDot1xImpl_eq hgiven dot11AuthenticationDot1x
  have hssid := funext fun dot11Ssid => wifiAccessPointSetSsidImpl_eq hgiven dot11Ssid
  unfold configurationItems itemsOf
  simp only [List.map_append, apply_ite (List.map (Item.program accessPointId)), List.map_cons,
    List.map_nil, List.map_map, wifiAccessPointSetPhyTypeImpl_eq hgiven,
    wifiAccessPointSetAuthenticationAlgorithmsImpl_eq hgiven,
    wifiAccessPointSetAuthenticationDataImpl_eq hgiven, wifiAccessPointSetAkmSuitesImpl_eq hgiven,
    wifiAccessPointSetPairwiseCipherSuitesImpl_eq hgiven,
    wifiAccessPointSetFrequencyBandsImpl_eq hgiven, hdot1x, hssid]
  rfl

theorem wifiAccessPointEnableImpl_eq {accessPointManager : IAccessPointManager Controller}
    {accessPointController : Option (IAccessPointController Controller)}
    (h : Reaches accessPointManager accessPointId accessPointController requested)
    (dot11AccessPointConfiguration : Option Dot11AccessPointConfiguration) :
    wifiAccessPointEnableImpl platform accessPointManager accessPointId accessPointController
      dot11AccessPointConfiguration =
        setConfigurationItems
          ((dot11AccessPointConfiguration.elim [] (itemsOf platform accessPointId)).map
            (Item.program accessPointId))
          (changeOperationalState accessPointId requested .Enabled (str "enabled")) := by
  unfold wifiAccessPointEnableImpl
  rw [withAccessPointController_reaches h]
  cases dot11AccessPointConfiguration with
  | none => rfl
  | some dot11AccessPointConfiguration =>
      rw [Option.elim_some, Option.elim_some, configurationItems_eq]

end Configuration

end NetRemote.Service.NetRemoteService
