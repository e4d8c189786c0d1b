import NetRemote.Foundation.Interpretation
import NetRemote.Service.NetRemoteService.Installation
import NetRemote.Service.NetRemoteService.Items

namespace NetRemote.Service.NetRemoteService

open Foundation Foundation.Bytes Api Wifi Wpa

-- The service as it is written: against a controller that is asked and that replies.
def abstracted (accessPointManager : IAccessPointManager System) :
    IAccessPointManager Controller where
  getAccessPoint accessPointId :=
    (accessPointManager.getAccessPoint accessPointId).map fun found =>
      found.map fun accessPoint =>
        ⟨accessPoint.interfaceName,
          accessPoint.createController.map fun created => created.map fun _ => requested⟩

-- The interface of the access point that a call is about.
def interfaceOf (accessPointManager : IAccessPointManager System) (accessPointId : ByteString) :
    ByteString :=
  match accessPointManager.getAccessPoint accessPointId with
  | some (some accessPoint) => accessPoint.interfaceName
  | _ => []

section Abstracted

variable {platform : Platform} {accessPointManager : IAccessPointManager System}
  {accessPointId : ByteString}

theorem abstracted_found (hlinux : OnLinux platform accessPointManager)
    {accessPoint : IAccessPoint System}
    (hfound : accessPointManager.getAccessPoint accessPointId = some (some accessPoint)) :
    (abstracted accessPointManager).getAccessPoint accessPointId =
      some (some ⟨accessPoint.interfaceName, .ok (some requested)⟩) := by
  simp only [abstracted, hfound, hlinux accessPointId accessPoint hfound, Option.map_some]
  rfl

theorem abstracted_lost
    (hlost : ∀ accessPoint,
      accessPointManager.getAccessPoint accessPointId ≠ some (some accessPoint))
    (accessPoint : IAccessPoint Controller) :
    (abstracted accessPointManager).getAccessPoint accessPointId ≠ some (some accessPoint) := by
  cases hfound : accessPointManager.getAccessPoint accessPointId with
  | none => simp [abstracted, hfound]
  | some found =>
      cases found with
      | none => simp [abstracted, hfound]
      | some accessPoint => exact absurd hfound (hlost accessPoint)

theorem lost_abstracted (accessPointManager : IAccessPointManager System)
    (accessPointId : ByteString) :
    lost (abstracted accessPointManager) accessPointId = lost accessPointManager accessPointId := by
  cases hfound : accessPointManager.getAccessPoint accessPointId <;>
    simp [lost, abstracted, hfound]

end Abstracted

section Refines

variable (platform : Platform) (accessPointManager : IAccessPointManager System)
  (accessPointId interfaceName : ByteString)

abbrev onHostapd : (request : ControllerRequest) → Wpa.Action (Controller.Reply request) :=
  accessPointControllerLinux platform.toWifi interfaceName

-- A program over the controller, and what it comes to once hostapd is behind it.
def Refines (concrete : Wpa.Action WifiAccessPointOperationStatus)
    (program : Program Controller Fault WifiAccessPointOperationStatus) : Prop :=
  concrete = program.interpret (onHostapd platform interfaceName)

-- The controller is handed in on both sides, or looked up on both.
inductive SameController : Option (IAccessPointController System) →
    Option (IAccessPointController Controller) → Prop where
  | Given : SameController (some (accessPointControllerLinux platform.toWifi interfaceName))
      (some requested)
  | Found (hlinux : OnLinux platform accessPointManager)
      (hinterface : interfaceName = interfaceOf accessPointManager accessPointId) :
      SameController none none

variable {platform accessPointManager accessPointId interfaceName}

theorem refines_return (status : WifiAccessPointOperationStatus) :
    Refines platform interfaceName (.Return status) (.Return status) := rfl

theorem refines_ask {request : ControllerRequest}
    {concrete : Controller.Reply request → Wpa.Action WifiAccessPointOperationStatus}
    {next : Controller.Reply request → Program Controller Fault WifiAccessPointOperationStatus}
    (hnext : ∀ reply, Refines platform interfaceName (concrete reply) (next reply)) :
    Refines platform interfaceName
      (accessPointControllerLinux platform.toWifi interfaceName request >>= concrete)
      (requested request >>= next) :=
  congrArg (accessPointControllerLinux platform.toWifi interfaceName request >>= ·)
    (funext hnext)

theorem refines_if {c : Prop} [Decidable c]
    {concrete concrete' : Wpa.Action WifiAccessPointOperationStatus}
    {program program' : Program Controller Fault WifiAccessPointOperationStatus}
    (hthen : Refines platform interfaceName concrete program)
    (helse : Refines platform interfaceName concrete' program') :
    Refines platform interfaceName (if c then concrete else concrete')
      (if c then program else program') := by
  by_cases h : c
  · rw [if_pos h, if_pos h]
    exact hthen
  · rw [if_neg h, if_neg h]
    exact helse

theorem refines_withAccessPointController
    {accessPointController : Option (IAccessPointController System)}
    {abstractController : Option (IAccessPointController Controller)}
    (h : SameController platform accessPointManager accessPointId interfaceName
      accessPointController abstractController)
    (message : AccessPointOperationStatus → ByteString)
    {concrete : IAccessPointController System → Wpa.Action WifiAccessPointOperationStatus}
    {next : IAccessPointController Controller →
      Program Controller Fault WifiAccessPointOperationStatus}
    (hnext : Refines platform interfaceName
      (concrete (accessPointControllerLinux platform.toWifi interfaceName)) (next requested)) :
    Refines platform interfaceName
      (withAccessPointController accessPointManager accessPointId accessPointController message
        concrete)
      (withAccessPointController (abstracted accessPointManager) accessPointId abstractController
        message next) := by
  cases h with
  | Given => exact hnext
  | Found hlinux hinterface =>
      rcases found_or_lost accessPointManager accessPointId with ⟨accessPoint, hfound⟩ | hlost
      · have hname : interfaceName = accessPoint.interfaceName := by
          rw [hinterface, interfaceOf, hfound]
        rw [withAccessPointController_found hfound (hlinux accessPointId accessPoint hfound),
          withAccessPointController_found (abstracted_found hlinux hfound) rfl, ← hname]
        exact hnext
      · rw [withAccessPointController_lost hlost, withAccessPointController_lost
          (abstracted_lost hlost), lost_abstracted]
        exact refines_return _

end Refines

section Items

variable {platform : Platform} {accessPointManager : IAccessPointManager System}
  {accessPointId interfaceName : ByteString}
  {accessPointController : Option (IAccessPointController System)}
  {abstractController : Option (IAccessPointController Controller)}
  (h : SameController platform accessPointManager accessPointId interfaceName
    accessPointController abstractController)

include h

theorem refines_setPhyTypeImpl (phyType : Dot11PhyType) :
    Refines platform interfaceName
      (wifiAccessPointSetPhyTypeImpl accessPointManager accessPointId accessPointController phyType)
      (wifiAccessPointSetPhyTypeImpl (abstracted accessPointManager) accessPointId
        abstractController phyType) := by
  apply refines_if (refines_return _)
  apply refines_withAccessPointController h
  apply refines_ask
  rintro ⟨operationStatus, accessPointCapabilities⟩
  apply refines_if (refines_return _)
  apply refines_if (refines_return _)
  exact refines_ask fun _ => refines_return _

theorem refines_setFrequencyBandsImpl (frequencyBands : List Dot11FrequencyBand) :
    Refines platform interfaceName
      (wifiAccessPointSetFrequencyBandsImpl accessPointManager accessPointId accessPointController
        frequencyBands)
      (wifiAccessPointSetFrequencyBandsImpl (abstracted accessPointManager) accessPointId
        abstractController frequencyBands) := by
  apply refines_if (refines_return _)
  apply refines_if (refines_return _)
  apply refines_withAccessPointController h
  apply refines_ask
  rintro ⟨operationStatus, accessPointCapabilities⟩
  apply refines_if (refines_return _)
  cases (frequencyBands.map fromDot11FrequencyBand).find? fun requestedFrequencyBand =>
      !((accessPointCapabilities : Option Ieee80211AccessPointCapabilities).getD
        {}).frequencyBands.contains requestedFrequencyBand with
  | some requestedFrequencyBand => exact refines_return _
  | none => exact refines_ask fun _ => refines_return _

theorem refines_setNetworkBridgeImpl (networkBridgeId : ByteString) :
    Refines platform interfaceName
      (wifiAccessPointSetNetworkBridgeImpl accessPointManager accessPointId accessPointController
        networkBridgeId)
      (wifiAccessPointSetNetworkBridgeImpl (abstracted accessPointManager) accessPointId
        abstractController networkBridgeId) :=
  refines_withAccessPointController h _ (refines_ask fun _ => refines_return _)

theorem refines_setAuthenticationAlgorithmsImpl (algorithms : List Dot11AuthenticationAlgorithm) :
    Refines platform interfaceName
      (wifiAccessPointSetAuthenticationAlgorithmsImpl accessPointManager accessPointId
        accessPointController algorithms)
      (wifiAccessPointSetAuthenticationAlgorithmsImpl (abstracted accessPointManager)
        accessPointId abstractController algorithms) := by
  apply refines_if (refines_return _)
  apply refines_if (refines_return _)
  apply refines_withAccessPointController h
  apply refines_if (refines_return _)
  exact refines_ask fun _ => refines_return _

theorem refines_setAuthenticationDataImpl (authenticationData : Dot11AuthenticationData) :
    Refines platform interfaceName
      (wifiAccessPointSetAuthenticationDataImpl accessPointManager accessPointId
        accessPointController authenticationData)
      (wifiAccessPointSetAuthenticationDataImpl (abstracted accessPointManager) accessPointId
        abstractController authenticationData) := by
  unfold wifiAccessPointSetAuthenticationDataImpl
  cases validateAuthenticationData authenticationData with
  | some message => exact refines_return _
  | none =>
      exact refines_withAccessPointController h _ (refines_ask fun _ => refines_return _)

theorem refines_setAkmSuitesImpl (akmSuites : List Dot11AkmSuite) :
    Refines platform interfaceName
      (wifiAccessPointSetAkmSuitesImpl accessPointManager accessPointId accessPointController
        akmSuites)
      (wifiAccessPointSetAkmSuitesImpl (abstracted accessPointManager) accessPointId
        abstractController akmSuites) := by
  apply refines_if (refines_return _)
  apply refines_if (refines_return _)
  apply refines_withAccessPointController h
  apply refines_if (refines_return _)
  exact refines_ask fun _ => refines_return _

theorem refines_setPairwiseCipherSuitesImpl
    (pairwiseCipherSuites : Table Dot11SecurityProtocol (List Dot11CipherSuite)) :
    Refines platform interfaceName
      (wifiAccessPointSetPairwiseCipherSuitesImpl platform accessPointManager accessPointId
        accessPointController pairwiseCipherSuites)
      (wifiAccessPointSetPairwiseCipherSuitesImpl platform (abstracted accessPointManager)
        accessPointId abstractController pairwiseCipherSuites) := by
  apply refines_if (refines_return _)
  apply refines_if (refines_return _)
  apply refines_withAccessPointController h
  apply refines_if (refines_return _)
  exact refines_ask fun _ => refines_return _

theorem refines_setSsidImpl (ssid : Dot11Ssid) :
    Refines platform interfaceName
      (wifiAccessPointSetSsidImpl accessPointManager accessPointId accessPointController ssid)
      (wifiAccessPointSetSsidImpl (abstracted accessPointManager) accessPointId abstractController
        ssid) := by
  unfold wifiAccessPointSetSsidImpl
  cases ssid.value with
  | none => exact refines_return _
  | some value =>
      exact refines_withAccessPointController h _ (refines_ask fun _ => refines_return _)

theorem refines_setAuthenticationDot1xImpl (authenticationDot1x : Dot11AuthenticationDot1x) :
    Refines platform interfaceName
      (wifiAccessPointSetAuthenticationDot1xImpl accessPointManager accessPointId
        accessPointController authenticationDot1x)
      (wifiAccessPointSetAuthenticationDot1xImpl (abstracted accessPointManager) accessPointId
        abstractController authenticationDot1x) := by
  unfold wifiAccessPointSetAuthenticationDot1xImpl
  cases authenticationDot1x.radius with
  | none => exact refines_return _
  | some radius =>
      apply refines_withAccessPointController h
      cases validateDot1xRadiusConfiguration radius with
      | some message => exact refines_return _
      | none => exact refines_ask fun _ => refines_return _

end Items

section Configuration

variable {platform : Platform} {accessPointManager : IAccessPointManager System}
  {accessPointId interfaceName : ByteString}

theorem refines_changeOperationalState (operationalState : AccessPointOperationalState)
    (name : ByteString) :
    Refines platform interfaceName
      (changeOperationalState accessPointId
        (accessPointControllerLinux platform.toWifi interfaceName) operationalState name)
      (changeOperationalState accessPointId requested operationalState name) := by
  apply refines_ask
  rintro ⟨operationStatus, currentState⟩
  apply refines_if (refines_return _)
  apply refines_if (refines_return _)
  apply refines_ask
  rintro ⟨operationStatus, _⟩
  exact refines_if (refines_return _) (refines_return _)

theorem refines_setConfigurationItems {concrete : List (Wpa.Action WifiAccessPointOperationStatus)}
    {items : List (Program Controller Fault WifiAccessPointOperationStatus)}
    {next : Wpa.Action WifiAccessPointOperationStatus}
    {last : Program Controller Fault WifiAccessPointOperationStatus}
    (hitems : List.Forall₂ (Refines platform interfaceName) concrete items)
    (hlast : Refines platform interfaceName next last) :
    Refines platform interfaceName (setConfigurationItems concrete next)
      (setConfigurationItems items last) := by
  induction hitems with
  | nil => exact hlast
  | @cons item program concrete items hitem _ ih =>
      refine Eq.trans ?_ (Program.interpret_bind _ _ _).symm
      rw [setConfigurationItems, hitem]
      congr 1
      funext status
      exact refines_if (refines_return _) ih

theorem forall₂_optional {c : Prop} [Decidable c]
    {item : Wpa.Action WifiAccessPointOperationStatus}
    {program : Program Controller Fault WifiAccessPointOperationStatus}
    (h : Refines platform interfaceName item program) :
    List.Forall₂ (Refines platform interfaceName) (if c then [item] else [])
      (if c then [program] else []) := by
  split_ifs
  · exact .cons h .nil
  · exact .nil

theorem forall₂_option {α : Type} {itemOf : α → Wpa.Action WifiAccessPointOperationStatus}
    {programOf : α → Program Controller Fault WifiAccessPointOperationStatus}
    (h : ∀ value, Refines platform interfaceName (itemOf value) (programOf value))
    (value : Option α) :
    List.Forall₂ (Refines platform interfaceName) (value.toList.map itemOf)
      (value.toList.map programOf) := by
  cases value with
  | none => exact .nil
  | some value => exact .cons (h value) .nil

theorem refines_configurationItems (configuration : Dot11AccessPointConfiguration) :
    List.Forall₂ (Refines platform interfaceName)
      (configurationItems platform accessPointManager accessPointId
        (accessPointControllerLinux platform.toWifi interfaceName) configuration)
      (configurationItems platform (abstracted accessPointManager) accessPointId requested
        configuration) := by
  have hgiven : SameController platform accessPointManager accessPointId interfaceName _ _ := .Given
  unfold configurationItems
  refine List.rel_append (List.rel_append (List.rel_append (List.rel_append (List.rel_append
    (List.rel_append (List.rel_append ?_ ?_) ?_) ?_) ?_) ?_) ?_) ?_
  · exact forall₂_optional (refines_setPhyTypeImpl hgiven _)
  · exact forall₂_option (refines_setAuthenticationDot1xImpl hgiven) _
  · exact forall₂_optional (refines_setAuthenticationAlgorithmsImpl hgiven _)
  · exact forall₂_optional (refines_setAuthenticationDataImpl hgiven _)
  · exact forall₂_optional (refines_setAkmSuitesImpl hgiven _)
  · exact forall₂_optional (refines_setPairwiseCipherSuitesImpl hgiven _)
  · exact forall₂_option (refines_setSsidImpl hgiven) _
  · exact forall₂_optional (refines_setFrequencyBandsImpl hgiven _)

end Configuration

section Calls

variable {platform : Platform} {accessPointManager : IAccessPointManager System}

theorem refines_answer (hlinux : OnLinux platform accessPointManager)
    (request : AccessPointRequest) :
    Refines platform (interfaceOf accessPointManager request.accessPointId)
      (answer platform accessPointManager request)
      (answer platform (abstracted accessPointManager) request) := by
  have hfound (accessPointId : ByteString) : SameController platform accessPointManager
      accessPointId (interfaceOf accessPointManager accessPointId) none none := .Found hlinux rfl
  cases request with
  | Enable accessPointId configuration =>
      apply refines_withAccessPointController (hfound accessPointId)
      apply refines_setConfigurationItems _ (refines_changeOperationalState _ _)
      cases configuration with
      | none => exact .nil
      | some configuration => exact refines_configurationItems configuration
  | Disable accessPointId =>
      apply refines_withAccessPointController (hfound accessPointId)
      exact refines_changeOperationalState _ _
  | SetPhyType accessPointId phyType => exact refines_setPhyTypeImpl (hfound accessPointId) phyType
  | SetFrequencyBands accessPointId frequencyBands =>
      exact refines_setFrequencyBandsImpl (hfound accessPointId) frequencyBands
  | SetSsid accessPointId ssid =>
      cases ssid with
      | none => exact refines_return _
      | some ssid => exact refines_setSsidImpl (hfound accessPointId) ssid
  | SetNetworkBridge accessPointId networkBridgeId =>
      exact refines_setNetworkBridgeImpl (hfound accessPointId) networkBridgeId
  | SetAuthenticationDot1x accessPointId authenticationDot1x =>
      exact refines_setAuthenticationDot1xImpl (hfound accessPointId) authenticationDot1x

-- The process ends only within an operation of the controller.
theorem terminates_accessPointControllerLinux {interfaceName : ByteString}
    {request : ControllerRequest} {trace : List System.Exchange} {fault : Fault}
    (hruns : (accessPointControllerLinux platform.toWifi interfaceName request).Runs trace
      (.error fault)) : fault = .Terminate := by
  rcases Program.runs_attempt hruns with ⟨past, now, value, _, _, hnow⟩ |
    ⟨past, now, error, _, _, hnow⟩
  · cases hnow
  · cases hnow
    rfl

-- What the service does with hostapd is what it does with a controller, each of whose
-- operations is carried out in one piece, up to an operation that ends the process.
theorem answer_refines (platform : Platform) (accessPointManager : IAccessPointManager System)
    (hlinux : OnLinux platform accessPointManager) (request : AccessPointRequest)
    (trace : List System.Exchange) (outcome : Except Fault WifiAccessPointOperationStatus)
    (hruns : (answer platform accessPointManager request).Runs trace outcome) :
    let implement :=
      onHostapd platform (interfaceOf accessPointManager request.accessPointId)
    let abstract := answer platform (abstracted accessPointManager) request
    (∃ exchanges, abstract.Runs exchanges outcome ∧
      Program.Implemented implement exchanges trace) ∨
    ∃ exchanges past now last, trace = past ++ now ∧ outcome = .error .Terminate ∧
      abstract.Asks exchanges last ∧ Program.Implemented implement exchanges past ∧
      (implement last).Runs now (.error .Terminate) := by
  intro implement abstract
  have hrefines := refines_answer hlinux request
  rw [hrefines] at hruns
  rcases Program.runs_interpret hruns with hall |
    ⟨exchanges, past, now, last, fault, htrace, houtcome, hasks, hpast, hnow⟩
  · exact .inl hall
  · obtain rfl := terminates_accessPointControllerLinux hnow
    exact .inr ⟨exchanges, past, now, last, htrace, houtcome, hasks, hpast, hnow⟩

theorem answer_refines_guest :
    ∃ exchanges, (answer defaultPlatform (abstracted oneInterface) enableGuest).Runs exchanges
        (.ok { code := .Succeeded }) ∧
      Program.Implemented (onHostapd defaultPlatform (str "wlan0")) exchanges enableGuestRun.1 := by
  have hsucceeds : enableGuestRun.2 = .ok { code := .Succeeded } := by decide +kernel
  have hrefines := answer_refines defaultPlatform oneInterface onLinux_oneInterface enableGuest
    enableGuestRun.1 enableGuestRun.2 (Program.runs_run _ _)
  rw [hsucceeds] at hrefines
  rcases hrefines with hall | ⟨_, _, _, _, _, houtcome, _⟩
  · exact hall
  · cases houtcome

end Calls

end NetRemote.Service.NetRemoteService
