import NetRemote.Service.NetRemoteService.Refinement

namespace NetRemote.Service.NetRemoteService

open Foundation Foundation.Bytes Api Wifi Wpa Wpa.Hostapd
open AccessPointControllerLinux (bearable settles_perform Succeeded)

-- All that a call can ask the controller.
def asked (platform : Platform) (request : AccessPointRequest) : List ControllerRequest :=
  [.GetOperationalState, .GetCapabilities, .SetOperationalState .Enabled,
    .SetOperationalState .Disabled] ++ controllerRequests platform request

section Careful

variable {asking : List ControllerRequest}
  {program next : Program Controller Fault WifiAccessPointOperationStatus}

-- A program that throws nothing, and that ends without success at the first answer
-- that is none.
def Careful (asking : List ControllerRequest) :
    Program Controller Fault WifiAccessPointOperationStatus → Prop
  | .Return _ => True
  | .Throw _ => False
  | .Ask request resume => request ∈ asking ∧ ∀ reply : Controller.Reply request,
      (Succeeded reply.1 → Careful asking (resume reply)) ∧
        (¬ Succeeded reply.1 → ∃ status, resume reply = .Return status ∧ ¬ Succeeds status)

theorem careful_ask {request : ControllerRequest}
    {next : Controller.Reply request → Program Controller Fault WifiAccessPointOperationStatus}
    (hrequest : request ∈ asking)
    (hsucceeded : ∀ reply : Controller.Reply request, reply.1.succeeded = true →
      Careful asking (next reply))
    (hfailed : ∀ reply : Controller.Reply request, reply.1.succeeded = false →
      ∃ status, next reply = .Return status ∧ ¬ Succeeds status) :
    Careful asking (requested request >>= next) :=
  ⟨hrequest, fun reply => ⟨fun h => hsucceeded reply (decide_eq_true h),
    fun h => hfailed reply (decide_eq_false h)⟩⟩

theorem careful_setConfigurationItems
    {items : List (Program Controller Fault WifiAccessPointOperationStatus)}
    (hitems : ∀ item ∈ items, Careful asking item) (hnext : Careful asking next) :
    Careful asking (setConfigurationItems items next) := by
  have hchecked {item rest : Program Controller Fault WifiAccessPointOperationStatus}
      (hitem : Careful asking item) (hrest : Careful asking rest) :
      Careful asking (item >>= fun status =>
        if status.code ≠ .Succeeded then .Return status else rest) := by
    induction item with
    | Return status =>
        simp only [Program.return_bind]
        split_ifs
        · trivial
        · exact hrest
    | Throw fault => exact hitem
    | Ask request resume ih =>
        refine ⟨hitem.1, fun reply => ⟨fun hreply => ih reply ((hitem.2 reply).1 hreply), ?_⟩⟩
        intro hreply
        obtain ⟨status, hstatus, hfailed⟩ := (hitem.2 reply).2 hreply
        refine ⟨status, ?_, hfailed⟩
        simp only [hstatus, Program.attempt]
        exact if_pos hfailed
  induction items with
  | nil => exact hnext
  | cons item items ih =>
      rw [List.forall_mem_cons] at hitems
      exact hchecked hitems.1 (ih hitems.2)

-- Every answer of a run that succeeds is a success.
theorem succeeded_of_careful (h : Careful asking program) {exchanges : List Controller.Exchange}
    {outcome : Except Fault WifiAccessPointOperationStatus}
    (hruns : program.Runs exchanges outcome) :
    (∀ exchange ∈ exchanges, exchange.1 ∈ asking) ∧
      ∃ status, outcome = .ok status ∧
        (Succeeds status → ∀ exchange ∈ exchanges, Succeeded exchange.2.1) := by
  induction hruns with
  | Return status => exact ⟨nofun, status, rfl, fun _ => nofun⟩
  | Throw fault => exact h.elim
  | @Ask request resume reply exchanges outcome hrest ih =>
      obtain ⟨hrequest, hresume⟩ := h
      simp only [List.forall_mem_cons]
      by_cases hreply : Succeeded reply.1
      · obtain ⟨hasked, status, rfl, hall⟩ := ih ((hresume reply).1 hreply)
        exact ⟨⟨hrequest, hasked⟩, status, rfl, fun hstatus => ⟨hreply, hall hstatus⟩⟩
      · obtain ⟨status, hreturn, hfailed⟩ := (hresume reply).2 hreply
        rw [hreturn] at hrest
        cases hrest
        exact ⟨⟨hrequest, nofun⟩, status, rfl, fun hstatus => absurd hstatus hfailed⟩

theorem asking_of_careful (h : Careful asking program) {exchanges : List Controller.Exchange}
    {request : ControllerRequest} (hasks : program.Asks exchanges request) : request ∈ asking := by
  induction hasks with
  | Now => exact h.1
  | @Later request last resume reply exchanges hlater ih =>
      by_cases hreply : Succeeded reply.1
      · exact ih ((h.2 reply).1 hreply)
      · obtain ⟨status, hreturn, _⟩ := (h.2 reply).2 hreply
        rw [hreturn] at hlater
        cases hlater

end Careful

section Items

variable {asking : List ControllerRequest} (accessPointManager : IAccessPointManager System)
  (accessPointId : ByteString)

-- The service asks the given controller, or one that it finds.
def Looked (platform : Platform)
    (accessPointController : Option (IAccessPointController Controller)) : Prop :=
  accessPointController = some requested ∨
    accessPointController = none ∧ OnLinux platform accessPointManager

theorem careful_settle {request : ControllerRequest} (hrequest : request ∈ asking)
    (what : ByteString) :
    Careful asking (requested request >>= fun reply =>
      .Return (settle accessPointId what reply.1)) := by
  apply careful_ask hrequest
  · exact fun _ _ => trivial
  · intro reply hreply
    refine ⟨_, rfl, fun hstatus => ?_⟩
    have hcode : reply.1.code = .Succeeded := (settle_code _ _ _).mp hstatus
    rw [AccessPointOperationStatus.succeeded, hcode] at hreply
    cases hreply

-- An answer that is none is handed on with its code.
theorem returns_unanswered {operationStatus : AccessPointOperationStatus}
    (h : operationStatus.succeeded = false) (message : ByteString)
    (next : Program Controller Fault WifiAccessPointOperationStatus) :
    ∃ status,
      (if !operationStatus.succeeded then
        .Return (failed (toDot11AccessPointOperationStatusCode operationStatus.code) message)
      else next) = .Return status ∧ ¬ Succeeds status := by
  simp only [h, Bool.not_false, if_true]
  exact ⟨_, rfl, not_succeeds_toDot11 h _⟩

-- An item that is refused asks for nothing.
theorem careful_item {item : Item} (hquery : .GetCapabilities ∈ asking)
    (hrequest : item.refused = none → item.request ∈ asking) :
    Careful asking (item.program accessPointId) := by
  unfold Item.program
  cases hrefused : item.refused with
  | some message => trivial
  | none =>
      cases item.unsupported with
      | none => exact careful_settle accessPointId (hrequest hrefused) item.what
      | some unsupported =>
          apply careful_ask hquery
          · rintro ⟨operationStatus, capabilities⟩ hreply
            have hsucceeded : operationStatus.succeeded = true := hreply
            simp only [hsucceeded, Bool.not_true, Bool.false_eq_true, if_false]
            split
            · trivial
            · exact careful_settle accessPointId (hrequest hrefused) item.what
          · exact fun _ hreply => returns_unanswered hreply _ _

theorem reaches_or_lost {platform : Platform} {accessPointManager : IAccessPointManager System}
    {accessPointController : Option (IAccessPointController Controller)}
    (h : Looked accessPointManager platform accessPointController) (accessPointId : ByteString) :
    Reaches (abstracted accessPointManager) accessPointId accessPointController requested ∨
      accessPointController = none ∧ ∀ accessPoint,
        (abstracted accessPointManager).getAccessPoint accessPointId ≠ some (some accessPoint) := by
  rcases h with rfl | ⟨rfl, hlinux⟩
  · exact .inl (.inl rfl)
  · rcases found_or_lost accessPointManager accessPointId with ⟨accessPoint, hfound⟩ | hlost
    · exact .inl (.inr ⟨rfl, _, abstracted_found hlinux hfound, rfl⟩)
    · exact .inr ⟨rfl, abstracted_lost hlost⟩

theorem careful_withAccessPointController {platform : Platform}
    {accessPointController : Option (IAccessPointController Controller)}
    (h : Looked accessPointManager platform accessPointController)
    (message : AccessPointOperationStatus → ByteString)
    {next : IAccessPointController Controller →
      Program Controller Fault WifiAccessPointOperationStatus}
    (hnext : Careful asking (next requested)) :
    Careful asking (withAccessPointController (abstracted accessPointManager) accessPointId
      accessPointController message next) := by
  rcases reaches_or_lost h accessPointId with hreaches | ⟨rfl, hlost⟩
  · rw [withAccessPointController_reaches hreaches]
    exact hnext
  · rw [withAccessPointController_lost hlost]
    trivial

variable {accessPointManager accessPointId} {platform : Platform}
  {accessPointController : Option (IAccessPointController Controller)}
  (h : Looked accessPointManager platform accessPointController)

include h

theorem careful_setPhyTypeImpl (hquery : .GetCapabilities ∈ asking) {phyType : Dot11PhyType}
    (hrequest : .SetPhyType (fromDot11PhyType phyType) ∈ asking) :
    Careful asking (wifiAccessPointSetPhyTypeImpl (abstracted accessPointManager) accessPointId
      accessPointController phyType) := by
  rcases reaches_or_lost h accessPointId with hreaches | ⟨rfl, hlost⟩
  · rw [wifiAccessPointSetPhyTypeImpl_eq hreaches]
    exact careful_item accessPointId hquery fun _ => hrequest
  · unfold wifiAccessPointSetPhyTypeImpl
    rw [withAccessPointController_lost hlost]
    split_ifs <;> trivial

theorem careful_setFrequencyBandsImpl (hquery : .GetCapabilities ∈ asking)
    {frequencyBands : List Dot11FrequencyBand}
    (hrequest : .SetFrequencyBands (frequencyBands.map fromDot11FrequencyBand) ∈ asking) :
    Careful asking (wifiAccessPointSetFrequencyBandsImpl (abstracted accessPointManager)
      accessPointId accessPointController frequencyBands) := by
  rcases reaches_or_lost h accessPointId with hreaches | ⟨rfl, hlost⟩
  · rw [wifiAccessPointSetFrequencyBandsImpl_eq hreaches]
    exact careful_item accessPointId hquery fun _ => hrequest
  · unfold wifiAccessPointSetFrequencyBandsImpl
    rw [withAccessPointController_lost hlost]
    split_ifs <;> trivial

theorem careful_setNetworkBridgeImpl {networkBridgeId : ByteString}
    (hrequest : .SetNetworkBridge networkBridgeId ∈ asking) :
    Careful asking (wifiAccessPointSetNetworkBridgeImpl (abstracted accessPointManager)
      accessPointId accessPointController networkBridgeId) :=
  careful_withAccessPointController accessPointManager accessPointId h _
    (careful_settle accessPointId hrequest _)

theorem careful_setSsidImpl {ssid : Dot11Ssid}
    (hrequest : ∀ request ∈ ssidRequest ssid, request ∈ asking) :
    Careful asking (wifiAccessPointSetSsidImpl (abstracted accessPointManager) accessPointId
      accessPointController ssid) := by
  obtain ⟨value⟩ := ssid
  unfold wifiAccessPointSetSsidImpl
  cases value with
  | none => trivial
  | some value =>
      apply careful_withAccessPointController accessPointManager accessPointId h
      apply careful_settle accessPointId
      apply hrequest
      cases value <;> exact List.mem_singleton_self _

theorem careful_setAuthenticationDot1xImpl {authenticationDot1x : Dot11AuthenticationDot1x}
    (hrequest : ∀ request ∈ authenticationDot1xRequest authenticationDot1x, request ∈ asking) :
    Careful asking (wifiAccessPointSetAuthenticationDot1xImpl (abstracted accessPointManager)
      accessPointId accessPointController authenticationDot1x) := by
  obtain ⟨radius⟩ := authenticationDot1x
  unfold wifiAccessPointSetAuthenticationDot1xImpl
  cases radius with
  | none => trivial
  | some radius =>
      apply careful_withAccessPointController accessPointManager accessPointId h
      dsimp only
      split
      · trivial
      · exact careful_settle accessPointId (hrequest _ (List.mem_singleton_self _)) _

end Items

section Calls

variable {platform : Platform} {accessPointManager : IAccessPointManager System}
  {accessPointId : ByteString} {asking : List ControllerRequest}

theorem careful_changeOperationalState {operationalState : AccessPointOperationalState}
    (hget : .GetOperationalState ∈ asking) (hset : .SetOperationalState operationalState ∈ asking)
    (name : ByteString) :
    Careful asking (changeOperationalState accessPointId requested operationalState name) := by
  apply careful_ask hget
  · rintro ⟨operationStatus, currentState⟩ hreply
    have hsucceeded : operationStatus.succeeded = true := hreply
    simp only [hsucceeded, Bool.not_true, Bool.false_eq_true, if_false]
    split_ifs
    · trivial
    · apply careful_ask hset
      · rintro ⟨operationStatus, _⟩ hreply
        have hsucceeded : operationStatus.succeeded = true := hreply
        simp only [hsucceeded, if_true]
        trivial
      · rintro ⟨operationStatus, _⟩ hreply
        have hfailed : operationStatus.succeeded = false := hreply
        simp only [hfailed, Bool.false_eq_true, if_false]
        exact ⟨_, rfl, not_succeeds_toDot11 hfailed _⟩
  · exact fun _ hreply => returns_unanswered hreply _ _

theorem careful_configurationItems {configuration : Dot11AccessPointConfiguration}
    (hquery : .GetCapabilities ∈ asking)
    (hasked : ∀ request ∈ configurationRequests platform configuration, request ∈ asking) :
    ∀ program ∈ configurationItems platform (abstracted accessPointManager) accessPointId requested
      configuration, Careful asking program := by
  rw [configurationItems_eq]
  intro program hprogram
  obtain ⟨item, hitem, rfl⟩ := List.mem_map.mp hprogram
  apply careful_item accessPointId hquery
  intro hrefused
  apply hasked
  apply (itemsOf_sublist platform accessPointId configuration).subset
  exact List.mem_map_of_mem (List.mem_filter.mpr ⟨hitem, by rw [hrefused]; rfl⟩)

theorem careful_answer (hlinux : OnLinux platform accessPointManager)
    (request : AccessPointRequest) :
    Careful (asked platform request)
      (answer platform (abstracted accessPointManager) request) := by
  have hlooked : Looked accessPointManager platform none := .inr ⟨rfl, hlinux⟩
  have hget : .GetOperationalState ∈ asked platform request := List.mem_cons_self
  have hquery : .GetCapabilities ∈ asked platform request :=
    List.mem_cons_of_mem _ List.mem_cons_self
  have hset (operationalState : AccessPointOperationalState) :
      .SetOperationalState operationalState ∈ asked platform request := by
    cases operationalState <;> simp [asked]
  have hasked : ∀ item ∈ controllerRequests platform request, item ∈ asked platform request :=
    fun item hitem => List.mem_append_right _ hitem
  cases request with
  | Enable accessPointId configuration =>
      apply careful_withAccessPointController accessPointManager accessPointId hlooked
      apply careful_setConfigurationItems _ (careful_changeOperationalState hget (hset _) _)
      cases configuration with
      | none => exact nofun
      | some configuration => exact careful_configurationItems hquery hasked
  | Disable accessPointId =>
      apply careful_withAccessPointController accessPointManager accessPointId hlooked
      exact careful_changeOperationalState hget (hset _) _
  | SetPhyType accessPointId phyType =>
      exact careful_setPhyTypeImpl hlooked hquery (hasked _ (List.mem_singleton_self _))
  | SetFrequencyBands accessPointId frequencyBands =>
      exact careful_setFrequencyBandsImpl hlooked hquery (hasked _ (List.mem_singleton_self _))
  | SetSsid accessPointId ssid =>
      cases ssid with
      | none => trivial
      | some ssid => exact careful_setSsidImpl hlooked hasked
  | SetNetworkBridge accessPointId networkBridgeId =>
      exact careful_setNetworkBridgeImpl hlooked (hasked _ (List.mem_singleton_self _))
  | SetAuthenticationDot1x accessPointId authenticationDot1x =>
      exact careful_setAuthenticationDot1xImpl hlooked hasked

end Calls

section Contained

variable {platform : Platform} {interfaceName : ByteString}

theorem contained_accessPointControllerLinux {request : ControllerRequest}
    {trace : List System.Exchange} {outcome : Except Fault (Controller.Reply request)}
    (hruns : (onHostapd platform interfaceName request).Runs trace outcome)
    (hbearable : ∀ exchange ∈ trace, bearable platform.toWifi request exchange) :
    ∃ reply, outcome = .ok reply ∧ (Succeeded reply.1 → ¬ Refused trace) := by
  have hsettles := settles_perform platform.toWifi interfaceName request []
    (fun _ h => absurd h List.not_mem_nil) (by simp [Refused])
  rcases Program.runs_attempt hruns with ⟨past, now, reply, rfl, hpast, hnow⟩ |
    ⟨past, now, fault, rfl, hpast, hnow⟩
  · cases hnow
    rw [List.append_nil]
    obtain ⟨-, hrefused⟩ := Program.ends_of_wp [] hsettles hpast
    exact ⟨reply, rfl, fun hsucceeded h => hrefused h hsucceeded⟩
  · cases hnow
    rw [List.append_nil] at hbearable
    exact absurd hbearable (Program.ends_of_wp [] hsettles hpast)

theorem not_refused_of_implemented {asking : List ControllerRequest}
    {exchanges : List Controller.Exchange} {trace : List System.Exchange}
    (h : Program.Implemented (onHostapd platform interfaceName) exchanges trace)
    (hasked : ∀ exchange ∈ exchanges, exchange.1 ∈ asking)
    (hsucceeded : ∀ exchange ∈ exchanges, Succeeded exchange.2.1)
    (hbearable : ∀ exchange ∈ trace, ∀ request ∈ asking,
      bearable platform.toWifi request exchange) :
    ¬ Refused trace := by
  induction h with
  | Done => simp [Refused]
  | @Exchange request reply trace exchanges later hruns hlater ih =>
      rw [List.forall_mem_cons] at hasked hsucceeded
      rw [List.forall_mem_append] at hbearable
      obtain ⟨_, hreply, hnow⟩ := contained_accessPointControllerLinux hruns
        fun exchange hmem => hbearable.1 exchange hmem request hasked.1
      obtain rfl := Except.ok.inj hreply
      have hrest := ih hasked.2 hsucceeded.2 hbearable.2
      rintro ⟨exchange, hmem, hrefused⟩
      rcases List.mem_append.mp hmem with hmem | hmem
      · exact hnow hsucceeded.1 ⟨exchange, hmem, hrefused⟩
      · exact hrest ⟨exchange, hmem, hrefused⟩

end Contained

end NetRemote.Service.NetRemoteService
