import NetRemote.Foundation.Followed
import NetRemote.Service.NetRemoteService.ItemRuns
import NetRemote.Wifi.AccessPointControllerLinux.Theorems

namespace NetRemote.Service.NetRemoteService.Enable

open Foundation Foundation.Bytes Api Wifi Wpa

theorem trace_requested {request : ControllerRequest} {trace : List Controller.Exchange}
    {reply : Controller.Reply request} (hruns : (requested request).Runs trace (.ok reply)) :
    trace = [⟨request, reply⟩] := by
  cases hruns with
  | Ask answer hrest =>
      cases hrest
      rfl

theorem not_throws_requested (request : ControllerRequest) {trace : List Controller.Exchange}
    {fault : Fault} : ¬ (requested request).Runs trace (.error fault) := by
  intro hruns
  cases hruns with
  | Ask answer hrest => cases hrest

theorem runs_changeOperationalState {accessPointId name : ByteString}
    {trace : List Controller.Exchange} {outcome : Except Fault WifiAccessPointOperationStatus}
    (hruns : (changeOperationalState accessPointId requested .Enabled name).Runs trace outcome) :
    ∃ status, outcome = .ok status ∧
      ∃ reply : AccessPointOperationStatus × Option AccessPointOperationalState,
        (trace = [⟨.GetOperationalState, reply⟩] ∧ reply.1.succeeded = false ∧
          status.code = toDot11AccessPointOperationStatusCode reply.1.code) ∨
        (trace = [⟨.GetOperationalState, reply⟩] ∧ reply.1.succeeded = true ∧
          reply.2.getD .Disabled = .Enabled ∧ status.code = .Succeeded) ∨
        (reply.1.succeeded = true ∧ reply.2.getD .Disabled ≠ .Enabled ∧
          ∃ changed : AccessPointOperationStatus × Unit,
            trace = [⟨.GetOperationalState, reply⟩, ⟨.SetOperationalState .Enabled, changed⟩] ∧
            status.code = toDot11AccessPointOperationStatusCode changed.1.code) := by
  cases stateRun_of_runs hruns with
  | Unasked hget => exact absurd hget (not_throws_requested _)
  | Unset _ _ _ hset => exact absurd hset (not_throws_requested _)
  | @Unanswered _ status reply hget hfailed hcode =>
      obtain rfl := trace_requested hget
      exact ⟨status, rfl, reply, .inl ⟨rfl, hfailed, hcode⟩⟩
  | @Kept _ reply hget hsucceeded hsame =>
      obtain rfl := trace_requested hget
      exact ⟨_, rfl, reply, .inr (.inl ⟨rfl, hsucceeded, hsame, rfl⟩)⟩
  | @Set _ _ status reply changed hget hsucceeded hother hset hcode =>
      obtain rfl := trace_requested hget
      obtain rfl := trace_requested hset
      exact ⟨status, rfl, reply, .inr (.inr ⟨hsucceeded, hother, changed, rfl, hcode⟩)⟩

-- The operations that set the items, in the order in which they are used.
def configurationOrder : List Nat :=
  [ControllerRequest.SetPhyType .Unknown, .SetRadiusConfiguration {},
    .SetAuthenticationAlgorithms [], .SetAuthenticationData {}, .SetAkmSuites [],
    .SetPairwiseCipherSuites ∅, .SetSsid [], .SetFrequencyBands []].map ControllerRequest.ctorIdx

-- The access point is started last.
def setterOrder : List Nat :=
  configurationOrder ++ [(ControllerRequest.SetOperationalState .Enabled).ctorIdx]

theorem nodup_setterOrder : setterOrder.Nodup := by decide

theorem sublist_itemsOf (platform : Platform) (accessPointId : ByteString)
    (dot11AccessPointConfiguration : Dot11AccessPointConfiguration) :
    ((itemsOf platform accessPointId dot11AccessPointConfiguration).map fun item =>
      item.request.ctorIdx).Sublist configurationOrder := by
  let only (request : ControllerRequest) : List Nat := [request.ctorIdx]
  have hif {c : Prop} [Decidable c] {item : Item} {request : ControllerRequest}
      (h : item.request.ctorIdx = request.ctorIdx) :
      ((if c then [item] else []).map fun item => item.request.ctorIdx).Sublist (only request) := by
    split_ifs <;> simp [only, h]
  have hmap {α : Type} {f : α → Item} {request : ControllerRequest} (value : Option α)
      (h : ∀ value, (f value).request.ctorIdx = request.ctorIdx) :
      ((value.toList.map f).map fun item => item.request.ctorIdx).Sublist (only request) := by
    cases value <;> simp [only, h]
  have horder : configurationOrder =
      only (.SetPhyType .Unknown) ++ only (.SetRadiusConfiguration {}) ++
        only (.SetAuthenticationAlgorithms []) ++ only (.SetAuthenticationData {}) ++
        only (.SetAkmSuites []) ++ only (.SetPairwiseCipherSuites ∅) ++ only (.SetSsid []) ++
        only (.SetFrequencyBands []) := rfl
  rw [horder]
  unfold itemsOf
  simp only [List.map_append]
  refine .append (.append (.append (.append (.append (.append (.append ?_ ?_) ?_) ?_) ?_) ?_) ?_) ?_
  · exact hif rfl
  · exact hmap _ fun _ => rfl
  · exact hif rfl
  · exact hif rfl
  · exact hif rfl
  · exact hif rfl
  · exact hmap _ fun _ => rfl
  · exact hif rfl

section Law

-- The items are all set, and the access point is started unless it is already.
def Completed (items : List Item) (trace : List Controller.Exchange) : Prop :=
  setters trace = items.map Item.request ++ [.SetOperationalState .Enabled] ∨
    setters trace = items.map Item.request ∧
      ∃ (past : List Controller.Exchange)
        (reply : AccessPointOperationStatus × Option AccessPointOperationalState),
        trace = past ++ [⟨.GetOperationalState, reply⟩] ∧ reply.2.getD .Disabled = .Enabled

-- The status that is returned is that of the first item that fails, or of the last
-- step.
def EndsWithFirstFailure (accessPointId : ByteString) (items : List Item)
    (trace : List Controller.Exchange) (status : WifiAccessPointOperationStatus) : Prop :=
  (∃ done item later past now, items = done ++ item :: later ∧ trace = past ++ now ∧
    AllSucceed past ∧ setters past = done.map Item.request ∧
    (item.program accessPointId).Runs now (.ok status)) ∨
  ∃ past now, trace = past ++ now ∧ AllSucceed past ∧ setters past = items.map Item.request ∧
    (changeOperationalState accessPointId requested .Enabled (str "enabled")).Runs now (.ok status)

structure EnablesInOrder (accessPointId : ByteString) (items : List Item)
    (trace : List Controller.Exchange) (outcome : Except Fault WifiAccessPointOperationStatus) :
    Prop where
  completes : ∃ status, outcome = .ok status
  -- Each item at most once, none before those ahead of it, and the start after all.
  inOrder : setters trace <+: items.map Item.request ++ [.SetOperationalState .Enabled]
  stops : ∀ status, outcome = .ok status → StopsWith trace status.code
  fails : ∀ status, outcome = .ok status → ¬ Succeeds status →
    EndsWithFirstFailure accessPointId items trace status
  starts : ∀ past operationalState reply rest,
    trace = past ++ ⟨.SetOperationalState operationalState, reply⟩ :: rest →
      operationalState = .Enabled ∧ rest = [] ∧ AllSucceed past ∧
        setters past = items.map Item.request ∧
        ∃ (before : List Controller.Exchange)
          (current : AccessPointOperationStatus × Option AccessPointOperationalState),
          past = before ++ [⟨.GetOperationalState, current⟩] ∧
            current.2.getD .Disabled ≠ .Enabled
  succeeds : (∃ status, outcome = .ok status ∧ Succeeds status) ↔
    AllSucceed trace ∧ Completed items trace

variable {accessPointId : ByteString} {items : List Item} {trace : List Controller.Exchange}
  {outcome : Except Fault WifiAccessPointOperationStatus}

-- The access point is not started where no more than the items is set.
theorem ne_start {before rest : List Controller.Exchange}
    {operationalState : AccessPointOperationalState}
    {reply : Controller.Reply (.SetOperationalState operationalState)}
    (h : setters trace <+: items.map Item.request) :
    trace ≠ before ++ ⟨.SetOperationalState operationalState, reply⟩ :: rest := by
  rintro rfl
  have hsetter : ControllerRequest.SetOperationalState operationalState ∈
      setters (before ++ ⟨.SetOperationalState operationalState, reply⟩ :: rest) :=
    List.mem_filter.mpr ⟨by simp, rfl⟩
  obtain ⟨item, -, hrequest⟩ := List.mem_map.mp (h.subset hsetter)
  have hconfigures := item.configures
  rw [hrequest] at hconfigures
  cases hconfigures

theorem enablesInOrder_of_failed {done later : List Item} {item : Item}
    {past now : List Controller.Exchange} {status : WifiAccessPointOperationStatus}
    (hmade : Made accessPointId done past)
    (hruns : (item.program accessPointId).Runs now (.ok status)) (hcode : ¬ Succeeds status) :
    EnablesInOrder accessPointId (done ++ item :: later) (past ++ now) (.ok status) := by
  obtain ⟨_, hstatus, hitem⟩ := itemRun_of_runs hruns
  obtain rfl := Except.ok.inj hstatus
  have hpast := hmade.allSucceed
  have hprefix := hitem.setters_prefix
  have hsetters : setters (past ++ now) = done.map Item.request ++ setters now := by
    rw [setters_append, hmade.setters_eq]
  have hall : (done ++ item :: later).map Item.request =
      done.map Item.request ++ item.request :: later.map Item.request := by
    rw [List.map_append, List.map_cons]
  have hmost : setters (past ++ now) <+: (done ++ item :: later).map Item.request := by
    rw [hsetters, hall, List.prefix_append_right_inj]
    exact hprefix.trans ⟨later.map Item.request, rfl⟩
  -- All items are set only if this one is the last of them, and has succeeded.
  have hrest {rest : List ControllerRequest} (h : setters now = item.request :: rest) :
      rest = [] ∧ (AllSucceed now → Succeeds status) := by
    rw [h] at hprefix
    have hlength := hprefix.length_le
    have hnil : rest = [] := List.eq_nil_of_length_eq_zero (by simpa using hlength)
    subst hnil
    exact ⟨rfl, fun hnow => hitem.succeeds_iff.mpr ⟨hnow, h⟩⟩
  refine ⟨⟨status, rfl⟩, hmost.trans (List.prefix_append _ _), ?_, ?_, ?_, ?_⟩
  · rintro _ ⟨⟩
    exact stopsWith_append hpast hitem.stopsWith
  · rintro _ ⟨⟩ -
    exact .inl ⟨done, item, later, past, now, rfl, rfl, hpast, hmade.setters_eq, hruns⟩
  · intro before operationalState reply rest hsplit
    exact absurd hsplit (ne_start hmost)
  · refine iff_of_false ?_ ?_
    · rintro ⟨_, ⟨⟩, hsucceeded⟩
      exact hcode hsucceeded
    · rintro ⟨hsucceed, hcompleted | ⟨hcompleted, -⟩⟩
      · rw [hsetters, hall, List.append_assoc, List.append_cancel_left_eq] at hcompleted
        obtain ⟨hnil, -⟩ := hrest hcompleted
        simp at hnil
      · rw [hsetters, hall, List.append_cancel_left_eq] at hcompleted
        exact hcode ((hrest hcompleted).2 (allSucceed_append.mp hsucceed).2)

section Changed

variable {past : List Controller.Exchange} {status : WifiAccessPointOperationStatus}
  {reply : AccessPointOperationStatus × Option AccessPointOperationalState}

theorem enablesInOrder_of_asked (hmade : Made accessPointId items past)
    (hruns : (changeOperationalState accessPointId requested .Enabled (str "enabled")).Runs
      [⟨.GetOperationalState, reply⟩] (.ok status))
    (hsucceeds : Succeeds status ↔ reply.1.succeeded = true)
    (hcurrent : reply.1.succeeded = true → reply.2.getD .Disabled = .Enabled)
    (hcode : reply.1.succeeded = false →
      status.code = toDot11AccessPointOperationStatusCode reply.1.code) :
    EnablesInOrder accessPointId items (past ++ [⟨.GetOperationalState, reply⟩]) (.ok status) := by
  have hasked : setters (past ++ [⟨.GetOperationalState, reply⟩]) = items.map Item.request := by
    rw [setters_append, hmade.setters_eq]
    exact List.append_nil _
  have hpast := hmade.allSucceed
  have hmost : setters (past ++ [⟨.GetOperationalState, reply⟩]) <+: items.map Item.request :=
    hasked ▸ List.prefix_refl _
  refine ⟨⟨status, rfl⟩, hmost.trans (List.prefix_append _ _), ?_, ?_, ?_, ?_⟩
  · rintro _ ⟨⟩
    exact stopsWith_append hpast (stopsWith_singleton hcode)
  · rintro _ ⟨⟩ -
    exact .inr ⟨past, _, rfl, hpast, hmade.setters_eq, hruns⟩
  · intro before operationalState reply rest hsplit
    exact absurd hsplit (ne_start hmost)
  · constructor
    · rintro ⟨_, ⟨⟩, hsucceeded⟩
      have hreply := hsucceeds.mp hsucceeded
      refine ⟨allSucceed_append.mpr ⟨hpast, allSucceed_singleton.mpr hreply⟩, .inr ?_⟩
      exact ⟨hasked, past, reply, rfl, hcurrent hreply⟩
    · rintro ⟨hsucceed, -⟩
      refine ⟨status, rfl, hsucceeds.mpr ?_⟩
      exact allSucceed_singleton.mp (allSucceed_append.mp hsucceed).2

theorem enablesInOrder_of_started {changed : AccessPointOperationStatus × Unit}
    (hmade : Made accessPointId items past)
    (hruns : (changeOperationalState accessPointId requested .Enabled (str "enabled")).Runs
      [⟨.GetOperationalState, reply⟩, ⟨.SetOperationalState .Enabled, changed⟩] (.ok status))
    (hreply : reply.1.succeeded = true) (hcurrent : reply.2.getD .Disabled ≠ .Enabled)
    (hcode : status.code = toDot11AccessPointOperationStatusCode changed.1.code) :
    EnablesInOrder accessPointId items
      (past ++ [⟨.GetOperationalState, reply⟩, ⟨.SetOperationalState .Enabled, changed⟩])
      (.ok status) := by
  let asked : List Controller.Exchange := past ++ [⟨.GetOperationalState, reply⟩]
  let start : Controller.Exchange := ⟨.SetOperationalState .Enabled, changed⟩
  have hsplit : past ++ [⟨.GetOperationalState, reply⟩, start] = asked ++ [start] := by
    simp [asked]
  have hall : AllSucceed asked :=
    allSucceed_append.mpr ⟨hmade.allSucceed, allSucceed_singleton.mpr hreply⟩
  have hasked : setters asked = items.map Item.request := by
    rw [setters_append, hmade.setters_eq]
    exact List.append_nil _
  have hmost : setters asked <+: items.map Item.request := hasked ▸ List.prefix_refl _
  have hstart : setters (asked ++ [start]) =
      items.map Item.request ++ [.SetOperationalState .Enabled] := by
    rw [setters_append, hasked]
    rfl
  rw [hsplit]
  refine ⟨⟨status, rfl⟩, hstart ▸ List.prefix_refl _, ?_, ?_, ?_, ?_⟩
  · rintro _ ⟨⟩
    exact stopsWith_append hall (stopsWith_singleton fun _ => hcode)
  · rintro _ ⟨⟩ -
    exact .inr ⟨past, _, hsplit.symm, hmade.allSucceed, hmade.setters_eq, hruns⟩
  · intro before operationalState other rest hbefore
    rcases split_concat hbefore with ⟨rfl, hlast⟩ | ⟨later, -, hlater⟩
    · have hstate := ControllerRequest.SetOperationalState.inj (congrArg Sigma.fst hlast)
      have hrest := (List.cons.inj (List.append_cancel_left hbefore)).2
      exact ⟨hstate, hrest.symm, hall, hasked, past, reply, rfl, hcurrent⟩
    · exact absurd hlater (ne_start hmost)
  · have hsucceeds : Succeeds status ↔ changed.1.succeeded = true := by
      rw [Succeeds, hcode, toDot11_succeeded]
      simp [AccessPointOperationStatus.succeeded]
    constructor
    · rintro ⟨_, ⟨⟩, hsucceeded⟩
      have hchanged := hsucceeds.mp hsucceeded
      exact ⟨allSucceed_append.mpr ⟨hall, allSucceed_singleton.mpr hchanged⟩,
        .inl hstart⟩
    · rintro ⟨hsucceed, -⟩
      refine ⟨status, rfl, hsucceeds.mpr ?_⟩
      exact allSucceed_singleton.mp (allSucceed_append.mp hsucceed).2

end Changed

theorem sublist_setters {platform : Platform}
    {dot11AccessPointConfiguration : Option Dot11AccessPointConfiguration}
    (h : EnablesInOrder accessPointId
      (dot11AccessPointConfiguration.elim [] (itemsOf platform accessPointId)) trace outcome) :
    ((setters trace).map ControllerRequest.ctorIdx).Sublist setterOrder := by
  have hprefix := h.inOrder.sublist.map ControllerRequest.ctorIdx
  rw [List.map_append, List.map_map] at hprefix
  refine hprefix.trans (.append ?_ (.refl _))
  cases dot11AccessPointConfiguration with
  | none => exact List.nil_sublist _
  | some dot11AccessPointConfiguration =>
      exact sublist_itemsOf platform accessPointId dot11AccessPointConfiguration

theorem nodup_setters {platform : Platform}
    {dot11AccessPointConfiguration : Option Dot11AccessPointConfiguration}
    (h : EnablesInOrder accessPointId
      (dot11AccessPointConfiguration.elim [] (itemsOf platform accessPointId)) trace outcome) :
    ((setters trace).map ControllerRequest.ctorIdx).Nodup :=
  (sublist_setters h).nodup nodup_setterOrder

theorem wifiAccessPointEnableImpl_enablesInOrder {platform : Platform}
    {accessPointManager : IAccessPointManager Controller}
    {accessPointController : Option (IAccessPointController Controller)}
    (h : Reaches accessPointManager accessPointId accessPointController requested)
    (dot11AccessPointConfiguration : Option Dot11AccessPointConfiguration)
    (trace : List Controller.Exchange) (outcome : Except Fault WifiAccessPointOperationStatus)
    (hruns : (wifiAccessPointEnableImpl platform accessPointManager accessPointId
      accessPointController dot11AccessPointConfiguration).Runs trace outcome) :
    EnablesInOrder accessPointId
      (dot11AccessPointConfiguration.elim [] (itemsOf platform accessPointId)) trace outcome ∧
      ((setters trace).map ControllerRequest.ctorIdx).Sublist setterOrder := by
  suffices henables : EnablesInOrder accessPointId
      (dot11AccessPointConfiguration.elim [] (itemsOf platform accessPointId)) trace outcome from
    ⟨henables, sublist_setters henables⟩
  rw [wifiAccessPointEnableImpl_eq platform accessPointId h] at hruns
  rcases runs_setConfigurationItems hruns with ⟨past, now, rfl, hmade, hlast⟩ |
    ⟨done, item, later, past, now, status, hitems, rfl, hmade, hitem, hcode, rfl⟩
  · obtain ⟨status, rfl, reply, hends⟩ := runs_changeOperationalState hlast
    rcases hends with ⟨rfl, hfailed, hcode⟩ | ⟨rfl, hsucceeded, hcurrent, hcode⟩ |
      ⟨hsucceeded, hcurrent, changed, rfl, hcode⟩
    · have hnot : ¬ Succeeds status := by
        intro hsucceeds
        have hreply := (toDot11_succeeded reply.1.code).mp (hcode ▸ hsucceeds)
        simp [AccessPointOperationStatus.succeeded, hreply] at hfailed
      have hreply : reply.1.succeeded ≠ true := by simp [hfailed]
      exact enablesInOrder_of_asked hmade hlast (iff_of_false hnot hreply)
        (fun h => absurd h hreply) fun _ => hcode
    · refine enablesInOrder_of_asked hmade hlast (iff_of_true hcode hsucceeded)
        (fun _ => hcurrent) fun hfailed => ?_
      rw [hsucceeded] at hfailed
      cases hfailed
    · exact enablesInOrder_of_started hmade hlast hsucceeded hcurrent hcode
  · rw [hitems]
    exact enablesInOrder_of_failed hmade hitem hcode

end Law

def guestConfiguration : Dot11AccessPointConfiguration where
  ssid := some ⟨some (.Name (str "guest"))⟩
  frequencyBands := [Dot11FrequencyBand5_0GHz]

-- A request whose controller is handed in.
def enableGuest : Program Controller Fault WifiAccessPointOperationStatus :=
  wifiAccessPointEnableImpl ⟨default, default⟩ ⟨fun _ => none⟩ (str "wlan0") (some requested)
    (some guestConfiguration)

theorem wifiAccessPointEnableImpl_enablesInOrder_guest :
    EnablesInOrder (str "wlan0") (itemsOf ⟨default, default⟩ (str "wlan0") guestConfiguration)
        (enableGuest.run (granting { frequencyBands := [.FiveGHz] }) []).1
        (enableGuest.run (granting { frequencyBands := [.FiveGHz] }) []).2 ∧
      ((setters (enableGuest.run (granting { frequencyBands := [.FiveGHz] }) []).1).map
        ControllerRequest.ctorIdx).Sublist setterOrder :=
  wifiAccessPointEnableImpl_enablesInOrder (.inl rfl) (some guestConfiguration) _ _
    (Program.runs_run (granting { frequencyBands := [.FiveGHz] }) enableGuest)

end NetRemote.Service.NetRemoteService.Enable
