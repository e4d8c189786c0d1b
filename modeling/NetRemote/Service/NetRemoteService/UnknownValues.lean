import NetRemote.Service.NetRemoteService.Enable
import NetRemote.Service.NetRemoteService.PairwiseCipherSuites

namespace NetRemote.Service.NetRemoteService.UnknownValues

open Foundation Foundation.Bytes Api Wifi Wpa

-- An argument with the unknown value of a neutral type.
def ContainsUnknown : ControllerRequest → Prop
  | .SetPhyType ieeePhyType => ieeePhyType = .Unknown
  | .SetFrequencyBands frequencyBands => .Unknown ∈ frequencyBands
  | .SetAuthenticationAlgorithms authenticationAlgorithms => .Unknown ∈ authenticationAlgorithms
  | .SetAkmSuites akmSuites => .Unknown ∈ akmSuites
  | .SetPairwiseCipherSuites pairwiseCipherSuites =>
      ∃ protocol suites, pairwiseCipherSuites.lookup protocol = some suites ∧
        (protocol = .Unknown ∨ .Unknown ∈ suites)
  | _ => False

section Requests

-- The requests that the result is about.
inductive Request where
  | SetPhyType (dot11PhyType : Dot11PhyType)
  | SetFrequencyBands (dot11FrequencyBands : List Dot11FrequencyBand)
  | Enable (dot11AccessPointConfiguration : Option Dot11AccessPointConfiguration)

variable (platform : Platform) (accessPointId : ByteString)

def Request.call {E : Environment} (accessPointManager : IAccessPointManager E)
    (accessPointController : Option (IAccessPointController E)) :
    Request → Program E Fault WifiAccessPointOperationStatus
  | .SetPhyType dot11PhyType =>
      wifiAccessPointSetPhyTypeImpl accessPointManager accessPointId accessPointController
        dot11PhyType
  | .SetFrequencyBands dot11FrequencyBands =>
      wifiAccessPointSetFrequencyBandsImpl accessPointManager accessPointId accessPointController
        dot11FrequencyBands
  | .Enable dot11AccessPointConfiguration =>
      wifiAccessPointEnableImpl platform accessPointManager accessPointId accessPointController
        dot11AccessPointConfiguration

-- A value for which there is no neutral value. A PHY type of zero is no PHY type.
def UnrecognisedIn (dot11AccessPointConfiguration : Dot11AccessPointConfiguration) : Prop :=
  (dot11AccessPointConfiguration.phyType ≠ Dot11PhyTypeUnknown ∧
    fromDot11PhyType dot11AccessPointConfiguration.phyType = .Unknown) ∨
  .Unknown ∈ dot11AccessPointConfiguration.authenticationAlgorithms.map
    fromDot11AuthenticationAlgorithm ∨
  .Unknown ∈ dot11AccessPointConfiguration.akmSuites.map fromDot11AkmSuite ∨
  (∃ configuration ∈ dot11AccessPointConfiguration.pairwiseCipherSuites,
    fromDot11SecurityProtocol configuration.securityProtocol = .Unknown ∨
      .Unknown ∈ configuration.cipherSuites.map fromDot11CipherSuite) ∨
  .Unknown ∈ dot11AccessPointConfiguration.frequencyBands.map fromDot11FrequencyBand

def Request.Unrecognised : Request → Prop
  | .SetPhyType dot11PhyType => fromDot11PhyType dot11PhyType = .Unknown
  | .SetFrequencyBands dot11FrequencyBands =>
      .Unknown ∈ dot11FrequencyBands.map fromDot11FrequencyBand
  | .Enable dot11AccessPointConfiguration =>
      ∃ configuration ∈ dot11AccessPointConfiguration, UnrecognisedIn configuration

def Request.items : Request → List Item
  | .SetPhyType dot11PhyType => [phyTypeItem accessPointId dot11PhyType]
  | .SetFrequencyBands dot11FrequencyBands => [frequencyBandsItem accessPointId dot11FrequencyBands]
  | .Enable dot11AccessPointConfiguration =>
      dot11AccessPointConfiguration.elim [] (itemsOf platform accessPointId)

-- What is done after the items.
def Request.last : Request → Program Controller Fault WifiAccessPointOperationStatus
  | .SetPhyType _ => .Return { code := .Succeeded }
  | .SetFrequencyBands _ => .Return { code := .Succeeded }
  | .Enable _ => changeOperationalState accessPointId requested .Enabled (str "enabled")

theorem settle_eq_of_succeeds {accessPointId what : ByteString}
    {operationStatus : AccessPointOperationStatus}
    (h : Succeeds (settle accessPointId what operationStatus)) :
    settle accessPointId what operationStatus = { code := .Succeeded } := by
  have hcode := (settle_code _ _ _).mp h
  exact if_pos (decide_eq_true hcode)

theorem setConfigurationItems_singleton
    {program : Program Controller Fault WifiAccessPointOperationStatus}
    (h : program.Returns fun status => Succeeds status → status = { code := .Succeeded }) :
    setConfigurationItems [program] (.Return { code := .Succeeded }) = program := by
  have hcheck : setConfigurationItems [program] (.Return { code := .Succeeded }) =
      program >>= fun status =>
        if status.code ≠ .Succeeded then .Return status else .Return { code := .Succeeded } := rfl
  rw [hcheck]
  induction program with
  | Return status =>
      rw [Program.return_bind]
      by_cases hcode : status.code = .Succeeded
      · rw [if_neg (not_not_intro hcode), h hcode]
      · rw [if_pos hcode]
  | Throw fault => rfl
  | Ask request resume ih => exact congrArg _ (funext fun reply => ih reply (h reply) rfl)

-- A single item is a configuration of one item, with nothing to do after it.
theorem program_eq (item : Item) :
    item.program accessPointId =
      setConfigurationItems [item.program accessPointId] (.Return { code := .Succeeded }) := by
  refine (setConfigurationItems_singleton (Program.returns_of_runs ?_)).symm
  intro trace status hruns hsucceeds
  obtain ⟨_, hstatus, hitem⟩ := itemRun_of_runs hruns
  obtain rfl := Except.ok.inj hstatus
  cases hitem with
  | Refused => cases hsucceeds
  | Unanswered _ _ hfailed => exact absurd hsucceeds (not_succeeds_failedTo hfailed)
  | Unsupported => cases hsucceeds
  | Unchecked reply => exact settle_eq_of_succeeds hsucceeds
  | Checked reply => exact settle_eq_of_succeeds hsucceeds

theorem Request.call_eq {accessPointManager : IAccessPointManager Controller}
    {accessPointController : Option (IAccessPointController Controller)}
    (h : Reaches accessPointManager accessPointId accessPointController requested)
    (request : Request) :
    request.call platform accessPointId accessPointManager accessPointController =
      setConfigurationItems ((request.items platform accessPointId).map
        (Item.program accessPointId)) (request.last accessPointId) := by
  cases request with
  | SetPhyType dot11PhyType =>
      exact (wifiAccessPointSetPhyTypeImpl_eq h dot11PhyType).trans (program_eq accessPointId _)
  | SetFrequencyBands dot11FrequencyBands =>
      exact (wifiAccessPointSetFrequencyBandsImpl_eq h dot11FrequencyBands).trans
        (program_eq accessPointId _)
  | Enable dot11AccessPointConfiguration =>
      exact wifiAccessPointEnableImpl_eq platform accessPointId h dot11AccessPointConfiguration

-- The tables have nothing in them that is not in the configuration.
theorem unknown_of_lookup {configurations : List Dot11CipherSuiteConfiguration}
    {protocol : Ieee80211SecurityProtocol} {suites : List Ieee80211CipherSuite}
    (h : (fromDot11CipherSuiteConfigurations platform.dot11CipherSuites
      (toDot11CipherSuiteConfigurations configurations)).lookup protocol = some suites)
    (hunknown : protocol = .Unknown ∨ .Unknown ∈ suites) :
    ∃ configuration ∈ configurations,
      fromDot11SecurityProtocol configuration.securityProtocol = .Unknown ∨
        .Unknown ∈ configuration.cipherSuites.map fromDot11CipherSuite := by
  obtain ⟨source, content, hsource, rfl, rfl⟩ := Table.Traversal.of_lookup_rekey h
  obtain ⟨configuration, hmem, rfl, rfl, -⟩ := PairwiseCipherSuites.exists_mem_of_lookup hsource
  exact ⟨configuration, hmem, hunknown⟩

theorem mem_ite_singleton {c : Prop} [Decidable c] {item other : Item}
    (h : item ∈ if c then [other] else []) : c ∧ item = other := by
  split_ifs at h with hc
  · exact ⟨hc, List.mem_singleton.mp h⟩
  · cases h

theorem unrecognisedIn_of_containsUnknown {configuration : Dot11AccessPointConfiguration}
    {item : Item} (hitem : item ∈ itemsOf platform accessPointId configuration)
    (h : ContainsUnknown item.request) : UnrecognisedIn configuration := by
  simp only [itemsOf, List.mem_append] at hitem
  rcases hitem with ((((((hphy | hdot1x) | halgorithms) | hdata) | hakm) | hciphers) |
    hssid) | hbands
  · obtain ⟨hpresent, rfl⟩ := mem_ite_singleton hphy
    exact .inl ⟨hpresent, h⟩
  · obtain ⟨_, -, rfl⟩ := List.mem_map.mp hdot1x
    cases h
  · obtain ⟨-, rfl⟩ := mem_ite_singleton halgorithms
    exact .inr (.inl h)
  · obtain ⟨-, rfl⟩ := mem_ite_singleton hdata
    cases h
  · obtain ⟨-, rfl⟩ := mem_ite_singleton hakm
    exact .inr (.inr (.inl h))
  · obtain ⟨-, rfl⟩ := mem_ite_singleton hciphers
    obtain ⟨protocol, suites, hlookup, hunknown⟩ := h
    exact .inr (.inr (.inr (.inl (unknown_of_lookup platform hlookup hunknown))))
  · obtain ⟨_, -, rfl⟩ := List.mem_map.mp hssid
    cases h
  · obtain ⟨-, rfl⟩ := mem_ite_singleton hbands
    exact .inr (.inr (.inr (.inr h)))

-- Whatever reaches the controller comes from the request.
theorem unrecognised_of_containsUnknown {request : Request} {item : Item}
    (hitem : item ∈ request.items platform accessPointId)
    (h : ContainsUnknown item.request) : request.Unrecognised := by
  cases request with
  | SetPhyType dot11PhyType =>
      obtain rfl := List.mem_singleton.mp hitem
      exact h
  | SetFrequencyBands dot11FrequencyBands =>
      obtain rfl := List.mem_singleton.mp hitem
      exact h
  | Enable dot11AccessPointConfiguration =>
      cases dot11AccessPointConfiguration with
      | none => cases hitem
      | some configuration =>
          exact ⟨configuration, rfl,
            unrecognisedIn_of_containsUnknown platform accessPointId hitem h⟩

end Requests

section Reports

variable (reported : Ieee80211AccessPointCapabilities → Prop)

-- What is answered about the capabilities is something that can be reported.
def Reports (trace : List Controller.Exchange) : Prop :=
  ∀ (operationStatus : AccessPointOperationStatus)
    (accessPointCapabilities : Option Ieee80211AccessPointCapabilities),
    (⟨.GetCapabilities, (operationStatus, accessPointCapabilities)⟩ : Controller.Exchange) ∈ trace →
      operationStatus.succeeded = true → reported (accessPointCapabilities.getD {})

-- Neither the validation nor the capabilities keep the item from the controller.
def Passes (item : Item) : Prop :=
  item.refused = none ∧ ∀ unsupported, item.unsupported = some unsupported →
    ∃ accessPointCapabilities, reported accessPointCapabilities ∧
      unsupported accessPointCapabilities = none

variable {reported} {accessPointId : ByteString} {item : Item} {items : List Item}
  {trace past now : List Controller.Exchange} {status : WifiAccessPointOperationStatus}

theorem reports_append :
    Reports reported (past ++ now) ↔ Reports reported past ∧ Reports reported now := by
  simp only [Reports, List.mem_append]
  exact ⟨fun h => ⟨fun os caps hmem => h os caps (.inl hmem), fun os caps hmem =>
    h os caps (.inr hmem)⟩, fun h os caps hmem => hmem.elim (h.1 os caps) (h.2 os caps)⟩

theorem reports_of_forall (h : ∀ exchange ∈ trace, exchange.1 ≠ .GetCapabilities) :
    Reports reported trace :=
  fun _ _ hmem => absurd rfl (h _ hmem)

theorem reports_singleton {operationStatus : AccessPointOperationStatus}
    {accessPointCapabilities : Ieee80211AccessPointCapabilities}
    (h : reported accessPointCapabilities) :
    Reports reported [⟨.GetCapabilities, (operationStatus, some accessPointCapabilities)⟩] := by
  intro _ other hmem _
  have hsame := (Prod.mk.inj (eq_of_heq (Sigma.mk.inj (List.mem_singleton.mp hmem)).2)).2
  rw [hsame]
  exact h

theorem request_ne (item : Item) : item.request ≠ .GetCapabilities := by
  intro hrequest
  have hconfigures := item.configures
  rw [hrequest] at hconfigures
  cases hconfigures

-- What is set has passed.
theorem passes_of_itemRun (h : ItemRun accessPointId item trace status)
    (hreports : Reports reported trace) (hset : setters trace ≠ []) : Passes reported item := by
  cases h with
  | Refused => exact absurd rfl hset
  | Unanswered => exact absurd rfl hset
  | Unsupported => exact absurd rfl hset
  | Unchecked reply hrefused hunsupported =>
      refine ⟨hrefused, fun unsupported h => ?_⟩
      rw [hunsupported] at h
      cases h
  | Checked reply hrefused hunsupported hanswered hsupported =>
      refine ⟨hrefused, fun unsupported h => ?_⟩
      obtain rfl := Option.some.inj (hunsupported.symm.trans h)
      exact ⟨_, hreports _ _ List.mem_cons_self hanswered, hsupported⟩

-- And what has passed can be set.
theorem exists_itemRun (h : Passes reported item) (accessPointId : ByteString) :
    ∃ trace status, ItemRun accessPointId item trace status ∧ Reports reported trace ∧
      Succeeds status := by
  have hgranted : (granting {} [] item.request).1 = granted := granting_fst _ _ _
  have hsucceeds : Succeeds (settle accessPointId item.what (granting {} [] item.request).1) := by
    rw [Succeeds, settle_code, hgranted]
    rfl
  have hset : Reports reported [⟨item.request, granting {} [] item.request⟩] :=
    reports_of_forall (List.forall_mem_singleton.mpr (request_ne item))
  cases hunsupported : item.unsupported with
  | none => exact ⟨_, _, .Unchecked _ h.1 hunsupported, hset, hsucceeds⟩
  | some unsupported =>
      obtain ⟨accessPointCapabilities, hreported, hsupported⟩ := h.2 unsupported hunsupported
      have hanswered : granted.succeeded = true := rfl
      have hgiven : unsupported ((some accessPointCapabilities).getD {}) = none := hsupported
      exact ⟨_, _, .Checked _ h.1 hunsupported hanswered hgiven,
        reports_append.mpr ⟨reports_singleton hreported, hset⟩, hsucceeds⟩

theorem passes_of_made (h : Made accessPointId items trace) (hreports : Reports reported trace) :
    ∀ item ∈ items, Passes reported item := by
  induction h with
  | nil => exact List.forall_mem_nil _
  | cons hruns hsucceeds _ ih =>
      obtain ⟨_, hstatus, hitem⟩ := itemRun_of_runs hruns
      obtain rfl := Except.ok.inj hstatus
      obtain ⟨hfirst, hrest⟩ := reports_append.mp hreports
      have hset := (hitem.succeeds_iff.mp hsucceeds).2
      rw [List.forall_mem_cons]
      exact ⟨passes_of_itemRun hitem hfirst (hset ▸ List.cons_ne_nil _ _), ih hrest⟩

theorem exists_exchange_of_made (h : Made accessPointId items trace) (hitem : item ∈ items) :
    ∃ exchange ∈ trace, exchange.1 = item.request := by
  have hsetter : item.request ∈ setters trace := by
    rw [h.setters_eq]
    exact List.mem_map_of_mem hitem
  exact List.mem_map.mp (List.mem_filter.mp hsetter).1

theorem exists_made (h : ∀ item ∈ items, Passes reported item) (accessPointId : ByteString) :
    ∃ trace, Made accessPointId items trace ∧ Reports reported trace := by
  induction items with
  | nil => exact ⟨[], .nil, reports_of_forall (List.forall_mem_nil _)⟩
  | cons item items ih =>
      rw [List.forall_mem_cons] at h
      obtain ⟨first, status, hitem, hfirst, hsucceeds⟩ := exists_itemRun h.1 accessPointId
      obtain ⟨rest, hmade, hrest⟩ := ih h.2
      exact ⟨first ++ rest, .cons (runs_of_itemRun hitem) hsucceeds hmade,
        reports_append.mpr ⟨hfirst, hrest⟩⟩

-- A controller that refuses everything reports nothing.
def refusing (past : List Controller.Exchange) (request : ControllerRequest) :
    Controller.Reply request :=
  ({ granted with code := .InternalError }, (granting {} past request).2)

theorem exists_reports {α : Type} (reported : Ieee80211AccessPointCapabilities → Prop)
    (program : Program Controller Fault α) :
    ∃ trace outcome, program.Runs trace outcome ∧ Reports reported trace := by
  refine ⟨_, _, Program.runs_run refusing program, fun operationStatus _ hmem hsucceeded => ?_⟩
  have hfailed := Program.mem_run (P := fun exchange : Controller.Exchange =>
    exchange.2.1.succeeded = false) (fun _ _ => rfl) program []
    (List.forall_mem_nil _) _ hmem
  rw [show operationStatus.succeeded = false from hfailed] at hsucceeded
  cases hsucceeded

end Reports

section Shielded

-- No unknown value reaches the controller, and a request with an unrecognised one is
-- answered so, unless an operation fails before.
def Shielded (request : Request) (trace : List Controller.Exchange)
    (outcome : Except Fault WifiAccessPointOperationStatus) : Prop :=
  (∀ exchange ∈ trace, ¬ ContainsUnknown exchange.1) ∧
    (request.Unrecognised → ∀ status, outcome = .ok status →
      status.code = .InvalidParameter ∨ status.code = .OperationNotSupported ∨
        ¬ AllSucceed trace)

variable {platform : Platform} {accessPointId : ByteString}
  {reported : Ieee80211AccessPointCapabilities → Prop} {items : List Item}
  {trace : List Controller.Exchange} {outcome : Except Fault WifiAccessPointOperationStatus}
  {last : Program Controller Fault WifiAccessPointOperationStatus}

theorem mem_setters {exchange : Controller.Exchange} (hmem : exchange ∈ trace)
    (h : ContainsUnknown exchange.1) : exchange.1 ∈ setters trace := by
  refine List.mem_filter.mpr ⟨List.mem_map_of_mem hmem, ?_⟩
  obtain ⟨request, reply⟩ := exchange
  cases request with
  | GetOperationalState => cases h
  | GetCapabilities => cases h
  | _ => rfl

theorem within_last (request : Request) :
    (request.last accessPointId).Within fun request => ¬ ContainsUnknown request := by
  cases request with
  | SetPhyType => trivial
  | SetFrequencyBands => trivial
  | Enable =>
      apply Program.within_bind
      · exact ⟨id, fun _ => trivial⟩
      · rintro ⟨operationStatus, currentState⟩
        dsimp only
        split_ifs
        · trivial
        · trivial
        · apply Program.within_bind
          · exact ⟨id, fun _ => trivial⟩
          · rintro ⟨operationStatus, _⟩
            dsimp only
            split_ifs <;> trivial

theorem containsUnknown_of_made (h : Made accessPointId items trace)
    {exchange : Controller.Exchange} (hmem : exchange ∈ trace)
    (hunknown : ContainsUnknown exchange.1) : ∃ item ∈ items, ContainsUnknown item.request := by
  have hsetter := mem_setters hmem hunknown
  rw [h.setters_eq] at hsetter
  obtain ⟨item, hitem, hrequest⟩ := List.mem_map.mp hsetter
  exact ⟨item, hitem, hrequest ▸ hunknown⟩

theorem containsUnknown_of_itemRun {item : Item} {status : WifiAccessPointOperationStatus}
    (h : ItemRun accessPointId item trace status) {exchange : Controller.Exchange}
    (hmem : exchange ∈ trace) (hunknown : ContainsUnknown exchange.1) :
    setters trace ≠ [] ∧ ContainsUnknown item.request := by
  have hsetter := mem_setters hmem hunknown
  have hrequest := List.mem_singleton.mp (h.setters_prefix.subset hsetter)
  exact ⟨List.ne_nil_of_mem hsetter, hrequest ▸ hunknown⟩

-- The unknown values that reach the controller are those of items that pass, one
-- after the other from the first.
theorem runs_reports (hlast : last.Within fun request => ¬ ContainsUnknown request)
    (hruns : (setConfigurationItems (items.map (Item.program accessPointId)) last).Runs
      trace outcome) (hreports : Reports reported trace) :
    ∃ made, made <+: items ∧ (∀ item ∈ made, Passes reported item) ∧
      (∀ exchange ∈ trace, ContainsUnknown exchange.1 →
        ∃ item ∈ made, ContainsUnknown item.request) ∧
      ∀ status, outcome = .ok status → made = items ∨ status.code = .InvalidParameter ∨
        status.code = .OperationNotSupported ∨ ¬ AllSucceed trace := by
  rcases runs_setConfigurationItems hruns with ⟨past, now, rfl, hmade, hnow⟩ |
    ⟨done, item, later, past, now, status, rfl, rfl, hmade, hnow, hcode, rfl⟩
  · refine ⟨items, List.prefix_refl _, passes_of_made hmade (reports_append.mp hreports).1, ?_,
      fun _ _ => .inl rfl⟩
    intro exchange hmem hunknown
    rcases List.mem_append.mp hmem with hpast | hrest
    · exact containsUnknown_of_made hmade hpast hunknown
    · exact absurd hunknown (Program.allowed_of_within hlast hnow exchange hrest)
  · obtain ⟨hpast, hrest⟩ := reports_append.mp hreports
    obtain ⟨_, hstatus, hitem⟩ := itemRun_of_runs hnow
    obtain rfl := Except.ok.inj hstatus
    have hpasses := passes_of_made hmade hpast
    have hanswered : ∀ other, Except.ok status = (.ok other : Except Fault _) →
        other.code = .InvalidParameter ∨ other.code = .OperationNotSupported ∨
          ¬ AllSucceed (past ++ now) := by
      rintro _ ⟨⟩
      exact (hitem.answered hcode).imp_right fun h =>
        h.imp_right fun hfailed hsucceed => hfailed (allSucceed_append.mp hsucceed).2
    by_cases hset : setters now = []
    · refine ⟨done, List.prefix_append _ _, hpasses, ?_,
        fun other hother => .inr (hanswered other hother)⟩
      intro exchange hmem hunknown
      rcases List.mem_append.mp hmem with hfirst | hlater
      · exact containsUnknown_of_made hmade hfirst hunknown
      · exact absurd hset (containsUnknown_of_itemRun hitem hlater hunknown).1
    · refine ⟨done ++ [item], ⟨later, by simp⟩, ?_, ?_,
        fun other hother => .inr (hanswered other hother)⟩
      · rw [List.forall_mem_append, List.forall_mem_singleton]
        exact ⟨hpasses, passes_of_itemRun hitem hrest hset⟩
      · intro exchange hmem hunknown
        rcases List.mem_append.mp hmem with hfirst | hlater
        · obtain ⟨earlier, hearlier, hrequest⟩ := containsUnknown_of_made hmade hfirst hunknown
          exact ⟨earlier, List.mem_append_left _ hearlier, hrequest⟩
        · exact ⟨item, by simp, (containsUnknown_of_itemRun hitem hlater hunknown).2⟩

-- Somewhere an item is kept from the controller, and what comes before it is known.
def Stopped (reported : Ieee80211AccessPointCapabilities → Prop) (items : List Item) : Prop :=
  ∃ done item later, items = done ++ item :: later ∧ ¬ Passes reported item ∧
    ∀ earlier ∈ done, ¬ ContainsUnknown earlier.request

-- What is done after the items can succeed.
theorem exists_run_last (reported : Ieee80211AccessPointCapabilities → Prop) (request : Request)
    (accessPointId : ByteString) :
    ∃ trace status, (request.last accessPointId).Runs trace (.ok status) ∧ Succeeds status ∧
      AllSucceed trace ∧ Reports reported trace := by
  cases request with
  | SetPhyType =>
      exact ⟨[], _, .Return _, rfl, List.forall_mem_nil _,
        reports_of_forall (List.forall_mem_nil _)⟩
  | SetFrequencyBands =>
      exact ⟨[], _, .Return _, rfl, List.forall_mem_nil _,
        reports_of_forall (List.forall_mem_nil _)⟩
  | Enable =>
      let reply : Controller.Reply .GetOperationalState :=
        (granted, some AccessPointOperationalState.Enabled)
      refine ⟨[⟨.GetOperationalState, reply⟩], _, .Ask reply (.Return _), rfl,
        allSucceed_singleton.mpr rfl, reports_of_forall ?_⟩
      exact List.forall_mem_singleton.mpr nofun

section Calls

variable {accessPointManager : IAccessPointManager Controller}
  {accessPointController : Option (IAccessPointController Controller)}
  (h : Reaches accessPointManager accessPointId accessPointController requested)
  {request : Request}

include h

-- A request succeeds when its items all pass.
theorem exists_run_of_passes
    (hpasses : ∀ item ∈ request.items platform accessPointId, Passes reported item) :
    ∃ trace status,
      (request.call platform accessPointId accessPointManager accessPointController).Runs
        trace (.ok status) ∧
      Succeeds status ∧ AllSucceed trace ∧ Reports reported trace ∧
      ∀ item ∈ request.items platform accessPointId, ∃ exchange ∈ trace,
        exchange.1 = item.request := by
  obtain ⟨past, hmade, hpast⟩ := exists_made hpasses accessPointId
  obtain ⟨now, status, hnow, hsucceeds, hall, hreports⟩ :=
    exists_run_last reported request accessPointId
  have hlast : (setConfigurationItems (([] : List Item).map (Item.program accessPointId))
      (request.last accessPointId)).Runs now (.ok status) := hnow
  have hruns := hmade.runs hlast
  rw [List.append_nil, ← request.call_eq platform accessPointId h] at hruns
  refine ⟨_, status, hruns, hsucceeds, allSucceed_append.mpr ⟨hmade.allSucceed, hall⟩,
    reports_append.mpr ⟨hpast, hreports⟩, fun item hitem => ?_⟩
  obtain ⟨exchange, hmem, hrequest⟩ := exists_exchange_of_made hmade hitem
  exact ⟨exchange, List.mem_append_left _ hmem, hrequest⟩

-- The items before one that does not pass can all be set.
theorem exists_run_of_passes_before {done later : List Item} {item : Item}
    (hitems : request.items platform accessPointId = done ++ item :: later)
    (hdone : ∀ earlier ∈ done, Passes reported earlier) :
    ∃ trace outcome,
      (request.call platform accessPointId accessPointManager accessPointController).Runs
        trace outcome ∧
      Reports reported trace ∧
      ∀ earlier ∈ done, ∃ exchange ∈ trace, exchange.1 = earlier.request := by
  obtain ⟨past, hmade, hpast⟩ := exists_made hdone accessPointId
  obtain ⟨now, outcome, hnow, hreports⟩ := exists_reports reported
    (setConfigurationItems ((item :: later).map (Item.program accessPointId))
      (request.last accessPointId))
  have hruns := hmade.runs hnow
  rw [← hitems, ← request.call_eq platform accessPointId h] at hruns
  refine ⟨_, outcome, hruns, reports_append.mpr ⟨hpast, hreports⟩, fun earlier hearlier => ?_⟩
  obtain ⟨exchange, hmem, hrequest⟩ := exists_exchange_of_made hmade hearlier
  exact ⟨exchange, List.mem_append_left _ hmem, hrequest⟩

theorem stopped_of_shielded
    (hall : ∀ trace outcome,
      (request.call platform accessPointId accessPointManager accessPointController).Runs
        trace outcome → Reports reported trace → Shielded request trace outcome)
    (hunrecognised : request.Unrecognised) :
    Stopped reported (request.items platform accessPointId) := by
  by_cases hpasses : ∀ item ∈ request.items platform accessPointId, Passes reported item
  · obtain ⟨trace, status, hruns, hsucceeds, hsucceed, hreports, -⟩ :=
      exists_run_of_passes h hpasses
    have hsucceeded : status.code = .Succeeded := hsucceeds
    rcases (hall _ _ hruns hreports).2 hunrecognised status rfl with hcode | hcode | hfailed
    · rw [hcode] at hsucceeded
      cases hsucceeded
    · rw [hcode] at hsucceeded
      cases hsucceeded
    · exact absurd hsucceed hfailed
  · obtain ⟨done, item, later, hsplit, hdone, hitem⟩ := exists_first hpasses
    refine ⟨done, item, later, hsplit, hitem, fun earlier hearlier hunknown => ?_⟩
    obtain ⟨trace, outcome, hruns, hreports, hmade⟩ := exists_run_of_passes_before h hsplit hdone
    obtain ⟨exchange, hmem, hrequest⟩ := hmade earlier hearlier
    exact (hall _ _ hruns hreports).1 exchange hmem (hrequest ▸ hunknown)

theorem shielded_of_stopped
    (hstopped : ¬ request.Unrecognised ∨
      Stopped reported (request.items platform accessPointId))
    (hruns : (request.call platform accessPointId accessPointManager
      accessPointController).Runs trace outcome)
    (hreports : Reports reported trace) : Shielded request trace outcome := by
  rw [request.call_eq platform accessPointId h] at hruns
  obtain ⟨made, hbegins, hpasses, hunknown, hanswered⟩ :=
    runs_reports (within_last request) hruns hreports
  rcases hstopped with hrecognised | ⟨done, item, later, hsplit, hitem, hknown⟩
  · refine ⟨fun exchange hmem h => ?_, fun h => absurd h hrecognised⟩
    obtain ⟨other, hother, hcontains⟩ := hunknown exchange hmem h
    exact hrecognised
      (unrecognised_of_containsUnknown platform accessPointId (hbegins.subset hother) hcontains)
  · rw [hsplit] at hbegins hanswered
    have hshort := prefix_of_forall hbegins hpasses hitem
    refine ⟨fun exchange hmem h => ?_, fun _ status hstatus => ?_⟩
    · obtain ⟨other, hother, hcontains⟩ := hunknown exchange hmem h
      exact hknown other (hshort.subset hother) hcontains
    · rcases hanswered status hstatus with rfl | hcode
      · have hlength := hshort.length_le
        simp only [List.length_append, List.length_cons] at hlength
        omega
      · exact hcode

end Calls

theorem call_shielded_iff (platform : Platform)
    {accessPointManager : IAccessPointManager Controller}
    {accessPointController : Option (IAccessPointController Controller)}
    (h : Reaches accessPointManager accessPointId accessPointController requested)
    (reported : Ieee80211AccessPointCapabilities → Prop) (request : Request) :
    (∀ trace outcome,
      (request.call platform accessPointId accessPointManager accessPointController).Runs
        trace outcome → Reports reported trace → Shielded request trace outcome) ↔
      ¬ request.Unrecognised ∨ Stopped reported (request.items platform accessPointId) := by
  constructor
  · intro hall
    by_cases hunrecognised : request.Unrecognised
    · exact .inr (stopped_of_shielded h hall hunrecognised)
    · exact .inl hunrecognised
  · intro hstopped trace outcome hruns hreports
    exact shielded_of_stopped h hstopped hruns hreports

-- A PHY type passes when it can be reported, even if it is unknown.
theorem passes_phyTypeItem {dot11PhyType : Dot11PhyType} :
    Passes reported (phyTypeItem accessPointId dot11PhyType) ↔
      dot11PhyType ≠ Dot11PhyTypeUnknown ∧ ∃ accessPointCapabilities,
        reported accessPointCapabilities ∧
          fromDot11PhyType dot11PhyType ∈ accessPointCapabilities.phyTypes := by
  simp [Passes, phyTypeItem]

-- Cipher suites pass when their protocols are known, whatever the ciphers.
theorem passes_pairwiseCipherSuitesItem {configurations : List Dot11CipherSuiteConfiguration}
    (hpresent : configurations ≠ [])
    (hknown : ∀ configuration ∈ configurations,
      configuration.securityProtocol ≠ Dot11SecurityProtocolUnknown ∧
        fromDot11SecurityProtocol configuration.securityProtocol ≠ .Unknown) :
    Passes reported
      (pairwiseCipherSuitesItem platform (toDot11CipherSuiteConfigurations configurations)) := by
  have hnonempty : toDot11CipherSuiteConfigurations configurations ≠ ∅ := by
    intro hempty
    obtain ⟨configuration, hmem⟩ := List.exists_mem_of_ne_nil _ hpresent
    have hlisted := PairwiseCipherSuites.lookup_dot11Suites_of_mem hmem
    rw [show PairwiseCipherSuites.dot11Suites configurations = ∅ from hempty] at hlisted
    cases hlisted
  have hprotocol : Dot11SecurityProtocolUnknown ∉
      toDot11CipherSuiteConfigurations configurations := by
    intro hmem
    obtain ⟨suites, hlookup⟩ := Option.isSome_iff_exists.mp (AList.lookup_isSome.mpr hmem)
    obtain ⟨configuration, hconfiguration, hsame, -⟩ :=
      PairwiseCipherSuites.exists_mem_of_lookup hlookup
    exact (hknown configuration hconfiguration).1 hsame
  have hneutral : Ieee80211SecurityProtocol.Unknown ∉
      fromDot11CipherSuiteConfigurations platform.dot11CipherSuites
        (toDot11CipherSuiteConfigurations configurations) := by
    intro hmem
    obtain ⟨suites, hlookup⟩ := Option.isSome_iff_exists.mp (AList.lookup_isSome.mpr hmem)
    obtain ⟨source, _, hsource, hsame, -⟩ := Table.Traversal.of_lookup_rekey hlookup
    obtain ⟨configuration, hconfiguration, rfl, -⟩ :=
      PairwiseCipherSuites.exists_mem_of_lookup hsource
    exact (hknown configuration hconfiguration).2 hsame
  refine ⟨?_, nofun⟩
  unfold pairwiseCipherSuitesItem
  rw [if_neg hnonempty, if_neg (not_or.mpr ⟨hprotocol, hneutral⟩)]

end Shielded

-- A controller that is handed in, and no access points to find another one with.
def onlyGiven : IAccessPointManager Controller := ⟨fun _ => none⟩

def setUnknownPhyType : Request := .SetPhyType ⟨99⟩

def callUnknownPhyType : Program Controller Fault WifiAccessPointOperationStatus :=
  setUnknownPhyType.call ⟨default, default⟩ (str "wlan0") onlyGiven (some requested)

-- A controller that does not report the unknown value.
theorem call_shielded_phyType :
    Shielded setUnknownPhyType (callUnknownPhyType.run (granting {}) []).1
      (callUnknownPhyType.run (granting {}) []).2 := by
  let known (accessPointCapabilities : Ieee80211AccessPointCapabilities) : Prop :=
    .Unknown ∉ accessPointCapabilities.phyTypes
  have hgiven : Reaches onlyGiven (str "wlan0") (some requested) requested := .inl rfl
  have hstopped : ¬ Passes known (phyTypeItem (str "wlan0") ⟨99⟩) := by
    rw [passes_phyTypeItem]
    rintro ⟨-, accessPointCapabilities, hreported, hmem⟩
    exact hreported hmem
  have hreports : Reports known (callUnknownPhyType.run (granting {}) []).1 :=
    reports_singleton (List.not_mem_nil : known {})
  exact (call_shielded_iff ⟨default, default⟩ hgiven known setUnknownPhyType).mpr
    (.inr ⟨[], _, [], rfl, hstopped, List.forall_mem_nil _⟩) _ _
    (Program.runs_run (granting {}) callUnknownPhyType) hreports

-- The number of no cipher, for a protocol that is known.
def unknownCipher : Dot11CipherSuiteConfiguration := ⟨Dot11SecurityProtocolWpa2, [⟨99⟩]⟩

def enableUnknownCipher : Request := .Enable (some { pairwiseCipherSuites := [unknownCipher] })

section UnknownCipher

variable {platform : Platform} {accessPointId : ByteString}
  {reported : Ieee80211AccessPointCapabilities → Prop}

theorem items_enableUnknownCipher :
    enableUnknownCipher.items platform accessPointId =
      [pairwiseCipherSuitesItem platform (toDot11CipherSuiteConfigurations [unknownCipher])] := rfl

theorem passes_unknownCipher :
    ∀ item ∈ enableUnknownCipher.items platform accessPointId, Passes reported item := by
  rw [items_enableUnknownCipher, List.forall_mem_singleton]
  apply passes_pairwiseCipherSuitesItem (List.cons_ne_nil _ _)
  rw [List.forall_mem_singleton]
  decide

theorem containsUnknown_unknownCipher :
    ∀ item ∈ enableUnknownCipher.items platform accessPointId, ContainsUnknown item.request := by
  rw [items_enableUnknownCipher, List.forall_mem_singleton]
  have hlisted := PairwiseCipherSuites.lookup_dot11Suites_of_mem
    (List.mem_singleton_self unknownCipher)
  have halone : ∀ other, other ∈ toDot11CipherSuiteConfigurations [unknownCipher] →
      fromDot11SecurityProtocol other = fromDot11SecurityProtocol unknownCipher.securityProtocol →
      other = unknownCipher.securityProtocol := by
    intro other hother _
    obtain ⟨suites, hlookup⟩ := Option.isSome_iff_exists.mp (AList.lookup_isSome.mpr hother)
    obtain ⟨configuration, hmem, rfl, -⟩ := PairwiseCipherSuites.exists_mem_of_lookup hlookup
    rw [List.mem_singleton.mp hmem]
  exact ⟨_, _, Table.Traversal.lookup_rekey_of_unique hlisted halone, .inr List.mem_cons_self⟩

end UnknownCipher

-- The cipher suites are set with an unknown one among them, and the request succeeds.
theorem call_passes_unknownCipher :
    enableUnknownCipher.Unrecognised ∧
      ∃ trace status,
        (enableUnknownCipher.call ⟨default, default⟩ (str "wlan0") onlyGiven
          (some requested)).Runs trace (.ok status) ∧
        Succeeds status ∧ (∃ exchange ∈ trace, ContainsUnknown exchange.1) ∧
        ¬ Shielded enableUnknownCipher trace (.ok status) := by
  have hunrecognised : enableUnknownCipher.Unrecognised :=
    ⟨_, rfl, .inr (.inr (.inr (.inl ⟨_, List.mem_cons_self, .inr List.mem_cons_self⟩)))⟩
  have hgiven : Reaches onlyGiven (str "wlan0") (some requested) requested := .inl rfl
  have hpasses : ∀ item ∈ enableUnknownCipher.items ⟨default, default⟩ (str "wlan0"),
      Passes (fun _ => True) item := passes_unknownCipher
  obtain ⟨trace, status, hruns, hsucceeds, -, -, hmade⟩ := exists_run_of_passes hgiven hpasses
  have hpassed : ∃ exchange ∈ trace, ContainsUnknown exchange.1 := by
    obtain ⟨item, hitem⟩ := List.exists_mem_of_ne_nil
      (enableUnknownCipher.items ⟨default, default⟩ (str "wlan0")) (List.cons_ne_nil _ _)
    obtain ⟨exchange, hmem, hrequest⟩ := hmade item hitem
    exact ⟨exchange, hmem, hrequest ▸ containsUnknown_unknownCipher item hitem⟩
  refine ⟨hunrecognised, trace, status, hruns, hsucceeds, hpassed, fun hshielded => ?_⟩
  obtain ⟨exchange, hmem, hunknown⟩ := hpassed
  exact hshielded.1 exchange hmem hunknown

end NetRemote.Service.NetRemoteService.UnknownValues
