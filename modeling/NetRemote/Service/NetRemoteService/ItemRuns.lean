import NetRemote.Service.NetRemoteService.Items
import NetRemote.Service.NetRemoteService.Theorems

namespace NetRemote.Service.NetRemoteService

open Foundation Foundation.Bytes Api Wifi Wpa

-- What is not a question, in the order in which it is asked for.
def setters (trace : List Controller.Exchange) : List ControllerRequest :=
  (trace.map Sigma.fst).filter fun request => !request.isQuery

def AllSucceed (trace : List Controller.Exchange) : Prop :=
  ∀ exchange ∈ trace, exchange.2.1.succeeded = true

-- What fails is the last, and its code is returned.
def StopsWith (trace : List Controller.Exchange) (code : WifiAccessPointOperationStatusCode) :
    Prop :=
  ∀ past failing rest, trace = past ++ failing :: rest → failing.2.1.succeeded = false →
    rest = [] ∧ code = toDot11AccessPointOperationStatusCode failing.2.1.code

section Traces

variable {past now : List Controller.Exchange} {code : WifiAccessPointOperationStatusCode}

@[simp] theorem setters_nil : setters [] = [] := rfl

@[simp] theorem setters_append (past now : List Controller.Exchange) :
    setters (past ++ now) = setters past ++ setters now := by
  simp [setters]

theorem setters_query (request : ControllerRequest) (h : request.isQuery = true)
    (reply : Controller.Reply request) (trace : List Controller.Exchange) :
    setters (⟨request, reply⟩ :: trace) = setters trace := by
  simp [setters, h]

theorem allSucceed_append : AllSucceed (past ++ now) ↔ AllSucceed past ∧ AllSucceed now :=
  List.forall_mem_append

theorem allSucceed_singleton {exchange : Controller.Exchange} :
    AllSucceed [exchange] ↔ exchange.2.1.succeeded = true := List.forall_mem_singleton

theorem stopsWith_of_allSucceed (h : AllSucceed past) : StopsWith past code := by
  rintro before failing rest rfl hfailing
  have hsucceeded := h failing (by simp)
  rw [hfailing] at hsucceeded
  cases hsucceeded

theorem stopsWith_singleton {exchange : Controller.Exchange}
    (h : exchange.2.1.succeeded = false →
      code = toDot11AccessPointOperationStatusCode exchange.2.1.code) :
    StopsWith [exchange] code := by
  intro before failing rest hsplit hfailing
  obtain ⟨rfl, hlast⟩ | ⟨rfl, hnone⟩ := List.singleton_eq_append_iff.mp hsplit
  · obtain ⟨rfl, rfl⟩ := List.cons_eq_cons.mp hlast
    exact ⟨rfl, h hfailing⟩
  · cases hnone

theorem stopsWith_append (hpast : AllSucceed past) (hnow : StopsWith now code) :
    StopsWith (past ++ now) code := by
  intro before failing rest hsplit hfailing
  rcases List.append_eq_append_iff.mp hsplit with ⟨between, rfl, hrest⟩ | ⟨between, rfl, hrest⟩
  · exact hnow between failing rest hrest hfailing
  · cases between with
    | nil => exact hnow [] failing rest hrest.symm hfailing
    | cons first between =>
        obtain ⟨rfl, -⟩ := List.cons_eq_cons.mp hrest
        have hsucceeded := hpast failing (by simp)
        rw [hfailing] at hsucceeded
        cases hsucceeded

end Traces

section Item

variable {accessPointId : ByteString} {item : Item} {trace : List Controller.Exchange}
  {status : WifiAccessPointOperationStatus}

theorem settle_toDot11 (accessPointId what : ByteString)
    (operationStatus : AccessPointOperationStatus) :
    (settle accessPointId what operationStatus).code =
      toDot11AccessPointOperationStatusCode operationStatus.code := by
  unfold settle AccessPointOperationStatus.succeeded
  by_cases h : operationStatus.code = .Succeeded
  · simp [h, toDot11AccessPointOperationStatusCode]
  · simp [h, failedTo, failed]

theorem not_succeeds_failedTo {accessPointId what : ByteString}
    {operationStatus : AccessPointOperationStatus} (h : operationStatus.succeeded = false) :
    ¬ Succeeds (failedTo accessPointId what operationStatus) := by
  intro hsucceeds
  have hcode := (toDot11_succeeded operationStatus.code).mp hsucceeds
  simp [AccessPointOperationStatus.succeeded, hcode] at h

theorem setters_request (item : Item) (reply : Controller.Reply item.request) :
    setters [⟨item.request, reply⟩] = [item.request] := by
  have hquery : item.request.isQuery = false := by
    have hconfigures := item.configures
    cases hrequest : item.request <;> rw [hrequest] at hconfigures <;>
      first | rfl | cases hconfigures
  simp [setters, hquery]

theorem setters_checked (item : Item) (reply : Controller.Reply item.request)
    (answer : Controller.Reply .GetCapabilities) :
    setters [⟨.GetCapabilities, answer⟩, ⟨item.request, reply⟩] = [item.request] :=
  (setters_query .GetCapabilities rfl answer _).trans (setters_request item reply)

-- The ways in which an item can go.
inductive ItemRun (accessPointId : ByteString) (item : Item) :
    List Controller.Exchange → WifiAccessPointOperationStatus → Prop where
  | Refused {message : ByteString} (hrefused : item.refused = some message) :
      ItemRun accessPointId item [] (failed .InvalidParameter message)
  | Unanswered {unsupported : Ieee80211AccessPointCapabilities → Option ByteString}
      {operationStatus : AccessPointOperationStatus}
      {accessPointCapabilities : Option Ieee80211AccessPointCapabilities}
      (hrefused : item.refused = none) (hunsupported : item.unsupported = some unsupported)
      (hfailed : operationStatus.succeeded = false) :
      ItemRun accessPointId item [⟨.GetCapabilities, (operationStatus, accessPointCapabilities)⟩]
        (failedTo accessPointId (str "Failed to get capabilities") operationStatus)
  | Unsupported {unsupported : Ieee80211AccessPointCapabilities → Option ByteString}
      {operationStatus : AccessPointOperationStatus}
      {accessPointCapabilities : Option Ieee80211AccessPointCapabilities} {message : ByteString}
      (hrefused : item.refused = none) (hunsupported : item.unsupported = some unsupported)
      (hanswered : operationStatus.succeeded = true)
      (hmessage : unsupported (accessPointCapabilities.getD {}) = some message) :
      ItemRun accessPointId item [⟨.GetCapabilities, (operationStatus, accessPointCapabilities)⟩]
        (failed .OperationNotSupported message)
  | Unchecked (reply : Controller.Reply item.request) (hrefused : item.refused = none)
      (hunsupported : item.unsupported = none) :
      ItemRun accessPointId item [⟨item.request, reply⟩] (settle accessPointId item.what reply.1)
  | Checked (reply : Controller.Reply item.request)
      {unsupported : Ieee80211AccessPointCapabilities → Option ByteString}
      {operationStatus : AccessPointOperationStatus}
      {accessPointCapabilities : Option Ieee80211AccessPointCapabilities}
      (hrefused : item.refused = none) (hunsupported : item.unsupported = some unsupported)
      (hanswered : operationStatus.succeeded = true)
      (hsupported : unsupported (accessPointCapabilities.getD {}) = none) :
      ItemRun accessPointId item
        [⟨.GetCapabilities, (operationStatus, accessPointCapabilities)⟩, ⟨item.request, reply⟩]
        (settle accessPointId item.what reply.1)

theorem itemRun_of_runs {outcome : Except Fault WifiAccessPointOperationStatus}
    (hruns : (item.program accessPointId).Runs trace outcome) :
    ∃ status, outcome = .ok status ∧ ItemRun accessPointId item trace status := by
  have hset : item.set accessPointId = .Ask item.request fun reply =>
      .Return (settle accessPointId item.what reply.1) := rfl
  unfold Item.program at hruns
  cases hrefused : item.refused with
  | some message =>
      rw [hrefused] at hruns
      cases hruns
      exact ⟨_, rfl, .Refused hrefused⟩
  | none =>
      rw [hrefused] at hruns
      dsimp only at hruns
      cases hunsupported : item.unsupported with
      | none =>
          rw [hunsupported, hset] at hruns
          cases hruns with
          | Ask reply hrest =>
              cases hrest
              exact ⟨_, rfl, .Unchecked reply hrefused hunsupported⟩
      | some unsupported =>
          rw [hunsupported] at hruns
          cases hruns with
          | Ask answer hrest =>
              obtain ⟨operationStatus, accessPointCapabilities⟩ := answer
              cases hanswered : operationStatus.succeeded with
              | false =>
                  simp only [Program.attempt, hanswered, Bool.not_false, if_true] at hrest
                  cases hrest
                  exact ⟨_, rfl, .Unanswered hrefused hunsupported hanswered⟩
              | true =>
                  simp only [Program.attempt, hanswered, Bool.not_true, Bool.false_eq_true,
                    if_false] at hrest
                  split at hrest
                  · rename_i hmessage
                    cases hrest
                    exact ⟨_, rfl, .Unsupported hrefused hunsupported hanswered hmessage⟩
                  · rename_i hsupported
                    rw [hset] at hrest
                    cases hrest with
                    | Ask reply hrest =>
                        cases hrest
                        exact ⟨_, rfl, .Checked reply hrefused hunsupported hanswered hsupported⟩

theorem runs_of_itemRun (h : ItemRun accessPointId item trace status) :
    (item.program accessPointId).Runs trace (.ok status) := by
  cases h with
  | Refused hrefused =>
      rw [Item.program, hrefused]
      exact .Return _
  | @Unanswered unsupported operationStatus accessPointCapabilities hrefused hunsupported hfailed =>
      rw [Item.program, hrefused, hunsupported]
      let answer : Controller.Reply .GetCapabilities := (operationStatus, accessPointCapabilities)
      refine .Ask answer ?_
      simp only [answer, Program.attempt, hfailed, Bool.not_false, if_true]
      exact .Return _
  | @Unsupported unsupported operationStatus accessPointCapabilities message hrefused hunsupported
      hanswered hmessage =>
      rw [Item.program, hrefused, hunsupported]
      let answer : Controller.Reply .GetCapabilities := (operationStatus, accessPointCapabilities)
      refine .Ask answer ?_
      simp only [answer, Program.attempt, hanswered, hmessage, Bool.not_true, Bool.false_eq_true,
        if_false]
      exact .Return _
  | Unchecked reply hrefused hunsupported =>
      rw [Item.program, hrefused, hunsupported]
      exact .Ask reply (.Return _)
  | @Checked reply unsupported operationStatus accessPointCapabilities hrefused hunsupported
      hanswered hsupported =>
      rw [Item.program, hrefused, hunsupported]
      let answer : Controller.Reply .GetCapabilities := (operationStatus, accessPointCapabilities)
      refine .Ask answer ?_
      simp only [answer, Program.attempt, hanswered, hsupported, Bool.not_true, Bool.false_eq_true,
        if_false]
      exact .Ask reply (.Return _)

theorem ItemRun.stopsWith (h : ItemRun accessPointId item trace status) :
    StopsWith trace status.code := by
  cases h with
  | Refused => exact stopsWith_of_allSucceed (List.forall_mem_nil _)
  | Unanswered => exact stopsWith_singleton fun _ => rfl
  | Unsupported _ _ hanswered =>
      exact stopsWith_of_allSucceed (allSucceed_singleton.mpr hanswered)
  | Unchecked reply => exact stopsWith_singleton fun _ => settle_toDot11 _ _ _
  | Checked reply _ _ hanswered =>
      exact stopsWith_append (allSucceed_singleton.mpr hanswered)
        (stopsWith_singleton fun _ => settle_toDot11 _ _ _)

theorem ItemRun.setters_prefix (h : ItemRun accessPointId item trace status) :
    setters trace <+: [item.request] := by
  cases h with
  | Refused => exact List.nil_prefix
  | Unanswered => exact List.nil_prefix
  | Unsupported => exact List.nil_prefix
  | Unchecked reply => exact setters_request item reply ▸ List.prefix_refl _
  | Checked reply => exact setters_checked item reply _ ▸ List.prefix_refl _

theorem ItemRun.succeeds_iff (h : ItemRun accessPointId item trace status) :
    Succeeds status ↔ AllSucceed trace ∧ setters trace = [item.request] := by
  cases h with
  | Refused =>
      refine iff_of_false (fun hcode => ?_) nofun
      cases hcode
  | Unanswered _ _ hfailed => exact iff_of_false (not_succeeds_failedTo hfailed) nofun
  | Unsupported =>
      refine iff_of_false (fun hcode => ?_) nofun
      cases hcode
  | Unchecked reply =>
      rw [Succeeds, settle_code, setters_request, allSucceed_singleton]
      simp [AccessPointOperationStatus.succeeded]
  | Checked reply _ _ hanswered =>
      rw [Succeeds, settle_code, setters_checked]
      simp only [AccessPointOperationStatus.succeeded, decide_eq_true_eq] at hanswered
      simp [AllSucceed, AccessPointOperationStatus.succeeded, hanswered]

-- An item that is not set is refused, unsupported or in a failed exchange.
theorem ItemRun.answered (h : ItemRun accessPointId item trace status)
    (hfails : ¬ Succeeds status) :
    status.code = .InvalidParameter ∨ status.code = .OperationNotSupported ∨
      ¬ AllSucceed trace := by
  have hset (hsetters : setters trace = [item.request]) : ¬ AllSucceed trace :=
    fun hsucceed => hfails (h.succeeds_iff.mpr ⟨hsucceed, hsetters⟩)
  cases h with
  | Refused => exact .inl rfl
  | Unanswered _ _ hfailed =>
      refine .inr (.inr fun hsucceed => ?_)
      rw [allSucceed_singleton.mp hsucceed] at hfailed
      cases hfailed
  | Unsupported => exact .inr (.inl rfl)
  | Unchecked reply => exact .inr (.inr (hset (setters_request item reply)))
  | Checked reply => exact .inr (.inr (hset (setters_checked item reply _)))

end Item

section Items

variable {accessPointId : ByteString} {items : List Item} {trace : List Controller.Exchange}
  {outcome : Except Fault WifiAccessPointOperationStatus}

-- Items that are set one after the other.
inductive Made (accessPointId : ByteString) : List Item → List Controller.Exchange → Prop where
  | nil : Made accessPointId [] []
  | cons {item : Item} {items : List Item} {first rest : List Controller.Exchange}
      {status : WifiAccessPointOperationStatus} :
      (item.program accessPointId).Runs first (.ok status) → Succeeds status →
        Made accessPointId items rest → Made accessPointId (item :: items) (first ++ rest)

theorem Made.allSucceed (h : Made accessPointId items trace) : AllSucceed trace := by
  induction h with
  | nil => exact List.forall_mem_nil _
  | cons hruns hsucceeds _ ih =>
      obtain ⟨_, hstatus, hitem⟩ := itemRun_of_runs hruns
      obtain rfl := Except.ok.inj hstatus
      exact allSucceed_append.mpr ⟨(hitem.succeeds_iff.mp hsucceeds).1, ih⟩

theorem Made.setters_eq (h : Made accessPointId items trace) :
    setters trace = items.map Item.request := by
  induction h with
  | nil => rfl
  | cons hruns hsucceeds _ ih =>
      obtain ⟨_, hstatus, hitem⟩ := itemRun_of_runs hruns
      obtain rfl := Except.ok.inj hstatus
      rw [setters_append, (hitem.succeeds_iff.mp hsucceeds).2, ih]
      rfl

theorem Made.runs {done : List Item} {past now : List Controller.Exchange}
    {next : Program Controller Fault WifiAccessPointOperationStatus}
    (h : Made accessPointId done past)
    (hnow : (setConfigurationItems (items.map (Item.program accessPointId)) next).Runs now
      outcome) :
    (setConfigurationItems ((done ++ items).map (Item.program accessPointId)) next).Runs
      (past ++ now) outcome := by
  induction h with
  | nil => exact hnow
  | cons hruns hsucceeds _ ih =>
      rw [List.cons_append, List.map_cons, setConfigurationItems, List.append_assoc]
      apply Program.Runs.bind hruns
      have hcode : _ = WifiAccessPointOperationStatusCode.Succeeded := hsucceeds
      rw [if_neg (not_not_intro hcode)]
      exact ih

-- Either all items are set and the last step is taken, or one of them fails and the
-- call ends with its status.
theorem runs_setConfigurationItems
    {next : Program Controller Fault WifiAccessPointOperationStatus}
    (hruns : (setConfigurationItems (items.map (Item.program accessPointId)) next).Runs
      trace outcome) :
    (∃ past now, trace = past ++ now ∧ Made accessPointId items past ∧ next.Runs now outcome) ∨
    ∃ done item later past now status, items = done ++ item :: later ∧ trace = past ++ now ∧
      Made accessPointId done past ∧ (item.program accessPointId).Runs now (.ok status) ∧
      status.code ≠ .Succeeded ∧ outcome = .ok status := by
  induction items generalizing trace with
  | nil => exact .inl ⟨[], trace, rfl, .nil, hruns⟩
  | cons item items ih =>
      rw [List.map_cons, setConfigurationItems] at hruns
      rcases Program.runs_bind hruns with ⟨first, rest, status, rfl, hitem, hrest⟩ |
        ⟨fault, rfl, hitem⟩
      · by_cases hcode : status.code = .Succeeded
        · rw [if_neg (not_not_intro hcode)] at hrest
          rcases ih hrest with ⟨past, now, rfl, hmade, hnext⟩ |
            ⟨done, failing, later, past, now, _, rfl, rfl, hmade, hfails⟩
          · exact .inl ⟨first ++ past, now, (List.append_assoc _ _ _).symm,
              .cons hitem hcode hmade, hnext⟩
          · exact .inr ⟨item :: done, failing, later, first ++ past, now, _, rfl,
              (List.append_assoc _ _ _).symm, .cons hitem hcode hmade, hfails⟩
        · rw [if_pos hcode] at hrest
          cases hrest
          exact .inr ⟨[], item, items, [], first, status, rfl, List.append_nil _, .nil, hitem,
            hcode, rfl⟩
      · obtain ⟨_, hstatus, -⟩ := itemRun_of_runs hitem
        cases hstatus

end Items

end NetRemote.Service.NetRemoteService
