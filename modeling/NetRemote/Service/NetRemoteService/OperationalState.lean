import NetRemote.Service.NetRemoteService.Items
import NetRemote.Service.NetRemoteService.Theorems
import NetRemote.Wifi.AccessPointControllerLinux.Theorems

namespace NetRemote.Service.NetRemoteService.OperationalState

open Foundation Foundation.Bytes Api Wifi Wpa Wpa.Hostapd Wpa.ProtocolWpa

def Acknowledged (command : WpaCommand) (trace : List System.Exchange) : Prop :=
  ∃ response : ByteString,
    (⟨.SendCommand command, some response⟩ : System.Exchange) ∈ trace ∧
      isResponseOk response = true

def Unmanaged (trace : List System.Exchange) : Prop :=
  (⟨.IsValid, false⟩ : System.Exchange) ∈ trace

-- hostapd has answered STATUS with a state that is operational, or with one that is not.
def Reported (platform : Wpa.Platform) (operational : Bool) (trace : List System.Exchange) :
    Prop :=
  ∃ exchange ∈ trace, ∃ status, statusIn platform exchange = some status ∧
    isHostapdStateOperational status.state = operational

section Changes

variable {platform : Wpa.Platform} {past now : List System.Exchange}

-- The evidence for a state that has been set.
def Changed (platform : Wpa.Platform) (trace : List System.Exchange) :
    AccessPointOperationalState → Prop
  | .Enabled => Acknowledged .Enable trace ∨ Reported platform true trace
  | .Disabled => Acknowledged .Disable trace ∨ Reported platform false trace

theorem acknowledged_of_subset {command : WpaCommand} (h : past ⊆ now)
    (hacknowledged : Acknowledged command past) : Acknowledged command now := by
  obtain ⟨response, hmem, hok⟩ := hacknowledged
  exact ⟨response, h hmem, hok⟩

theorem reported_of_subset {operational : Bool} (h : past ⊆ now)
    (hreported : Reported platform operational past) : Reported platform operational now := by
  obtain ⟨exchange, hmem, hstatus⟩ := hreported
  exact ⟨exchange, h hmem, hstatus⟩

theorem changed_of_subset {operationalState : AccessPointOperationalState} (h : past ⊆ now)
    (hchanged : Changed platform past operationalState) :
    Changed platform now operationalState := by
  cases operationalState with
  | Enabled => exact hchanged.imp (acknowledged_of_subset h) (reported_of_subset h)
  | Disabled => exact hchanged.imp (acknowledged_of_subset h) (reported_of_subset h)

theorem acknowledged_last {command : WpaCommand} {response : ByteString}
    (hok : isResponseOk response = true) :
    Acknowledged command (past ++ [⟨.SendCommand command, some response⟩]) :=
  ⟨response, by simp, hok⟩

theorem wp_enable (past : List System.Exchange) :
    (enable platform).wp past (fun now _ => Changed platform now .Enabled) fun _ _ => True := by
  intro reply
  cases reply with
  | none => trivial
  | some response =>
      by_cases hok : isResponseOk response
      · simp only [Program.attempt, hok, if_true]
        exact .inl (acknowledged_last hok)
      · simp only [Program.attempt, hok]
        refine (Program.wp_bind _ _).mpr (Program.wp_mono (wp_getStatus platform _) ?_ ?_)
        · rintro later status ⟨reply, rfl, hstatus⟩
          split_ifs with hoperational
          · exact .inr ⟨_, by simp, status, hstatus, hoperational⟩
          · trivial
        · exact fun _ _ _ => trivial

theorem wp_disable (past : List System.Exchange) :
    (disable platform).wp past (fun now _ => Changed platform now .Disabled) fun _ _ => True := by
  intro reply
  cases reply with
  | none => trivial
  | some response =>
      by_cases hok : isResponseOk response
      · simp only [Program.attempt, hok, if_true]
        exact .inl (acknowledged_last hok)
      · simp only [Program.attempt, hok]
        refine (Program.wp_bind _ _).mpr (Program.wp_mono (wp_getStatus platform _) ?_ ?_)
        · rintro later status ⟨reply, rfl, hstatus⟩
          split_ifs with hoperational
          · trivial
          · exact .inr ⟨_, by simp, status, hstatus, by simpa using hoperational⟩
        · exact fun _ _ _ => trivial

end Changes

section Controller

variable {platform : Wifi.Platform} {interfaceName : ByteString}

-- What is read back after the change adds to the evidence and takes nothing away.
theorem wp_setOperationalStateBy {operationalState : AccessPointOperationalState}
    {change : Wpa.Action Unit} {name : ByteString}
    (hchange : ∀ past, change.wp past
      (fun now _ => Changed platform.toPlatform now operationalState) fun _ _ => True)
    (past : List System.Exchange) :
    (AccessPointControllerLinux.setOperationalStateBy platform interfaceName change name).wp past
      (fun now status => status.code = .Succeeded →
        Changed platform.toPlatform now operationalState) fun _ _ => True := by
  refine (Program.wp_bind _ _).mpr ((Program.wp_attempt _ _ _).mpr
    (Program.wp_mono (hchange past) ?_ ?_))
  · intro now _ hchanged
    refine (Program.wp_bind _ _).mpr (Program.wp_mono (Program.wp_extends _ now) ?_ ?_)
    · exact fun later _ hlater _ => changed_of_subset hlater.subset hchanged
    · exact fun _ _ _ => trivial
  · intro now fault _
    cases fault with
    | Hostapd message =>
        refine (Program.wp_bind _ _).mpr (Program.wp_mono (Program.wp_extends _ now) ?_ ?_)
        · exact fun _ _ _ hcode => by cases hcode
        · exact fun _ _ _ => trivial
    | Std exception => trivial
    | Netlink exception => trivial
    | UndefinedBehavior => trivial
    | Terminate => trivial

theorem wp_setOperationalState (operationalState : AccessPointOperationalState)
    (past : List System.Exchange) :
    (accessPointControllerLinux platform interfaceName
        (.SetOperationalState operationalState)).wp past
      (fun now result => result.1.code = .Succeeded →
        Changed platform.toPlatform now operationalState) fun _ _ => True := by
  refine (Program.wp_attempt _ _ _).mpr ((Program.wp_bind _ _).mpr ?_)
  cases operationalState with
  | Enabled => exact wp_setOperationalStateBy wp_enable past
  | Disabled => exact wp_setOperationalStateBy wp_disable past

-- The state that the controller makes of the first answers of hostapd.
def told (platform : Wpa.Platform) : List System.Exchange → Option AccessPointOperationalState
  | ⟨.IsValid, false⟩ :: _ => some .Disabled
  | ⟨.IsValid, true⟩ :: exchange :: _ =>
      (statusIn platform exchange).map fun status =>
        if status.state = .Enabled then .Enabled else .Disabled
  | _ => none

-- The answers that say which state it is are complete.
def Asked (platform : Wpa.Platform) (first : List System.Exchange) : Prop :=
  first.length ≤ 2 ∧ ∀ later, told platform (first ++ later) = told platform first

theorem wp_getOperationalState :
    (accessPointControllerLinux platform interfaceName .GetOperationalState).wp []
      (fun now result => Asked platform.toPlatform now ∧
        (result.1.code = .Succeeded → result.2 = told platform.toPlatform now ∧
          result.2.isSome) ∧
        (result.1.code ≠ .Succeeded → told platform.toPlatform now = none))
      (fun now _ => Asked platform.toPlatform now ∧ told platform.toPlatform now = none) := by
  refine (Program.wp_attempt _ _ _).mpr ((Program.wp_bind _ _).mpr (wp_isActive.mpr ?_))
  intro active
  cases active with
  | false => exact ⟨⟨by simp, fun _ => rfl⟩, fun _ => ⟨rfl, rfl⟩, fun h => absurd rfl h⟩
  | true =>
      refine (Program.wp_attempt _ _ _).mpr
        (Program.wp_mono (wp_getStatus platform.toPlatform _) ?_ ?_)
      · rintro now status ⟨reply, rfl, hstatus⟩
        refine ⟨⟨by simp, fun _ => rfl⟩, fun _ => ⟨?_, rfl⟩, fun h => absurd rfl h⟩
        rw [List.nil_append, List.singleton_append, told, hstatus]
        rfl
      · rintro now fault ⟨reply, rfl, hstatus⟩
        have hasked : Asked platform.toPlatform
            [⟨.IsValid, true⟩, ⟨.SendCommand .Status, reply⟩] := ⟨by simp, fun _ => rfl⟩
        have hnone : told platform.toPlatform
            [⟨.IsValid, true⟩, ⟨.SendCommand .Status, reply⟩] = none := by
          simp [told, hstatus]
        cases fault with
        | Hostapd message => exact ⟨hasked, nofun, fun _ => hnone⟩
        | Std exception => exact ⟨hasked, hnone⟩
        | Netlink exception => exact ⟨hasked, hnone⟩
        | UndefinedBehavior => exact ⟨hasked, hnone⟩
        | Terminate => exact ⟨hasked, hnone⟩

end Controller

section Calls

variable {platform : Wifi.Platform} {accessPointId interfaceName name : ByteString}
  {trace : List System.Exchange} {outcome : Except Fault WifiAccessPointOperationStatus}

theorem asked_of_returns {result : AccessPointOperationStatus × Option AccessPointOperationalState}
    (hruns : (accessPointControllerLinux platform interfaceName .GetOperationalState).Runs trace
      (.ok result)) :
    Asked platform.toPlatform trace ∧
      (result.1.code = .Succeeded → result.2 = told platform.toPlatform trace ∧
        result.2.isSome) ∧
      (result.1.code ≠ .Succeeded → told platform.toPlatform trace = none) :=
  Program.ends_of_wp [] wp_getOperationalState hruns

theorem told_of_succeeded
    {result : AccessPointOperationStatus × Option AccessPointOperationalState}
    (hruns : (accessPointControllerLinux platform interfaceName .GetOperationalState).Runs trace
      (.ok result)) (hsucceeded : result.1.succeeded = true) :
    ∃ current, result.2 = some current ∧ told platform.toPlatform trace = some current ∧
      Asked platform.toPlatform trace := by
  obtain ⟨hasked, hstate, -⟩ := asked_of_returns hruns
  obtain ⟨htold, hsome⟩ := hstate (of_decide_eq_true hsucceeded)
  obtain ⟨current, hcurrent⟩ := Option.isSome_iff_exists.mp hsome
  exact ⟨current, hcurrent, htold.symm.trans hcurrent, hasked⟩

theorem asked_of_throws {fault : Fault}
    (hruns : (accessPointControllerLinux platform interfaceName .GetOperationalState).Runs trace
      (.error fault)) :
    Asked platform.toPlatform trace ∧ told platform.toPlatform trace = none :=
  Program.ends_of_wp [] wp_getOperationalState hruns

-- A state that the controller takes for the one that is asked for is left alone.
theorem runs_changeOperationalState {operationalState : AccessPointOperationalState}
    (hruns : (changeOperationalState accessPointId
      (accessPointControllerLinux platform interfaceName) operationalState name).Runs
        trace outcome) :
    (told platform.toPlatform trace = some operationalState →
      trace.length ≤ 2 ∧ outcome = .ok { code := .Succeeded }) ∧
    (told platform.toPlatform trace ≠ some operationalState → ∀ status, outcome = .ok status →
      Succeeds status → Changed platform.toPlatform trace operationalState) := by
  cases stateRun_of_runs hruns with
  | Unasked hget =>
      obtain ⟨-, hnone⟩ := asked_of_throws hget
      rw [hnone]
      exact ⟨nofun, fun _ _ => nofun⟩
  | Unanswered hget hfailed hcode =>
      have hnone := (asked_of_returns hget).2.2 (of_decide_eq_false hfailed)
      rw [hnone]
      refine ⟨nofun, ?_⟩
      rintro - status ⟨⟩ hsucceeds
      exact absurd ((toDot11_succeeded _).mp (hcode.symm.trans hsucceeds))
        (of_decide_eq_false hfailed)
  | Kept hget hsucceeded hsame =>
      obtain ⟨current, hcurrent, htold, hlength, -⟩ := told_of_succeeded hget hsucceeded
      rw [hcurrent, Option.getD_some] at hsame
      rw [htold, hsame]
      exact ⟨fun _ => ⟨hlength, rfl⟩, fun hother => absurd rfl hother⟩
  | @Unset first later fault reply hget hsucceeded hother hset =>
      obtain ⟨current, hcurrent, htold, -, hlater⟩ := told_of_succeeded hget hsucceeded
      rw [hcurrent, Option.getD_some] at hother
      rw [hlater, htold]
      exact ⟨fun hsame => absurd (Option.some.inj hsame) hother, fun _ _ => nofun⟩
  | @Set first later status reply changed hget hsucceeded hother hset hcode =>
      obtain ⟨current, hcurrent, htold, -, hlater⟩ := told_of_succeeded hget hsucceeded
      rw [hcurrent, Option.getD_some] at hother
      rw [hlater, htold]
      refine ⟨fun hsame => absurd (Option.some.inj hsame) hother, ?_⟩
      rintro - status ⟨⟩ hsucceeds
      have hchanged : Changed platform.toPlatform later operationalState :=
        Program.ends_of_wp [] (wp_setOperationalState operationalState []) hset
          ((toDot11_succeeded _).mp (hcode.symm.trans hsucceeds))
      exact changed_of_subset (List.subset_append_right first later) hchanged

-- What comes after the items is reached, unless one of them has failed.
theorem runs_next_of_setConfigurationItems {E : Environment}
    {items : List (Program E Fault WifiAccessPointOperationStatus)}
    {next : Program E Fault WifiAccessPointOperationStatus} {trace : List E.Exchange}
    (hruns : (setConfigurationItems items next).Runs trace outcome) :
    (∃ past now, trace = past ++ now ∧ next.Runs now outcome) ∨
      ∀ status, outcome = .ok status → ¬ Succeeds status := by
  induction items generalizing trace with
  | nil => exact .inl ⟨[], trace, rfl, hruns⟩
  | cons item items ih =>
      rcases Program.runs_bind hruns with ⟨first, later, status, rfl, hitem, hlater⟩ |
        ⟨fault, rfl, hitem⟩
      · by_cases hcode : status.code = .Succeeded
        · rw [if_neg (not_not.mpr hcode)] at hlater
          rcases ih hlater with ⟨past, now, rfl, hnext⟩ | hfailed
          · exact .inl ⟨first ++ past, now, by simp, hnext⟩
          · exact .inr hfailed
        · rw [if_pos hcode] at hlater
          cases hlater
          exact .inr fun _ hstatus hsucceeds => hcode (Except.ok.inj hstatus ▸ hsucceeds)
      · exact .inr nofun

end Calls

inductive Request where
  | Enable (configuration : Option Dot11AccessPointConfiguration)
  | Disable

section Requests

variable (platform : Platform) (accessPointManager : IAccessPointManager System)
  (accessPointId : ByteString) (accessPointController : Option (IAccessPointController System))

def Request.call : Request → Wpa.Action WifiAccessPointOperationStatus
  | .Enable configuration =>
      wifiAccessPointEnableImpl platform accessPointManager accessPointId accessPointController
        configuration
  | .Disable => wifiAccessPointDisableImpl accessPointManager accessPointId accessPointController

-- What a success stands for.
def Request.Warranted (trace : List System.Exchange) : Request → Prop
  | .Enable _ => Acknowledged .Enable trace ∨ Reported platform.toPlatform true trace
  | .Disable =>
      Acknowledged .Disable trace ∨ Unmanaged trace ∨ Reported platform.toPlatform false trace

-- hostapd is asked for its state, and the state is operational without being the
-- enabled one.
def Request.Overlooks (trace : List System.Exchange) : Request → Prop
  | .Enable _ => False
  | .Disable =>
      ∃ exchange rest status, trace = ⟨.IsValid, true⟩ :: exchange :: rest ∧
        statusIn platform.toPlatform exchange = some status ∧
        isHostapdStateOperational status.state = true ∧ status.state ≠ .Enabled

def Truthful (request : Request) (trace : List System.Exchange)
    (outcome : Except Fault WifiAccessPointOperationStatus) : Prop :=
  ∀ status, outcome = .ok status → Succeeds status → request.Warranted platform trace

end Requests

section Truth

variable {platform : Platform} {accessPointManager : IAccessPointManager System}
  {accessPointId interfaceName : ByteString} {trace : List System.Exchange}
  {accessPointController : Option (IAccessPointController System)}
  {outcome : Except Fault WifiAccessPointOperationStatus}

theorem told_eq_some {operationalState : AccessPointOperationalState}
    (h : told platform.toPlatform trace = some operationalState) :
    (∃ rest, trace = ⟨.IsValid, false⟩ :: rest ∧ operationalState = .Disabled) ∨
      ∃ exchange rest status, trace = ⟨.IsValid, true⟩ :: exchange :: rest ∧
        statusIn platform.toPlatform exchange = some status ∧
        (operationalState = .Enabled ↔ status.state = .Enabled) := by
  unfold told at h
  split at h
  case h_1 rest => exact .inl ⟨rest, rfl, (Option.some.inj h).symm⟩
  case h_2 exchange rest =>
    obtain ⟨status, hstatus, rfl⟩ := Option.map_eq_some_iff.mp h
    refine .inr ⟨exchange, rest, status, rfl, hstatus, ?_⟩
    split_ifs with henabled <;> simp [henabled]
  case h_3 => cases h

theorem enable_truthful {configuration : Option Dot11AccessPointConfiguration}
    (hfinds : Finds accessPointManager accessPointId accessPointController
      (accessPointControllerLinux platform.toWifi interfaceName))
    (hruns : ((Request.Enable configuration).call platform accessPointManager accessPointId
      accessPointController).Runs trace outcome) :
    Truthful platform (.Enable configuration) trace outcome := by
  intro status houtcome hsucceeds
  rcases runs_withAccessPointController hfinds hruns with ⟨-, hcalls⟩ | ⟨-, hfailed⟩
  · rcases runs_next_of_setConfigurationItems hcalls with ⟨past, now, rfl, hnow⟩ | hfailed
    · have hsubset : now ⊆ past ++ now := List.subset_append_right past now
      by_cases htold : told platform.toPlatform now = some .Enabled
      · rcases told_eq_some htold with ⟨rest, -, hstate⟩ |
          ⟨exchange, rest, status, rfl, hstatus, hstate⟩
        · cases hstate
        · refine .inr (reported_of_subset hsubset ⟨exchange, by simp, status, hstatus, ?_⟩)
          rw [hstate.mp rfl]
          rfl
      · have hchanged := (runs_changeOperationalState hnow).2 htold status houtcome hsucceeds
        exact changed_of_subset hsubset hchanged
    · exact absurd hsucceeds (hfailed status houtcome)
  · rcases hfailed status houtcome with hcode | hcode <;> simp [Succeeds, hcode] at hsucceeds

-- An operational state is no reason to leave a request to disable at that.
theorem not_warranted {exchange : System.Exchange} {status : HostapdStatus}
    (hstatus : statusIn platform.toPlatform exchange = some status)
    (hoperational : isHostapdStateOperational status.state = true) :
    ¬ Request.Disable.Warranted platform [⟨.IsValid, true⟩, exchange] := by
  rintro (⟨response, hmem, -⟩ | hmem | ⟨other, hmem, reported, hreported, hidle⟩)
  · rcases List.mem_pair.mp hmem with hfirst | rfl
    · cases hfirst
    · cases hstatus
  · rcases List.mem_pair.mp hmem with hfirst | rfl
    · cases hfirst
    · cases hstatus
  · rcases List.mem_pair.mp hmem with rfl | rfl
    · cases hreported
    · obtain rfl : status = reported := Option.some.inj (hstatus.symm.trans hreported)
      rw [hidle] at hoperational
      cases hoperational

-- The answers that are overlooked are all that the call has when it succeeds.
theorem disable_truthful_iff
    (hfinds : Finds accessPointManager accessPointId accessPointController
      (accessPointControllerLinux platform.toWifi interfaceName))
    (hruns : (Request.Disable.call platform accessPointManager accessPointId
      accessPointController).Runs trace outcome) :
    Truthful platform .Disable trace outcome ↔ ¬ Request.Disable.Overlooks platform trace := by
  rcases runs_withAccessPointController hfinds hruns with ⟨-, hcalls⟩ | ⟨rfl, hfailed⟩
  · obtain ⟨hsame, hother⟩ := runs_changeOperationalState hcalls
    constructor
    · rintro htruthful ⟨exchange, rest, status, rfl, hstatus, hoperational, hstate⟩
      have htold : told platform.toPlatform (⟨.IsValid, true⟩ :: exchange :: rest) =
          some .Disabled := by
        simp [told, hstatus, hstate]
      obtain ⟨hlength, houtcome⟩ := hsame htold
      obtain rfl : rest = [] := List.length_eq_zero_iff.mp (by simpa using hlength)
      exact not_warranted hstatus hoperational (htruthful _ houtcome rfl)
    · intro hoverlooks status houtcome hsucceeds
      by_cases htold : told platform.toPlatform trace = some .Disabled
      · rcases told_eq_some htold with ⟨rest, rfl, -⟩ |
          ⟨exchange, rest, status, rfl, hstatus, hstate⟩
        · exact .inr (.inl List.mem_cons_self)
        · refine .inr (.inr ⟨exchange, by simp, status, hstatus, ?_⟩)
          rw [Bool.eq_false_iff]
          exact fun hoperational => hoverlooks ⟨exchange, rest, status, rfl, hstatus, hoperational,
            fun henabled => nomatch hstate.mpr henabled⟩
      · exact (hother htold status houtcome hsucceeds).imp_right .inr
  · refine iff_of_true (fun status houtcome hsucceeds => ?_) ?_
    · rcases hfailed status houtcome with hcode | hcode <;> simp [Succeeds, hcode] at hsucceeds
    · rintro ⟨exchange, rest, status, ⟨⟩, -⟩

theorem request_truthful_iff (request : Request)
    (hfinds : Finds accessPointManager accessPointId accessPointController
      (accessPointControllerLinux platform.toWifi interfaceName))
    (hruns : (request.call platform accessPointManager accessPointId accessPointController).Runs
      trace outcome) :
    Truthful platform request trace outcome ↔ ¬ request.Overlooks platform trace := by
  cases request with
  | Enable configuration => exact iff_of_true (enable_truthful hfinds hruns) id
  | Disable => exact disable_truthful_iff hfinds hruns

end Truth

-- A hostapd that manages the interface, does what it is told and is in a given state.
def reporting (state : ByteString) (past : List System.Exchange) :
    (request : SystemRequest) → request.Reply
  | .SendCommand .Status => some (str "state=" ++ state)
  | request => AccessPointControllerLinux.acknowledging none past request

def disableWlan0 : Wpa.Action WifiAccessPointOperationStatus :=
  Request.Disable.call ⟨default, default⟩ ⟨fun _ => none⟩ (str "wlan0")
    (some (accessPointControllerLinux default (str "wlan0")))

theorem request_truthful_enabled :
    Truthful ⟨default, default⟩ .Disable (disableWlan0.run (reporting (str "ENABLED")) []).1
      (disableWlan0.run (reporting (str "ENABLED")) []).2 := by
  let platform : Platform := ⟨default, default⟩
  have hfinds : Finds ⟨fun _ => none⟩ (str "wlan0")
      (some (accessPointControllerLinux platform.toWifi (str "wlan0")))
      (accessPointControllerLinux platform.toWifi (str "wlan0")) := rfl
  have hruns := Program.runs_run (reporting (str "ENABLED")) disableWlan0
  have htrace : (disableWlan0.run (reporting (str "ENABLED")) []).1 =
      [⟨.IsValid, true⟩, ⟨.SendCommand .Status, some (str "state=ENABLED")⟩,
        ⟨.SendCommand .Disable, some (str "OK")⟩, ⟨.IsValid, true⟩,
        ⟨.SendCommand .Status, some (str "state=ENABLED")⟩] := by rfl
  rw [htrace] at hruns ⊢
  refine (request_truthful_iff .Disable hfinds hruns).mpr ?_
  rintro ⟨exchange, rest, status, hsame, hstatus, -, henabled⟩
  have hexchange := (List.cons.inj (List.cons.inj hsame).2).1
  rw [← hexchange] at hstatus
  have hparsed : statusIn (default : Wifi.Platform).toPlatform
      ⟨.SendCommand .Status, some (str "state=ENABLED")⟩ = some { state := .Enabled } := by rfl
  rw [← Option.some.inj (hparsed.symm.trans hstatus)] at henabled
  exact henabled rfl

-- Nothing is sent while the channel is still being chosen.
theorem disable_overlooks_acs :
    ∃ trace outcome, disableWlan0.Runs trace outcome ∧
      trace = [⟨.IsValid, true⟩, ⟨.SendCommand .Status, some (str "state=ACS")⟩] ∧
      outcome = .ok { code := .Succeeded } ∧
      ¬ Truthful ⟨default, default⟩ .Disable trace outcome := by
  have hstatus : statusIn (default : Wifi.Platform).toPlatform
      ⟨.SendCommand .Status, some (str "state=ACS")⟩ = some { state := .Acs } := by rfl
  exact ⟨_, _, Program.runs_run (reporting (str "ACS")) disableWlan0, rfl, rfl, fun htruthful =>
    not_warranted hstatus rfl (htruthful _ rfl rfl)⟩

end NetRemote.Service.NetRemoteService.OperationalState
