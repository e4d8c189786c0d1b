import NetRemote.Wifi.AccessPointControllerLinux.Settings
import NetRemote.Wifi.AccessPointControllerLinux.Theorems
import NetRemote.Wpa.Hostapd.Setters

namespace NetRemote.Wifi.AccessPointControllerLinux

open Foundation Foundation.Bytes Wpa Wpa.Hostapd

-- A setting that hostapd has taken over.
def appliedIn : System.Exchange → Option Setting
  | ⟨.SendCommand (.Set propertyName propertyValue), reply⟩ =>
      if acknowledged reply then some (propertyName, propertyValue) else none
  | _ => none

def applied (trace : List System.Exchange) : List Setting := trace.filterMap appliedIn

theorem appliedIn_of_not_refused {exchange : System.Exchange} (h : refused exchange = false) :
    appliedIn exchange = settingIn exchange := by
  obtain ⟨request, reply⟩ := exchange
  cases request with
  | SendCommand command =>
      cases command with
      | Set propertyName propertyValue =>
          have hacknowledged : acknowledged reply = true := by simpa [refused] using h
          simp only [appliedIn, settingIn, hacknowledged, if_true]
      | _ => rfl
  | _ => rfl

theorem applied_of_not_refused {trace : List System.Exchange} (h : ¬ Refused trace) :
    applied trace = settings (fun _ => true) trace := by
  have hsame : applied trace = trace.filterMap settingIn := by
    apply List.filterMap_congr
    intro exchange hmem
    apply appliedIn_of_not_refused
    by_contra hrefused
    exact h ⟨exchange, hmem, by simpa using hrefused⟩
  rw [hsame, settings, List.filter_true]

-- A call that has succeeded, with its run.
structure Call {α : Type} (operation : α → Wpa.Action AccessPointOperationStatus) where
  argument : α
  trace : List System.Exchange
  status : AccessPointOperationStatus
  runs : (operation argument).Runs trace (.ok status)
  succeeded : status.code = .Succeeded

section Call

variable {α : Type} {operation : α → Wpa.Action AccessPointOperationStatus}
  {platform : Wpa.Platform} {valid : Prop} {harmless : System.Exchange → Prop}

-- What a call has sent is what hostapd has taken over.
theorem Call.applied_trace (call : Call operation) {sent : List Setting}
    (hperforms : Performs platform (fun _ => true) valid (fun status => status.code = .Succeeded)
      sent (operation call.argument))
    (hsettles : Settles harmless (fun status => status.code) (operation call.argument)) :
    applied call.trace = sent := by
  have hsettled := Program.ends_of_wp []
    (hsettles [] (fun _ hmem => absurd hmem List.not_mem_nil) (by simp [Refused])) call.runs
  have hsent := (Program.ends_of_wp [] (hperforms []) call.runs).1 call.succeeded
  rw [List.nil_append] at hsettled hsent
  rw [applied_of_not_refused fun hrefused => hsettled.2 hrefused call.succeeded, hsent]
  simp [settings]

def appliedBy (calls : List (Call operation)) : List Setting :=
  applied (calls.flatMap Call.trace)

theorem appliedBy_eq {sent : α → List Setting}
    (hsent : ∀ call : Call operation, applied call.trace = sent call.argument)
    (calls : List (Call operation)) :
    appliedBy calls = calls.flatMap fun call => sent call.argument := by
  induction calls with
  | nil => rfl
  | cons call calls ih =>
      rw [List.flatMap_cons, ← hsent call, ← ih]
      simp [appliedBy, applied]

-- The call that hostapd acknowledges throughout.
def acknowledgedCall (argument : α) (status : AccessPointOperationStatus)
    (h : ((operation argument).run (acknowledging none) []).2 = .ok status)
    (hsucceeded : status.code = .Succeeded) : Call operation where
  argument := argument
  trace := ((operation argument).run (acknowledging none) []).1
  status := status
  runs := h ▸ Program.runs_run (acknowledging none) (operation argument)
  succeeded := hsucceeded

end Call

section Obliging

variable (platform : Wpa.Platform)

theorem parse_status_ok :
    WpaStatusResponseParser.parse platform.bssCapacity platform.properties
      ProtocolWpa.ResponsePayloadOk = .ok (some {}) := by
  have hparse : WpaResponseParser.tryParseProperties WpaStatusResponseParser.propertiesToParse
      ProtocolWpa.ResponsePayloadOk = .ok (true, ∅) := rfl
  have hnone := platform.properties.visit_empty
  simp [WpaStatusResponseParser.parse, hparse, WpaStatusResponseParser.parsePayload, hnone, bind,
    Except.bind, pure, Except.pure]

theorem parse_configuration_ok :
    WpaGetConfigResponseParser.parse platform.properties platform.uninitialized
      ProtocolWpa.ResponsePayloadOk = .ok (some {}) := by
  have hparse : WpaResponseParser.tryParseProperties WpaGetConfigResponseParser.propertiesToParse
      ProtocolWpa.ResponsePayloadOk = .ok (true, ∅) := rfl
  have hnone := platform.properties.visit_empty
  simp [WpaGetConfigResponseParser.parse, hparse, WpaGetConfigResponseParser.parsePayload, hnone,
    bind, Except.bind]

theorem accepted_obliging (past : List System.Exchange) (request : SystemRequest) :
    accepted platform ⟨request, obliging past request⟩ = true := by
  cases request with
  | SendCommand command =>
      cases command with
      | Status =>
          simp [accepted, statusIn, obliging, parse_status_ok, Except.toOption]
      | GetConfig =>
          simp [accepted, configurationIn, obliging, parse_configuration_ok, Except.toOption]
      | _ => rfl
  | _ => rfl

-- What succeeds with a hostapd that accepts everything has a run that succeeds.
theorem exists_succeeds {platform : Wpa.Platform} {α : Type} {watched : ByteString → Bool}
    {valid : Prop} {succeeded : α → Prop} {sent : List Setting} {program : Wpa.Action α}
    (h : Performs platform watched valid succeeded sent program) (hvalid : valid) :
    ∃ trace value, program.Runs trace (.ok value) ∧ succeeded value := by
  have hruns := Program.runs_run obliging program
  have haccepting : Accepting platform (program.run obliging []).1 :=
    Program.mem_run (accepted_obliging platform) program [] (List.forall_mem_nil _)
  have hends := Program.ends_of_wp [] (h []) hruns
  rw [List.nil_append] at hends
  cases houtcome : (program.run obliging []).2 with
  | error fault =>
      rw [houtcome] at hends
      exact absurd haccepting (hends hvalid)
  | ok value =>
      rw [houtcome] at hends hruns
      exact ⟨_, value, hruns, hends.2 hvalid haccepting⟩

end Obliging

end NetRemote.Wifi.AccessPointControllerLinux
