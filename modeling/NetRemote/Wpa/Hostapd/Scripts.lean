import NetRemote.Foundation.Scripted
import NetRemote.Wpa.Hostapd.Setters

namespace NetRemote.Wpa.Hostapd

open Foundation Foundation.Bytes ProtocolWpa

def setRequest (setting : Setting) : SystemRequest := .SendCommand (.Set setting.1 setting.2)

def IsHostapdException (fault : Fault) : Prop := ∃ message, fault = .Hostapd message

-- A script of commands, each of which has to be acknowledged before the next is sent.
abbrev Plays {α : Type} (script : List SystemRequest) (program : Action α) : Prop :=
  Program.Plays (E := System) refused IsHostapdException script program

section Plays

theorem plays_rethrow {block : Action Unit} {script : List SystemRequest}
    (message : ByteString → ByteString) (hblock : Plays script block) :
    Plays script (block.attempt .Return (catching fun what => throwHostapd (message what))) := by
  apply Program.plays_rethrow hblock
  rintro _ ⟨thrown, rfl⟩
  exact ⟨_, rfl, _, rfl⟩

@[simp] theorem refused_reload (response : ByteString) :
    refused ⟨.SendCommand .Reload, some response⟩ = !isResponseOk response := rfl

@[simp] theorem refused_setRequest (setting : Setting) (response : ByteString) :
    refused ⟨setRequest setting, some response⟩ = !isResponseOk response := rfl

theorem plays_reload : Plays [.SendCommand .Reload] reload := by
  apply Program.plays_ask
  · rintro (_ | response) hrefused
    · exact ⟨_, rfl, _, rfl⟩
    · rw [refused_reload, Bool.not_eq_true'] at hrefused
      simp only [Program.attempt, hrefused]
      exact ⟨_, rfl, _, rfl⟩
  · rintro (_ | response) haccepted
    · cases haccepted
    · rw [refused_reload, Bool.not_eq_false'] at haccepted
      simp only [Program.attempt, haccepted]
      exact Program.plays_return ()

def reloadScript (enforceConfigurationChange : EnforceConfigurationChange) : List SystemRequest :=
  if enforceConfigurationChange = .Now then [.SendCommand .Reload] else []

theorem scripted_reload {enforceConfigurationChange : EnforceConfigurationChange}
    {trace : List System.Exchange} {outcome : Except Fault Unit}
    (h : Scripted (E := System) refused IsHostapdException
      (reloadScript enforceConfigurationChange) trace outcome) :
    ∀ exchange ∈ trace, exchange.1 = .SendCommand .Reload := by
  intro exchange hmem
  have hrequest := h.isPrefix.subset (List.mem_map_of_mem hmem)
  unfold reloadScript at hrequest
  split_ifs at hrequest
  · exact List.mem_singleton.mp hrequest
  · cases hrequest

theorem plays_setProperty (propertyName propertyValue : ByteString)
    (enforceConfigurationChange : EnforceConfigurationChange) :
    Plays (setRequest (propertyName, propertyValue) :: reloadScript enforceConfigurationChange)
      (setProperty propertyName propertyValue enforceConfigurationChange) := by
  apply Program.plays_ask
  · rintro (_ | response) hrefused
    · exact ⟨_, rfl, _, rfl⟩
    · rw [refused_setRequest, Bool.not_eq_true'] at hrefused
      simp only [Program.attempt, hrefused]
      exact ⟨_, rfl, _, rfl⟩
  · rintro (_ | response) haccepted
    · cases haccepted
    · rw [refused_setRequest, Bool.not_eq_false'] at haccepted
      simp only [Program.attempt, haccepted]
      cases enforceConfigurationChange with
      | Defer => exact Program.plays_return ()
      | Now => exact plays_rethrow _ plays_reload

theorem plays_setPropertyWith (propertyName propertyValue : ByteString)
    (enforceConfigurationChange : EnforceConfigurationChange)
    (message : ByteString → ByteString) :
    Plays (setRequest (propertyName, propertyValue) :: reloadScript enforceConfigurationChange)
      (setPropertyWith propertyName propertyValue enforceConfigurationChange message) :=
  plays_rethrow message (plays_setProperty propertyName propertyValue enforceConfigurationChange)

-- The property is sent, and after it a reload at most.
theorem runs_setPropertyWith {propertyName propertyValue : ByteString}
    {enforceConfigurationChange : EnforceConfigurationChange}
    {message : ByteString → ByteString} {trace : List System.Exchange}
    {outcome : Except Fault Unit}
    (hruns : (setPropertyWith propertyName propertyValue enforceConfigurationChange message).Runs
      trace outcome) :
    ∃ reply later, trace = ⟨setRequest (propertyName, propertyValue), reply⟩ :: later ∧
      ∀ exchange ∈ later, exchange.1 = .SendCommand .Reload := by
  have hscripted := plays_setPropertyWith _ _ enforceConfigurationChange message _ _ hruns
  rcases hscripted.of_cons with ⟨reply, _, rfl, -⟩ | ⟨reply, later, rfl, -, hlater⟩
  · exact ⟨reply, [], rfl, nofun⟩
  · exact ⟨reply, later, rfl, scripted_reload hlater⟩

theorem plays_reloadIfNow (enforceConfigurationChange : EnforceConfigurationChange) :
    Plays (reloadScript enforceConfigurationChange)
      (Program.onlyIf (enforceConfigurationChange = .Now) reload) := by
  have hreload := Program.plays_onlyIf (decide (enforceConfigurationChange = .Now)) plays_reload
  simpa only [reloadScript, decide_eq_true_eq] using hreload

end Plays

section InOrder

-- The commands go out in order, and the first that is not acknowledged is the last.
structure SentUntilRefused (script : List SystemRequest) (trace : List System.Exchange)
    (outcome : Except Fault Unit) : Prop where
  sent : trace.map (·.1) <+: script
  returned : outcome = .ok () ↔
    trace.map (·.1) = script ∧ ∀ exchange ∈ trace, refused exchange = false
  thrown : outcome ≠ .ok () →
    (∃ message, outcome = .error (.Hostapd message)) ∧
      ∃ past last, trace = past ++ [last] ∧ (∀ exchange ∈ past, refused exchange = false) ∧
        refused last = true

theorem sentUntilRefused_of_scripted {script : List SystemRequest} {trace : List System.Exchange}
    {outcome : Except Fault Unit}
    (h : Scripted (E := System) refused IsHostapdException script trace outcome) :
    SentUntilRefused script trace outcome := by
  have hok : outcome = .ok () ↔ ∃ value, outcome = .ok value :=
    ⟨fun hreturned => ⟨(), hreturned⟩, fun ⟨(), hreturned⟩ => hreturned⟩
  refine ⟨h.isPrefix, hok.trans h.isOk_iff, ?_⟩
  intro hthrown
  cases outcome with
  | ok value => exact absurd rfl hthrown
  | error fault =>
      obtain ⟨⟨message, rfl⟩, hlast⟩ := h.of_error
      exact ⟨⟨message, rfl⟩, hlast⟩

end InOrder

end NetRemote.Wpa.Hostapd
