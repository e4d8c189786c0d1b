import NetRemote.Foundation.Followed
import NetRemote.Wpa.Hostapd.Setters

namespace NetRemote.Wpa

open Foundation Foundation.Bytes ProtocolWpa

-- Not every property waits for a reload, so that those that do are a parameter.
def sets (counts : ByteString → Bool) : System.Exchange → Bool
  | ⟨.SendCommand (.Set propertyName _), _⟩ => counts propertyName
  | _ => false

def reloads : System.Exchange → Bool
  | ⟨.SendCommand .Reload, reply⟩ => acknowledged reply
  | _ => false

def InEffect (counts : ByteString → Bool) (trace : List System.Exchange) : Prop :=
  Followed (sets counts) reloads trace

namespace Hostapd

section Closes

variable {α : Type} {counts : ByteString → Bool} {succeeded : α → Prop}

theorem returns_rethrow (message : ByteString → ByteString) (fault : Fault) {described : α → Prop} :
    (catching (fun what => throwHostapd (message what) : ByteString → Action α) fault).Returns
      described := by
  cases fault <;> trivial

theorem closes_rethrow {block : Action Unit} (message : ByteString → ByteString)
    (hblock : Program.Closes (sets counts) reloads (fun _ => True) block) :
    Program.Closes (sets counts) reloads (fun _ => True)
      (block.attempt .Return (catching fun what => throwHostapd (message what))) :=
  Program.closes_attempt hblock Program.keeps_return fun fault => returns_rethrow message fault

theorem closes_throwHostapd (message : ByteString) :
    Program.Closes (sets counts) reloads succeeded (throwHostapd message : Action α) :=
  fun _ => trivial

theorem closes_reload : Program.Closes (sets counts) reloads (fun _ => True) reload := by
  intro past reply
  cases reply with
  | none => trivial
  | some response =>
      by_cases hok : isResponseOk response
      · simp only [Program.attempt, hok, if_true]
        exact fun _ => followed_concat_of_closes rfl hok
      · simp only [Program.attempt, hok]
        trivial

theorem closes_setProperty (propertyName propertyValue : ByteString) :
    Program.Closes (sets counts) reloads (fun _ => True)
      (setProperty propertyName propertyValue .Now) := by
  apply Program.closes_bind_next
  intro reply
  cases reply with
  | none => exact closes_throwHostapd _
  | some response =>
      by_cases hok : isResponseOk response
      · simp only [hok, Bool.not_true, Bool.false_eq_true, if_false]
        exact closes_rethrow _ closes_reload
      · simp only [hok, Bool.not_false, if_true]
        exact closes_throwHostapd _

theorem closes_setPropertyWith (propertyName propertyValue : ByteString)
    (message : ByteString → ByteString) :
    Program.Closes (sets counts) reloads (fun _ => True)
      (setPropertyWith propertyName propertyValue .Now message) :=
  closes_rethrow message (closes_setProperty propertyName propertyValue)

theorem closes_setAuthenticationAlgorithms (algorithms : List WpaAuthenticationAlgorithm) :
    Program.Closes (sets counts) reloads (fun _ => True)
      (setAuthenticationAlgorithms algorithms .Now) := by
  unfold setAuthenticationAlgorithms
  split_ifs
  · exact closes_throwHostapd _
  · split
    · exact closes_throwHostapd _
    · exact closes_setPropertyWith _ _ _

theorem closes_setWpaSecurityProtocols (protocols : List WpaSecurityProtocol) :
    Program.Closes (sets counts) reloads (fun _ => True)
      (setWpaSecurityProtocols protocols .Now) := by
  unfold setWpaSecurityProtocols
  split_ifs
  · exact closes_throwHostapd _
  · split
    · exact closes_throwHostapd _
    · exact closes_setPropertyWith _ _ _

-- The key management is set last, so that the reload after it covers the others.
theorem closes_setKeyManagement (keyManagements : List WpaKeyManagement) :
    Program.Closes (sets counts) reloads (fun _ => True)
      (setKeyManagement keyManagements .Now) := by
  unfold setKeyManagement
  split_ifs
  · exact closes_throwHostapd _
  · split
    · exact closes_throwHostapd _
    · apply Program.closes_bind_next
      intro _
      apply Program.closes_bind_next
      intro _
      exact closes_setPropertyWith _ _ _

theorem closes_setPairwiseCipherSuitesOf (protocol : WpaSecurityProtocol)
    (ciphers : List WpaCipher) :
    Program.Closes (sets counts) reloads (fun _ => True)
      (setPairwiseCipherSuitesOf .Now protocol ciphers) := by
  unfold setPairwiseCipherSuitesOf
  split_ifs
  · exact closes_throwHostapd _
  · split
    · exact closes_throwHostapd _
    · dsimp only
      split_ifs
      · exact closes_throwHostapd _
      · exact closes_setPropertyWith _ _ _

-- Each entry is followed by a reload of its own.
theorem keeps_setPairwiseCipherSuites (platform : Platform)
    (protocolPairwiseCipherMap : Table WpaSecurityProtocol (List WpaCipher)) :
    Program.Keeps (sets counts) reloads (fun _ => True)
      (setPairwiseCipherSuites platform protocolPairwiseCipherMap .Now) := by
  unfold setPairwiseCipherSuites
  split_ifs
  · exact Program.keeps_of_closes (closes_throwHostapd _)
  · apply Program.keeps_forM
    intro entry
    exact Program.keeps_of_closes (closes_setPairwiseCipherSuitesOf entry.1 entry.2)

theorem closes_setPreSharedKey (preSharedKey : WpaPreSharedKey) :
    Program.Closes (sets counts) reloads (fun _ => True) (setPreSharedKey preSharedKey .Now) :=
  closes_setPropertyWith _ _ _

theorem closes_setSaePasswords (saePasswords : List SaePassword) :
    Program.Closes (sets counts) reloads (fun _ => True) (setSaePasswords saePasswords .Now) := by
  apply closes_rethrow
  apply Program.closes_bind_next
  intro _
  apply Program.closes_bind_next
  intro _
  exact closes_reload

theorem closes_addRadiusEndpoints (endpointConfigurations : List RadiusEndpointConfiguration) :
    Program.Closes (sets counts) reloads (fun _ => True)
      (addRadiusEndpoints endpointConfigurations .Now) := by
  apply closes_rethrow
  apply Program.closes_bind_next
  intro _
  exact closes_reload

end Closes

section Enforcement

variable (platform : Platform)

-- A call that returns leaves nothing to a later reload.
theorem keeps_call (setter : Setter) :
    Program.Keeps (sets fun _ => true) reloads (fun _ => True) (setter.call platform .Now) := by
  cases setter with
  | SetProperty propertyName propertyValue =>
      exact Program.keeps_of_closes (closes_setProperty propertyName propertyValue)
  | SetSsid ssid => exact Program.keeps_of_closes (closes_setPropertyWith _ _ _)
  | SetAuthenticationAlgorithms algorithms =>
      exact Program.keeps_of_closes (closes_setAuthenticationAlgorithms algorithms)
  | SetWpaSecurityProtocols protocols =>
      exact Program.keeps_of_closes (closes_setWpaSecurityProtocols protocols)
  | SetKeyManagement keyManagements =>
      exact Program.keeps_of_closes (closes_setKeyManagement keyManagements)
  | SetPairwiseCipherSuitesFor protocol pairwiseCiphers =>
      exact keeps_setPairwiseCipherSuites platform _
  | SetPairwiseCipherSuites protocolPairwiseCipherMap =>
      exact keeps_setPairwiseCipherSuites platform protocolPairwiseCipherMap
  | SetPreSharedKey preSharedKey =>
      exact Program.keeps_of_closes (closes_setPreSharedKey preSharedKey)
  | SetSaePasswords saePasswords =>
      exact Program.keeps_of_closes (closes_setSaePasswords saePasswords)
  | AddSaePassword saePassword => exact Program.keeps_of_closes (closes_setPropertyWith _ _ _)
  | SetBridgeInterface bridgeInterface =>
      exact Program.keeps_of_closes (closes_setPropertyWith _ _ _)
  | AddRadiusEndpoints endpointConfigurations =>
      exact Program.keeps_of_closes (closes_addRadiusEndpoints endpointConfigurations)

-- No setter asks anything whose answer could do harm.
theorem sound_call (setter : Setter) (enforceConfigurationChange : EnforceConfigurationChange) :
    Sound (fun _ => True) (setter.call platform enforceConfigurationChange) := by
  have hquiet : ∀ exchange, isQuery exchange = false → True := fun _ _ => trivial
  cases setter with
  | SetProperty propertyName propertyValue => exact sound_setProperty hquiet _ _ _
  | SetSsid ssid => exact sound_setPropertyWith hquiet _ _ _ _
  | SetAuthenticationAlgorithms algorithms => exact sound_setAuthenticationAlgorithms hquiet _ _
  | SetWpaSecurityProtocols protocols => exact sound_setWpaSecurityProtocols hquiet _ _
  | SetKeyManagement keyManagements => exact sound_setKeyManagement hquiet _ _
  | SetPairwiseCipherSuitesFor protocol pairwiseCiphers =>
      exact sound_setPairwiseCipherSuites hquiet platform _ _
  | SetPairwiseCipherSuites protocolPairwiseCipherMap =>
      exact sound_setPairwiseCipherSuites hquiet platform _ _
  | SetPreSharedKey preSharedKey => exact sound_setPreSharedKey hquiet _ _
  | SetSaePasswords saePasswords => exact sound_setSaePasswords hquiet _ _
  | AddSaePassword saePassword => exact sound_setPropertyWith hquiet _ _ _ _
  | SetBridgeInterface bridgeInterface => exact sound_setBridgeInterface hquiet _ _
  | AddRadiusEndpoints endpointConfigurations => exact sound_addRadiusEndpoints hquiet _ _

theorem throws_of_refused {setter : Setter}
    {enforceConfigurationChange : EnforceConfigurationChange} {trace : List System.Exchange}
    {outcome : Except Fault Unit}
    (hruns : (setter.call platform enforceConfigurationChange).Runs trace outcome)
    (hrefused : Refused trace) : ∃ message, outcome = .error (.Hostapd message) := by
  have hsound := sound_call platform setter enforceConfigurationChange [] (fun _ _ => trivial)
  have hends := Program.ends_of_wp [] hsound hruns
  rw [List.nil_append] at hends
  cases outcome with
  | ok value => exact absurd (hends.2 hrefused) (by simp [Refused])
  | error fault =>
      cases fault with
      | Hostapd message => exact ⟨message, rfl⟩
      | _ => exact absurd (fun _ _ => trivial) hends

structure Enforced (trace : List System.Exchange) (outcome : Except Fault Unit) : Prop where
  inEffect : outcome = .ok () →
    (∀ exchange ∈ trace, sets (fun _ => true) exchange → refused exchange = false) ∧
      InEffect (fun _ => true) trace
  refused : Refused trace → ∃ message, outcome = .error (.Hostapd message)

theorem call_enforced (setter : Setter) (trace : List System.Exchange)
    (outcome : Except Fault Unit) (hruns : (setter.call platform .Now).Runs trace outcome) :
    Enforced trace outcome := by
  refine ⟨?_, throws_of_refused platform hruns⟩
  rintro rfl
  refine ⟨?_, Program.followed_of_keeps (keeps_call platform setter) hruns trivial⟩
  intro exchange hmem _
  by_contra hrefused
  obtain ⟨message, hthrows⟩ := throws_of_refused platform hruns
    ⟨exchange, hmem, by simpa using hrefused⟩
  cases hthrows

theorem call_enforced_saePasswords :
    Enforced
      ((Setter.call default .Now (.SetSaePasswords [{ credential := str "secret" }])).run
        obliging []).1
      ((Setter.call default .Now (.SetSaePasswords [{ credential := str "secret" }])).run
        obliging []).2 :=
  call_enforced default _ _ _ (Program.runs_run _ _)

end Enforcement

end Hostapd

end NetRemote.Wpa
