import NetRemote.Wpa.Hostapd.Settings

namespace NetRemote.Wpa.Hostapd

open Foundation Foundation.Bytes ProtocolWpa

-- The setters that take an `EnforceConfigurationChange`, with their other arguments.
inductive Setter where
  | SetProperty (propertyName propertyValue : ByteString)
  | SetSsid (ssid : ByteString)
  | SetAuthenticationAlgorithms (algorithms : List WpaAuthenticationAlgorithm)
  | SetWpaSecurityProtocols (protocols : List WpaSecurityProtocol)
  | SetKeyManagement (keyManagements : List WpaKeyManagement)
  | SetPairwiseCipherSuitesFor (protocol : WpaSecurityProtocol) (pairwiseCiphers : List WpaCipher)
  | SetPairwiseCipherSuites
      (protocolPairwiseCipherMap : Table WpaSecurityProtocol (List WpaCipher))
  | SetPreSharedKey (preSharedKey : WpaPreSharedKey)
  | SetSaePasswords (saePasswords : List SaePassword)
  | AddSaePassword (saePassword : SaePassword)
  | SetBridgeInterface (bridgeInterface : ByteString)
  | AddRadiusEndpoints (endpointConfigurations : List RadiusEndpointConfiguration)

variable (platform : Platform)

def Setter.call (enforceConfigurationChange : EnforceConfigurationChange) : Setter → Action Unit
  | .SetProperty propertyName propertyValue =>
      setProperty propertyName propertyValue enforceConfigurationChange
  | .SetSsid ssid => setSsid ssid enforceConfigurationChange
  | .SetAuthenticationAlgorithms algorithms =>
      setAuthenticationAlgorithms algorithms enforceConfigurationChange
  | .SetWpaSecurityProtocols protocols =>
      setWpaSecurityProtocols protocols enforceConfigurationChange
  | .SetKeyManagement keyManagements => setKeyManagement keyManagements enforceConfigurationChange
  | .SetPairwiseCipherSuitesFor protocol pairwiseCiphers =>
      setPairwiseCipherSuitesFor platform protocol pairwiseCiphers enforceConfigurationChange
  | .SetPairwiseCipherSuites protocolPairwiseCipherMap =>
      setPairwiseCipherSuites platform protocolPairwiseCipherMap enforceConfigurationChange
  | .SetPreSharedKey preSharedKey => setPreSharedKey preSharedKey enforceConfigurationChange
  | .SetSaePasswords saePasswords => setSaePasswords saePasswords enforceConfigurationChange
  | .AddSaePassword saePassword => addSaePassword saePassword enforceConfigurationChange
  | .SetBridgeInterface bridgeInterface =>
      setBridgeInterface bridgeInterface enforceConfigurationChange
  | .AddRadiusEndpoints endpointConfigurations =>
      addRadiusEndpoints endpointConfigurations enforceConfigurationChange

theorem ascii_replicate (length : Nat) :
    (List.replicate length (65 : UInt8)).length = length ∧
      ∀ byte ∈ List.replicate length (65 : UInt8), 32 ≤ byte ∧ byte ≤ 126 := by
  simp

instance (request : SystemRequest) : Nonempty (System.Reply request) := by
  cases request with
  | SendCommand command => exact ⟨(none : Option ByteString)⟩
  | IsValid => exact ⟨(true : Bool)⟩
  | GenerateRandomAsciiString length => exact ⟨⟨_, ascii_replicate length⟩⟩
  | WiphyFromInterfaceName interfaceName =>
      exact ⟨(.ok none : Except Netlink.NetlinkFault (Option Netlink.Nl80211Wiphy))⟩

section Deferral

def Deferred (trace : List System.Exchange) : Prop :=
  ∀ exchange ∈ trace, exchange.1 ≠ .SendCommand .Reload

-- Key managements that are all accepted, one of which supports fast transition.
def Setter.identifiesServer : Setter → Bool
  | .SetKeyManagement keyManagements =>
      keyManagements.all (fun keyManagement =>
        decide (wpaKeyManagementPropertyValue keyManagement ≠ WpaKeyManagementInvalidValue)) &&
      keyManagements.any isKeyManagementFastTransition
  | _ => false

def Unreloaded (request : SystemRequest) : Prop := request ≠ .SendCommand .Reload

theorem allows_unreloaded (propertyName : ByteString) :
    Allows Unreloaded .Defer propertyName := ⟨fun _ => nofun, nofun⟩

-- Only the random identifier is set at once.
theorem setKeyManagement_unreloaded {keyManagements : List WpaKeyManagement}
    (h : (Setter.SetKeyManagement keyManagements).identifiesServer = false) :
    (setKeyManagement keyManagements .Defer).Within Unreloaded := by
  by_cases hfast : keyManagements.any isKeyManagementFastTransition
  · have hinvalid : ∃ keyManagement ∈ keyManagements,
        wpaKeyManagementPropertyValue keyManagement = WpaKeyManagementInvalidValue := by
      simpa [Setter.identifiesServer, hfast] using h
    unfold setKeyManagement
    split_ifs
    · trivial
    · split
      · trivial
      · rename_i hfind
        obtain ⟨keyManagement, hmem, hvalue⟩ := hinvalid
        have hnone := List.find?_eq_none.mp hfind keyManagement hmem
        simp [hvalue] at hnone
  · exact setKeyManagement_allowed (fun _ => nofun) (fun h => absurd h hfast)
      (allows_unreloaded _) (allows_unreloaded _)

theorem call_unreloaded {setter : Setter} (h : setter.identifiesServer = false) :
    (setter.call platform .Defer).Within Unreloaded := by
  cases setter with
  | SetProperty propertyName propertyValue => exact setProperty_allowed (allows_unreloaded _) _
  | SetSsid ssid => exact setPropertyWith_allowed (allows_unreloaded _) _ _
  | SetAuthenticationAlgorithms algorithms =>
      exact setAuthenticationAlgorithms_allowed (allows_unreloaded _) _
  | SetWpaSecurityProtocols protocols =>
      exact setWpaSecurityProtocols_allowed (allows_unreloaded _) _
  | SetKeyManagement keyManagements => exact setKeyManagement_unreloaded h
  | SetPairwiseCipherSuitesFor protocol pairwiseCiphers =>
      exact setPairwiseCipherSuites_allowed (fun _ _ => allows_unreloaded _) _
  | SetPairwiseCipherSuites protocolPairwiseCipherMap =>
      exact setPairwiseCipherSuites_allowed (fun _ _ => allows_unreloaded _) _
  | SetPreSharedKey preSharedKey =>
      exact setPreSharedKey_allowed (allows_unreloaded _) (allows_unreloaded _) _
  | SetSaePasswords saePasswords => exact setSaePasswords_allowed (allows_unreloaded _) _
  | AddSaePassword saePassword => exact setPropertyWith_allowed (allows_unreloaded _) _ _
  | SetBridgeInterface bridgeInterface => exact setPropertyWith_allowed (allows_unreloaded _) _ _
  | AddRadiusEndpoints endpointConfigurations =>
      have hreload : EnforceConfigurationChange.Defer = .Now → Unreloaded (.SendCommand .Reload) :=
        nofun
      exact addRadiusEndpoints_allowed (fun _ _ => allows_unreloaded _) hreload _

-- An identifier that is acknowledged is followed by a reload.
theorem reloads_of_identifiesServer {keyManagements : List WpaKeyManagement}
    (h : (Setter.SetKeyManagement keyManagements).identifiesServer = true) :
    ¬ (setKeyManagement keyManagements .Defer).Within Unreloaded := by
  simp only [Setter.identifiesServer, Bool.and_eq_true, List.all_eq_true] at h
  obtain ⟨haccepted, hfast⟩ := h
  have hempty : keyManagements ≠ [] := by
    rintro rfl
    simp at hfast
  have hfind : (keyManagements.find? fun keyManagement =>
      wpaKeyManagementPropertyValue keyManagement = WpaKeyManagementInvalidValue) = none := by
    simpa using haccepted
  intro hwithin
  unfold setKeyManagement Program.onlyIf at hwithin
  rw [if_neg hempty, hfind] at hwithin
  simp only [hfast, if_true] at hwithin
  let identifier : AsciiString Ieee80211FtR0KeyHolderIdLengthOctetsMaximum :=
    ⟨_, ascii_replicate Ieee80211FtR0KeyHolderIdLengthOctetsMaximum⟩
  exact ((hwithin.2 identifier).2 (some ResponsePayloadOk)).1 rfl

theorem call_deferred_iff (setter : Setter) :
    (∀ trace outcome, (setter.call platform .Defer).Runs trace outcome → Deferred trace) ↔
      setter.identifiesServer = false := by
  have hwithin : (setter.call platform .Defer).Within Unreloaded ↔ _ := Program.within_iff_runs
  unfold Deferred
  rw [show (∀ trace outcome, (setter.call platform .Defer).Runs trace outcome →
    ∀ exchange ∈ trace, exchange.1 ≠ .SendCommand .Reload) ↔ _ from hwithin.symm]
  constructor
  · intro hwithin
    by_contra hidentifies
    rw [Bool.not_eq_false] at hidentifies
    cases setter with
    | SetKeyManagement keyManagements =>
        exact reloads_of_identifiesServer hidentifies hwithin
    | _ => cases hidentifies
  · exact call_unreloaded platform

instance : Inhabited Platform := ⟨⟨default, default, default, 0⟩⟩

-- A hostapd that acknowledges whatever it is told.
def obliging (_ : List System.Exchange) : (request : SystemRequest) → request.Reply
  | .SendCommand _ => some ResponsePayloadOk
  | .IsValid => true
  | .GenerateRandomAsciiString length => ⟨List.replicate length 65, ascii_replicate length⟩
  | .WiphyFromInterfaceName _ => .ok none

-- The reload comes before the key management is set.
theorem setKeyManagement_reloads_ftPsk :
    ∃ trace outcome, (Setter.call default .Defer (.SetKeyManagement [.FtPsk])).Runs trace outcome ∧
      outcome = .ok () ∧ ¬ Deferred trace := by
  refine ⟨_, _, Program.runs_run obliging _, by decide +kernel, ?_⟩
  intro hdeferred
  exact hdeferred ⟨.SendCommand .Reload, some ResponsePayloadOk⟩ (.tail _ (.tail _ (.head _))) rfl

end Deferral

section Rejection

variable {α β : Type}

instance (entry : WpaSecurityProtocol × List WpaCipher) : Decidable (ValidCipherSuites entry) :=
  inferInstanceAs (Decidable (_ ∧ _ ∧ _))

instance (endpoint : RadiusEndpointConfiguration) : Decidable (ValidRadiusEndpoint endpoint) :=
  inferInstanceAs (Decidable (_ ∧ _ ∧ _))

-- Which elements are rejected, in the order in which the setter takes them.
def Setter.rejections : Setter → List Bool
  | .SetAuthenticationAlgorithms algorithms =>
      algorithms.map fun algorithm => algorithm.value &&& ~~~ WpaAuthenticationAlgorithmMask ≠ 0
  | .SetWpaSecurityProtocols protocols =>
      protocols.map fun protocol => protocol.value &&& ~~~ WpaSecurityProtocolMask ≠ 0
  | .SetKeyManagement keyManagements =>
      keyManagements.map fun keyManagement =>
        wpaKeyManagementPropertyValue keyManagement = WpaKeyManagementInvalidValue
  | .SetPairwiseCipherSuitesFor protocol pairwiseCiphers =>
      [decide ¬ ValidCipherSuites (protocol, pairwiseCiphers)]
  | .SetPairwiseCipherSuites protocolPairwiseCipherMap =>
      (platform.wpaCipherSuites.visit protocolPairwiseCipherMap).map fun entry =>
        ¬ ValidCipherSuites entry
  | .AddRadiusEndpoints endpointConfigurations =>
      endpointConfigurations.map fun endpoint => ¬ ValidRadiusEndpoint endpoint
  | _ => []

-- The value of a single property is made up of all elements.
def Setter.checksFirst : Setter → Bool
  | .SetAuthenticationAlgorithms _ => true
  | .SetWpaSecurityProtocols _ => true
  | .SetKeyManagement _ => true
  | _ => false

def Untouched {α : Type} (trace : List System.Exchange) (outcome : Except Fault α) : Prop :=
  (∃ message, outcome = .error (.Hostapd message)) ∧
    ∀ exchange ∈ trace, ∀ command, exchange.1 ≠ .SendCommand command

def Refuses (program : Action α) : Prop := ∃ message, program = throwHostapd message

def Sends (program : Action α) : Prop :=
  ∃ command resume, program = .Ask (.SendCommand command) resume

theorem untouched_of_refuses {program : Action α} (h : Refuses program)
    {trace : List System.Exchange} {outcome : Except Fault α} (hruns : program.Runs trace outcome) :
    Untouched trace outcome := by
  obtain ⟨message, rfl⟩ := h
  cases hruns
  exact ⟨⟨message, rfl⟩, nofun⟩

theorem touched_of_sends {program : Action α} (h : Sends program)
    {trace : List System.Exchange} {outcome : Except Fault α} (hruns : program.Runs trace outcome) :
    ¬ Untouched trace outcome := by
  obtain ⟨command, resume, rfl⟩ := h
  cases hruns with
  | Ask reply _ =>
      rintro ⟨_, hnone⟩
      exact hnone _ List.mem_cons_self command rfl

def Begins (rejected : Bool) (program : Action α) : Prop :=
  if rejected then Refuses program else Sends program

theorem begins_bind {rejected : Bool} {block : Action α} (next : α → Action β)
    (h : Begins rejected block) : Begins rejected (block >>= next) := by
  cases rejected with
  | true =>
      obtain ⟨message, rfl⟩ := h
      exact ⟨message, rfl⟩
  | false =>
      obtain ⟨command, resume, rfl⟩ := h
      exact ⟨command, _, rfl⟩

theorem begins_rethrow {rejected : Bool} {block : Action Unit} (message : ByteString → ByteString)
    (h : Begins rejected block) :
    Begins rejected (block.attempt .Return (catching fun what => throwHostapd (message what))) := by
  cases rejected with
  | true =>
      obtain ⟨thrown, rfl⟩ := h
      exact ⟨_, rfl⟩
  | false =>
      obtain ⟨command, resume, rfl⟩ := h
      exact ⟨command, _, rfl⟩

-- Of elements that are taken one by one the first decides.
theorem begins_forM {items : List β} {body : β → Action Unit} {rejects : β → Bool}
    (hbody : ∀ item, Begins (rejects item) (body item)) {rejected : Bool} {rejections : List Bool}
    (h : items.map rejects = rejected :: rejections) : Begins rejected (items.forM body) := by
  obtain ⟨item, items, rfl, rfl, -⟩ := List.map_eq_cons_iff.mp h
  exact begins_bind _ (hbody item)

theorem find?_of_rejected {items : List α} {rejects : α → Bool} (h : true ∈ items.map rejects) :
    items ≠ [] ∧ ∃ item, items.find? rejects = some item := by
  obtain ⟨item, hmem, hrejects⟩ := List.mem_map.mp h
  exact ⟨List.ne_nil_of_mem hmem,
    Option.isSome_iff_exists.mp (List.find?_isSome.mpr ⟨item, hmem, hrejects⟩)⟩

theorem refuses_of_checksFirst {setter : Setter} (hchecks : setter.checksFirst = true)
    (hrejected : true ∈ setter.rejections platform)
    (enforceConfigurationChange : EnforceConfigurationChange) :
    Refuses (setter.call platform enforceConfigurationChange) := by
  cases setter with
  | SetAuthenticationAlgorithms algorithms =>
      obtain ⟨hempty, algorithm, hfound⟩ := find?_of_rejected hrejected
      simp only [Setter.call, setAuthenticationAlgorithms, hempty, if_false, hfound]
      exact ⟨_, rfl⟩
  | SetWpaSecurityProtocols protocols =>
      obtain ⟨hempty, protocol, hfound⟩ := find?_of_rejected hrejected
      simp only [Setter.call, setWpaSecurityProtocols, hempty, if_false, hfound]
      exact ⟨_, rfl⟩
  | SetKeyManagement keyManagements =>
      obtain ⟨hempty, keyManagement, hfound⟩ := find?_of_rejected hrejected
      simp only [Setter.call, setKeyManagement, hempty, if_false, hfound]
      exact ⟨_, rfl⟩
  | _ => cases hchecks

theorem begins_setPairwiseCipherSuitesOf (enforceConfigurationChange : EnforceConfigurationChange)
    (entry : WpaSecurityProtocol × List WpaCipher) :
    Begins (decide ¬ ValidCipherSuites entry)
      (setPairwiseCipherSuitesOf enforceConfigurationChange entry.1 entry.2) := by
  obtain ⟨protocol, ciphers⟩ := entry
  unfold setPairwiseCipherSuitesOf
  dsimp only
  by_cases hempty : ciphers = []
  · have hinvalid : ¬ ValidCipherSuites (protocol, ciphers) := fun hvalid => hvalid.1 hempty
    rw [decide_eq_true hinvalid, if_pos hempty]
    exact ⟨_, rfl⟩
  · rw [if_neg hempty]
    cases hfound : ciphers.find? fun cipher =>
        wpaCipherPropertyValue cipher = WpaCipherInvalidValue with
    | some cipher =>
        have hvalue : wpaCipherPropertyValue cipher = WpaCipherInvalidValue := by
          simpa using List.find?_some hfound
        have hinvalid : ¬ ValidCipherSuites (protocol, ciphers) :=
          fun hvalid => hvalid.2.1 cipher (List.mem_of_find?_eq_some hfound) hvalue
        rw [decide_eq_true hinvalid]
        exact ⟨_, rfl⟩
    | none =>
        have hciphers : ∀ cipher ∈ ciphers,
            wpaCipherPropertyValue cipher ≠ WpaCipherInvalidValue := by
          simpa using List.find?_eq_none.mp hfound
        dsimp only
        by_cases hname : wpaCipherPropertyName protocol = ProtocolHostapd.PropertyNameInvalid
        · have hinvalid : ¬ ValidCipherSuites (protocol, ciphers) := fun hvalid => hvalid.2.2 hname
          rw [decide_eq_true hinvalid, if_pos hname]
          exact ⟨_, rfl⟩
        · have hvalid : ValidCipherSuites (protocol, ciphers) := ⟨hempty, hciphers, hname⟩
          rw [decide_eq_false (not_not_intro hvalid), if_neg hname]
          exact ⟨_, _, rfl⟩

theorem begins_addRadiusEndpoint (endpoint : RadiusEndpointConfiguration) :
    Begins (decide ¬ ValidRadiusEndpoint endpoint) (addRadiusEndpoint endpoint) := by
  unfold addRadiusEndpoint
  by_cases hvalid : ValidRadiusEndpoint endpoint
  · rw [decide_eq_false (not_not_intro hvalid), if_neg hvalid.1, if_neg hvalid.2.1,
      if_neg hvalid.2.2]
    exact ⟨_, _, rfl⟩
  · rw [decide_eq_true hvalid]
    split_ifs with htype haddress hsecret
    · exact ⟨_, rfl⟩
    · exact ⟨_, rfl⟩
    · exact ⟨_, rfl⟩
    · exact absurd ⟨htype, haddress, hsecret⟩ hvalid

theorem begins_setPairwiseCipherSuites
    {protocolPairwiseCipherMap : Table WpaSecurityProtocol (List WpaCipher)} {rejected : Bool}
    {rejections : List Bool}
    (h : (Setter.SetPairwiseCipherSuites protocolPairwiseCipherMap).rejections platform =
      rejected :: rejections)
    (enforceConfigurationChange : EnforceConfigurationChange) :
    Begins rejected
      (setPairwiseCipherSuites platform protocolPairwiseCipherMap enforceConfigurationChange) := by
  have hempty : protocolPairwiseCipherMap ≠ ∅ := by
    rintro rfl
    simp [Setter.rejections, platform.wpaCipherSuites.visit_empty] at h
  unfold setPairwiseCipherSuites
  rw [if_neg hempty]
  exact begins_forM (begins_setPairwiseCipherSuitesOf enforceConfigurationChange) h

theorem rejections_setPairwiseCipherSuitesFor (protocol : WpaSecurityProtocol)
    (pairwiseCiphers : List WpaCipher) :
    (Setter.SetPairwiseCipherSuitesFor protocol pairwiseCiphers).rejections platform =
      (Setter.SetPairwiseCipherSuites (AList.insert protocol pairwiseCiphers ∅)).rejections
        platform := by
  have hvisit : platform.wpaCipherSuites.visit (AList.insert protocol pairwiseCiphers ∅) =
      [(protocol, pairwiseCiphers)] :=
    List.perm_singleton.mp (platform.wpaCipherSuites.visit_perm _)
  simp only [Setter.rejections, hvisit, List.map_cons, List.map_nil]

theorem call_begins {setter : Setter} (hlater : setter.checksFirst = false) {rejected : Bool}
    {rejections : List Bool} (h : setter.rejections platform = rejected :: rejections)
    (enforceConfigurationChange : EnforceConfigurationChange) :
    Begins rejected (setter.call platform enforceConfigurationChange) := by
  cases setter with
  | SetPairwiseCipherSuitesFor protocol pairwiseCiphers =>
      rw [rejections_setPairwiseCipherSuitesFor] at h
      exact begins_setPairwiseCipherSuites platform h enforceConfigurationChange
  | SetPairwiseCipherSuites protocolPairwiseCipherMap =>
      exact begins_setPairwiseCipherSuites platform h enforceConfigurationChange
  | AddRadiusEndpoints endpointConfigurations =>
      exact begins_rethrow _ (begins_bind _ (begins_forM begins_addRadiusEndpoint h))
  | SetAuthenticationAlgorithms algorithms => cases hlater
  | SetWpaSecurityProtocols protocols => cases hlater
  | SetKeyManagement keyManagements => cases hlater
  | _ => cases h

theorem call_untouched_iff (setter : Setter)
    (enforceConfigurationChange : EnforceConfigurationChange)
    (hrejected : true ∈ setter.rejections platform) (trace : List System.Exchange)
    (outcome : Except Fault Unit)
    (hruns : (setter.call platform enforceConfigurationChange).Runs trace outcome) :
    Untouched trace outcome ↔
      setter.checksFirst = true ∨ (setter.rejections platform).head? = some true := by
  cases hchecks : setter.checksFirst with
  | true =>
      have hrefuses := refuses_of_checksFirst platform hchecks hrejected enforceConfigurationChange
      exact ⟨fun _ => .inl rfl, fun _ => untouched_of_refuses hrefuses hruns⟩
  | false =>
      obtain ⟨rejected, rejections, hcons⟩ := List.ne_nil_iff_exists_cons.mp
        (List.ne_nil_of_mem hrejected)
      have hbegins := call_begins platform hchecks hcons enforceConfigurationChange
      rw [hcons]
      cases rejected with
      | true => exact ⟨fun _ => .inr rfl, fun _ => untouched_of_refuses hbegins hruns⟩
      | false =>
          constructor
          · exact fun huntouched => absurd huntouched (touched_of_sends hbegins hruns)
          · simp

def radius (address : ByteString) : RadiusEndpointConfiguration :=
  { type := .Authentication, address, port := none, sharedSecret := str "secret" }

-- An endpoint without an address comes before one with an address, or after it.
def addresslessEndpoints : Setter := .AddRadiusEndpoints [radius [], radius (str "10.0.0.1")]

def halfEndpoints : Setter := .AddRadiusEndpoints [radius (str "10.0.0.1"), radius []]

theorem call_untouched_addressless :
    Untouched ((addresslessEndpoints.call default .Now).run obliging []).1
      ((addresslessEndpoints.call default .Now).run obliging []).2 :=
  (call_untouched_iff default addresslessEndpoints .Now (by decide) _ _
    (Program.runs_run _ _)).mpr (by decide)

-- The first endpoint is configured before the second is looked at.
theorem addRadiusEndpoints_touches_hostapd :
    true ∈ halfEndpoints.rejections default ∧
    ∃ trace outcome, (halfEndpoints.call default .Now).Runs trace outcome ∧
      outcome = .error (.Hostapd (str "Failed to add RADIUS endpoints (" ++
        str "RADIUS endpoint address is empty" ++ str ")")) ∧
      trace = [⟨.SendCommand (.Set (str "auth_server_addr") (str "10.0.0.1")), some (str "OK")⟩,
        ⟨.SendCommand (.Set (str "auth_server_shared_secret") (str "secret")),
          some (str "OK")⟩] ∧
      ¬ Untouched trace outcome :=
  ⟨by decide, _, _, Program.runs_run obliging _, by decide +kernel, rfl,
    fun huntouched => huntouched.2 _ List.mem_cons_self _ rfl⟩

end Rejection

end NetRemote.Wpa.Hostapd
