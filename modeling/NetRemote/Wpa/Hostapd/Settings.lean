import NetRemote.Wpa.Hostapd.Theorems

namespace NetRemote.Wpa

open Foundation Foundation.Bytes ProtocolWpa

-- A property with the value that is sent for it.
abbrev Setting := ByteString × ByteString

def settingIn : System.Exchange → Option Setting
  | ⟨.SendCommand (.Set propertyName propertyValue), _⟩ => some (propertyName, propertyValue)
  | _ => none

-- Most results are about a few properties only.
def settings (watched : ByteString → Bool) (trace : List System.Exchange) : List Setting :=
  (trace.filterMap settingIn).filter fun setting => watched setting.1

theorem settings_append (watched : ByteString → Bool) (past later : List System.Exchange) :
    settings watched (past ++ later) = settings watched past ++ settings watched later := by
  simp [settings]

def Unwatched (watched : ByteString → Bool) : SystemRequest → Prop
  | .SendCommand (.Set propertyName _) => watched propertyName = false
  | _ => True

theorem settings_set (watched : ByteString → Bool) (past : List System.Exchange)
    (propertyName propertyValue : ByteString) (reply : Option ByteString) :
    settings watched (past ++ [⟨.SendCommand (.Set propertyName propertyValue), reply⟩]) =
      settings watched past ++
        [(propertyName, propertyValue)].filter fun setting => watched setting.1 := by
  rw [settings_append]
  rfl

theorem settings_unwatched {watched : ByteString → Bool} (past : List System.Exchange)
    {request : SystemRequest} (reply : request.Reply) (h : Unwatched watched request) :
    settings watched (past ++ [⟨request, reply⟩]) = settings watched past := by
  cases request with
  | SendCommand command =>
      cases command with
      | Set propertyName propertyValue =>
          have hname : watched propertyName = false := h
          refine (settings_set watched past propertyName propertyValue reply).trans ?_
          rw [List.filter_cons_of_neg (by simp [hname]), List.filter_nil, List.append_nil]
      | _ => rw [settings_append]; exact List.append_nil _
  | _ => rw [settings_append]; exact List.append_nil _

namespace Hostapd

-- Commands are acknowledged and questions get an answer that can be read.
def accepted (platform : Platform) : System.Exchange → Bool
  | ⟨.SendCommand .Status, reply⟩ =>
      (statusIn platform ⟨.SendCommand .Status, reply⟩).isSome
  | ⟨.SendCommand .GetConfig, reply⟩ =>
      (configurationIn platform ⟨.SendCommand .GetConfig, reply⟩).isSome
  | ⟨.SendCommand .Enable, reply⟩ => acknowledged reply
  | ⟨.SendCommand .Disable, reply⟩ => acknowledged reply
  | ⟨.SendCommand (.Set _ _), reply⟩ => acknowledged reply
  | ⟨.SendCommand .Reload, reply⟩ => acknowledged reply
  | _ => true

section Performs

variable {α β : Type} (platform : Platform) (watched : ByteString → Bool)

def Accepting (trace : List System.Exchange) : Prop :=
  Throughout (fun exchange => accepted platform exchange) trace

-- A program whose success means that it has sent these settings, and that does
-- succeed with a hostapd that accepts everything if its arguments are valid.
def Performs (valid : Prop) (succeeded : α → Prop) (sent : List Setting) (program : Action α) :
    Prop :=
  ∀ past, program.wp past
    (fun now value =>
      (succeeded value →
        settings watched now = settings watched past ++ sent.filter fun setting =>
          watched setting.1) ∧
        (valid → Accepting platform now → succeeded value))
    (fun now _ => valid → ¬ Accepting platform now)

-- How a handler ends a program without success.
def GivesUp (succeeded : α → Prop) : Action α → Prop
  | .Return value => ¬ succeeded value
  | .Throw _ => True
  | .Ask _ _ => False

variable {platform watched} {valid : Prop} {succeeded : α → Prop} {sent rest : List Setting}

theorem not_accepting_append {past : List System.Exchange} {exchange : System.Exchange}
    (h : accepted platform exchange = false) : ¬ Accepting platform (past ++ [exchange]) := by
  intro haccepting
  have hlast := ((throughout_append _ _ _).mp haccepting).2
  rw [h] at hlast
  cases hlast

theorem accepting_of_extends {past now : List System.Exchange} (h : past <+: now)
    (hnow : Accepting platform now) : Accepting platform past :=
  fun exchange hmem => hnow exchange (h.subset hmem)

theorem givesUp_rethrow (message : ByteString → ByteString) (fault : Fault) :
    GivesUp succeeded (catching (fun what => throwHostapd (message what)) fault) := by
  cases fault <;> trivial

theorem givesUp_fail {fail : ByteString → α} (hfail : ∀ what, ¬ succeeded (fail what))
    (fault : Fault) : GivesUp succeeded (catching (fun what => .Return (fail what)) fault) := by
  cases fault with
  | Hostapd message => exact hfail _
  | Std exception => trivial
  | Netlink exception => trivial
  | UndefinedBehavior => trivial
  | Terminate => trivial

theorem performs_return {value : α} (h : valid → succeeded value) :
    Performs platform watched valid succeeded [] (.Return value) := by
  intro past
  refine ⟨fun _ => (List.append_nil _).symm, fun hvalid _ => h hvalid⟩

theorem performs_throwHostapd (h : ¬ valid) (message : ByteString) :
    Performs platform watched valid succeeded sent (throwHostapd message : Action α) := by
  intro past hvalid
  exact absurd hvalid h

theorem performs_refuse {value : α} (hvalue : ¬ succeeded value) (h : ¬ valid) :
    Performs platform watched valid succeeded sent (.Return value) := by
  intro past
  exact ⟨fun hsucceeded => absurd hsucceeded hvalue, fun hvalid => absurd hvalid h⟩

theorem performs_of_valid {valid' : Prop} {program : Action α} (h : valid' → valid)
    (hprogram : Performs platform watched valid succeeded sent program) :
    Performs platform watched valid' succeeded sent program := by
  intro past
  apply Program.wp_mono (hprogram past)
  · rintro now value ⟨hsent, hsucceeds⟩
    exact ⟨hsent, fun hvalid => hsucceeds (h hvalid)⟩
  · exact fun _ _ hfault hvalid => hfault (h hvalid)

theorem performs_attempt {block : Action β} {next : β → Action α} {handler : Fault → Action α}
    (hblock : Performs platform watched valid (fun _ => True) sent block)
    (hnext : ∀ value, Performs platform watched valid succeeded rest (next value))
    (hhandler : ∀ fault, GivesUp succeeded (handler fault)) :
    Performs platform watched valid succeeded (sent ++ rest) (block.attempt next handler) := by
  intro past
  rw [Program.wp_attempt]
  apply Program.wp_mono (hblock past)
  · rintro now value ⟨hsent, _⟩
    apply Program.wp_mono (hnext value now)
    · rintro later result ⟨hrest, hsucceeds⟩
      refine ⟨fun h => ?_, hsucceeds⟩
      rw [hrest h, hsent trivial, List.append_assoc, List.filter_append]
    · exact fun _ _ hfault => hfault
  · intro now fault hfault
    have hgivesUp := hhandler fault
    cases hend : handler fault with
    | Return value =>
        rw [hend] at hgivesUp
        exact ⟨fun h => absurd h hgivesUp, fun hvalid hnow => absurd hnow (hfault hvalid)⟩
    | Throw error => exact hfault
    | Ask request resume =>
        rw [hend] at hgivesUp
        exact hgivesUp.elim

theorem performs_bind {block : Action β} {next : β → Action α}
    (hblock : Performs platform watched valid (fun _ => True) sent block)
    (hnext : ∀ value, Performs platform watched valid succeeded rest (next value)) :
    Performs platform watched valid succeeded (sent ++ rest) (block >>= next) :=
  performs_attempt hblock hnext fun _ => trivial

theorem performs_rethrow {block : Action Unit} (message : ByteString → ByteString)
    (hblock : Performs platform watched valid (fun _ => True) sent block) :
    Performs platform watched valid (fun _ => True) sent
      (block.attempt .Return (catching fun what => throwHostapd (message what))) := by
  rw [← List.append_nil sent]
  exact performs_attempt hblock (fun _ => performs_return fun _ => trivial)
    (givesUp_rethrow message)

theorem performs_report {block : Action β} {report : β → α} {fail : ByteString → α}
    (hblock : Performs platform watched valid (fun _ => True) sent block)
    (hreport : ∀ value, succeeded (report value)) (hfail : ∀ what, ¬ succeeded (fail what)) :
    Performs platform watched valid succeeded sent
      (block.attempt (fun value => .Return (report value))
        (catching fun what => .Return (fail what))) := by
  rw [← List.append_nil sent]
  exact performs_attempt hblock (fun value => performs_return fun _ => hreport value)
    (givesUp_fail hfail)

-- The result is handed on in another form.
theorem performs_map {succeeded' : β → Prop} {block : Action α} (f : α → β)
    (hf : ∀ value, succeeded' (f value) ↔ succeeded value)
    (hblock : Performs platform watched valid succeeded sent block) :
    Performs platform watched valid succeeded' sent (block >>= fun value => .Return (f value)) := by
  intro past
  rw [Program.wp_bind]
  apply Program.wp_mono (hblock past)
  · rintro now value ⟨hsent, hsucceeds⟩
    exact ⟨fun h => hsent ((hf value).mp h),
      fun hvalid hnow => (hf value).mpr (hsucceeds hvalid hnow)⟩
  · exact fun _ _ hfault => hfault

-- What follows is done for its effect on the other party alone.
theorem performs_followed {block : Action α} {after : Action β}
    (hblock : Performs platform watched valid succeeded sent block)
    (hafter : Performs platform watched valid (fun _ => True) [] after) :
    Performs platform watched valid succeeded sent
      (do
        let value ← block
        let _ ← after
        Program.Return value) := by
  intro past
  rw [Program.wp_bind]
  apply Program.wp_mono (hblock past)
  · rintro now value ⟨hsent, hsucceeds⟩
    rw [Program.wp_bind]
    apply Program.wp_mono (Program.wp_and (hafter now) (Program.wp_extends after now))
    · rintro later _ ⟨⟨hsame, _⟩, hextends⟩
      refine ⟨fun h => ?_, fun hvalid hlater => ?_⟩
      · rw [hsame trivial, hsent h, List.filter_nil, List.append_nil]
      · exact hsucceeds hvalid (accepting_of_extends hextends hlater)
    · exact fun _ _ hfault => hfault.1
  · exact fun _ _ hfault => hfault

-- What follows depends on the success of the block.
theorem performs_checked {block : Action β} {next : β → Action α} {succeeded' : β → Prop}
    (hblock : Performs platform watched valid succeeded' sent block)
    (hnext : ∀ value, succeeded' value →
      Performs platform watched valid succeeded rest (next value))
    (hfailed : ∀ value, ¬ succeeded' value → GivesUp succeeded (next value)) :
    Performs platform watched valid succeeded (sent ++ rest) (block >>= next) := by
  intro past
  rw [Program.wp_bind]
  apply Program.wp_mono (hblock past)
  · rintro now value ⟨hsent, hsucceeds⟩
    by_cases hvalue : succeeded' value
    · apply Program.wp_mono (hnext value hvalue now)
      · rintro later result ⟨hrest, hresult⟩
        refine ⟨fun h => ?_, hresult⟩
        rw [hrest h, hsent hvalue, List.append_assoc, List.filter_append]
      · exact fun _ _ hfault => hfault
    · have hgivesUp := hfailed value hvalue
      cases hend : next value with
      | Return result =>
          rw [hend] at hgivesUp
          exact ⟨fun h => absurd h hgivesUp,
            fun hvalid hnow => absurd (hsucceeds hvalid hnow) hvalue⟩
      | Throw error => exact fun hvalid hnow => hvalue (hsucceeds hvalid hnow)
      | Ask request resume =>
          rw [hend] at hgivesUp
          exact hgivesUp.elim
  · exact fun _ _ hfault => hfault

theorem performs_forM {items : List β} {body : β → Action Unit} {sent : β → List Setting}
    (hbody : ∀ item ∈ items, Performs platform watched valid (fun _ => True) (sent item)
      (body item)) :
    Performs platform watched valid (fun _ => True) (items.flatMap sent) (items.forM body) := by
  induction items with
  | nil => exact performs_return fun _ => trivial
  | cons item items ih =>
      apply performs_bind (hbody item List.mem_cons_self)
      intro _
      exact ih fun item hitem => hbody item (List.mem_cons_of_mem _ hitem)

theorem performs_onlyIf {block : Action Unit} (condition : Bool)
    (hblock : Performs platform watched valid (fun _ => True) [] block) :
    Performs platform watched valid (fun _ => True) [] (Program.onlyIf condition block) := by
  unfold Program.onlyIf
  by_cases hcondition : condition
  · rw [if_pos hcondition]
    exact hblock
  · rw [if_neg hcondition]
    exact performs_return fun _ => trivial

-- Of a program that leaves the watched properties alone nothing else is said.
theorem performs_of_within {program : Action α} (h : program.Within (Unwatched watched)) :
    Performs platform watched False succeeded [] program := by
  intro past
  have hsame := Program.wp_of_within (settings watched)
    (fun past request reply hrequest => settings_unwatched past reply hrequest) past h
  apply Program.wp_mono hsame
  · intro now value hnow
    refine ⟨fun _ => ?_, False.elim⟩
    rw [hnow, List.filter_nil, List.append_nil]
  · exact fun _ _ _ => False.elim

-- A program that leaves the watched properties alone, after an exchange that was
-- not accepted.
theorem performs_unaccepted {past : List System.Exchange} {program : Action α}
    (hpast : ¬ Accepting platform past) (h : program.Within (Unwatched watched)) :
    program.wp past
      (fun now _ => settings watched now = settings watched past ∧ ¬ Accepting platform now)
      (fun now _ => ¬ Accepting platform now) := by
  have hsame := Program.wp_of_within (settings watched)
    (fun past request reply hrequest => settings_unwatched past reply hrequest) past h
  apply Program.wp_mono (Program.wp_and hsame (Program.wp_extends program past))
  · rintro now _ ⟨hnow, hextends⟩
    exact ⟨hnow, fun haccepting => hpast (accepting_of_extends hextends haccepting)⟩
  · rintro now _ ⟨_, hextends⟩ haccepting
    exact hpast (accepting_of_extends hextends haccepting)

theorem performs_reload :
    Performs platform watched valid (fun _ => True) [] reload := by
  intro past reply
  cases reply with
  | none => exact fun _ => not_accepting_append rfl
  | some response =>
      by_cases hok : isResponseOk response
      · simp only [Program.attempt, hok, if_true]
        refine ⟨fun _ => ?_, fun _ _ => trivial⟩
        rw [settings_append]
        rfl
      · simp only [Program.attempt, hok]
        intro _
        exact not_accepting_append (by simp [accepted, acknowledged, hok])

theorem performs_setProperty (propertyName propertyValue : ByteString)
    (enforceConfigurationChange : EnforceConfigurationChange) :
    Performs platform watched valid (fun _ => True)
      [(propertyName, propertyValue)]
      (setProperty propertyName propertyValue enforceConfigurationChange) := by
  intro past reply
  have hset := settings_set watched past propertyName propertyValue reply
  cases reply with
  | none => exact fun _ => not_accepting_append rfl
  | some response =>
      by_cases hok : isResponseOk response
      · simp only [Program.attempt, hok, Bool.not_true, Bool.false_eq_true, if_false]
        cases enforceConfigurationChange with
        | Defer => exact ⟨fun _ => hset, fun _ _ => trivial⟩
        | Now =>
            have hreload : Performs platform watched valid (fun _ => True) [] _ :=
              performs_rethrow (fun what =>
                str "Failed to reload hostapd configuration after '" ++ propertyName ++
                  str "' property change: " ++ what) performs_reload
            apply Program.wp_mono (hreload _)
            · rintro now value ⟨hsent, _⟩
              refine ⟨fun h => ?_, fun _ _ => trivial⟩
              rw [hsent h, List.filter_nil, List.append_nil]
              exact hset
            · exact fun _ _ hfault => hfault
      · simp only [Program.attempt, hok, Bool.not_false, if_true]
        intro _
        exact not_accepting_append (by simp [accepted, acknowledged, hok])

theorem performs_setPropertyWith (propertyName propertyValue : ByteString)
    (enforceConfigurationChange : EnforceConfigurationChange)
    (message : ByteString → ByteString) :
    Performs platform watched valid (fun _ => True)
      [(propertyName, propertyValue)]
      (setPropertyWith propertyName propertyValue enforceConfigurationChange message) :=
  performs_rethrow message
    (performs_setProperty propertyName propertyValue enforceConfigurationChange)

end Performs

section Setters

variable {platform : Platform} {watched : ByteString → Bool} {valid : Prop}

def cipherSetting (entry : WpaSecurityProtocol × List WpaCipher) : Setting :=
  (wpaCipherPropertyName entry.1,
    entry.2.flatMap fun cipher => wpaCipherPropertyValue cipher ++ str " ")

def ValidCipherSuites (entry : WpaSecurityProtocol × List WpaCipher) : Prop :=
  entry.2 ≠ [] ∧ (∀ cipher ∈ entry.2, wpaCipherPropertyValue cipher ≠ WpaCipherInvalidValue) ∧
    wpaCipherPropertyName entry.1 ≠ ProtocolHostapd.PropertyNameInvalid

theorem performs_setPairwiseCipherSuitesOf (enforceConfigurationChange : EnforceConfigurationChange)
    (protocol : WpaSecurityProtocol) (ciphers : List WpaCipher) :
    Performs platform watched (ValidCipherSuites (protocol, ciphers)) (fun _ => True)
      [cipherSetting (protocol, ciphers)]
      (setPairwiseCipherSuitesOf enforceConfigurationChange protocol ciphers) := by
  unfold setPairwiseCipherSuitesOf
  by_cases hempty : ciphers = []
  · rw [if_pos hempty]
    exact performs_throwHostapd (fun hvalid => hvalid.1 hempty) _
  · rw [if_neg hempty]
    cases hfound : ciphers.find? fun cipher =>
        wpaCipherPropertyValue cipher = WpaCipherInvalidValue with
    | some cipher =>
        have hinvalid : wpaCipherPropertyValue cipher = WpaCipherInvalidValue := by
          simpa using List.find?_some hfound
        exact performs_throwHostapd
          (fun hvalid => hvalid.2.1 cipher (List.mem_of_find?_eq_some hfound) hinvalid) _
    | none =>
        dsimp only
        by_cases hname : wpaCipherPropertyName protocol = ProtocolHostapd.PropertyNameInvalid
        · rw [if_pos hname]
          exact performs_throwHostapd (fun hvalid => hvalid.2.2 hname) _
        · rw [if_neg hname]
          exact performs_setPropertyWith _ _ _ _

theorem performs_setPairwiseCipherSuites
    (protocolPairwiseCipherMap : Table WpaSecurityProtocol (List WpaCipher))
    (enforceConfigurationChange : EnforceConfigurationChange) :
    Performs platform watched
      (protocolPairwiseCipherMap ≠ ∅ ∧
        ∀ entry ∈ platform.wpaCipherSuites.visit protocolPairwiseCipherMap, ValidCipherSuites entry)
      (fun _ => True)
      ((platform.wpaCipherSuites.visit protocolPairwiseCipherMap).map cipherSetting)
      (setPairwiseCipherSuites platform protocolPairwiseCipherMap enforceConfigurationChange) := by
  unfold setPairwiseCipherSuites
  by_cases hempty : protocolPairwiseCipherMap = ∅
  · rw [if_pos hempty]
    exact performs_throwHostapd (fun hvalid => hvalid.1 hempty) _
  · rw [if_neg hempty, List.map_eq_flatMap]
    apply performs_forM
    intro entry hentry
    exact performs_of_valid (fun hvalid => hvalid.2 entry hentry)
      (performs_setPairwiseCipherSuitesOf enforceConfigurationChange entry.1 entry.2)

-- It returns only for what it could render.
theorem returns_setPairwiseCipherSuites
    (protocolPairwiseCipherMap : Table WpaSecurityProtocol (List WpaCipher))
    (enforceConfigurationChange : EnforceConfigurationChange) :
    (setPairwiseCipherSuites platform protocolPairwiseCipherMap enforceConfigurationChange).Returns
      fun _ => ∀ entry ∈ platform.wpaCipherSuites.visit protocolPairwiseCipherMap,
        ValidCipherSuites entry := by
  unfold setPairwiseCipherSuites
  by_cases hempty : protocolPairwiseCipherMap = ∅
  · rw [if_pos hempty]
    trivial
  · rw [if_neg hempty]
    apply Program.returns_forM
    rintro ⟨protocol, ciphers⟩ _
    unfold setPairwiseCipherSuitesOf
    dsimp only
    by_cases hnone : ciphers = []
    · rw [if_pos hnone]
      trivial
    · rw [if_neg hnone]
      cases hfound : ciphers.find? fun cipher =>
          wpaCipherPropertyValue cipher = WpaCipherInvalidValue with
      | some cipher => trivial
      | none =>
          dsimp only
          by_cases hname : wpaCipherPropertyName protocol = ProtocolHostapd.PropertyNameInvalid
          · rw [if_pos hname]
            trivial
          · rw [if_neg hname]
            have hciphers : ∀ cipher ∈ ciphers,
                wpaCipherPropertyValue cipher ≠ WpaCipherInvalidValue := by
              simpa using List.find?_eq_none.mp hfound
            exact Program.returns_of_forall fun _ => ⟨hnone, hciphers, hname⟩

-- The port has no setting of its own where none is given.
def radiusSettings (endpoint : RadiusEndpointConfiguration) : List Setting :=
  let names := getRadiusEndpointPropertyNames endpoint.type
  [(names.1, endpoint.address)] ++ ([(names.2.2, endpoint.sharedSecret)] ++
    endpoint.port.toList.map fun port => (names.2.1, decimal port.toNat))

def ValidRadiusEndpoint (endpoint : RadiusEndpointConfiguration) : Prop :=
  endpoint.type ≠ .Unknown ∧ endpoint.address ≠ [] ∧ endpoint.sharedSecret ≠ []

theorem fst_of_mem_radiusSettings {endpoint : RadiusEndpointConfiguration} {setting : Setting}
    (h : setting ∈ radiusSettings endpoint) :
    setting.1 = (getRadiusEndpointPropertyNames endpoint.type).1 ∨
      setting.1 = (getRadiusEndpointPropertyNames endpoint.type).2.1 ∨
      setting.1 = (getRadiusEndpointPropertyNames endpoint.type).2.2 := by
  simp only [radiusSettings, List.mem_append, List.mem_singleton, List.mem_map] at h
  rcases h with rfl | rfl | ⟨port, _, rfl⟩
  · exact .inl rfl
  · exact .inr (.inr rfl)
  · exact .inr (.inl rfl)

theorem performs_addRadiusEndpoint (endpoint : RadiusEndpointConfiguration) :
    Performs platform watched (ValidRadiusEndpoint endpoint) (fun _ => True)
      (radiusSettings endpoint) (addRadiusEndpoint endpoint) := by
  unfold addRadiusEndpoint
  by_cases htype : endpoint.type = .Unknown
  · rw [if_pos htype]
    exact performs_throwHostapd (fun hvalid => hvalid.1 htype) _
  · by_cases haddress : endpoint.address = []
    · rw [if_neg htype, if_pos haddress]
      exact performs_throwHostapd (fun hvalid => hvalid.2.1 haddress) _
    · by_cases hsecret : endpoint.sharedSecret = []
      · rw [if_neg htype, if_neg haddress, if_pos hsecret]
        exact performs_throwHostapd (fun hvalid => hvalid.2.2 hsecret) _
      · rw [if_neg htype, if_neg haddress, if_neg hsecret]
        apply performs_bind (performs_setProperty _ _ _)
        intro _
        apply performs_bind (performs_setProperty _ _ _)
        intro _
        cases endpoint.port with
        | none => exact performs_return fun _ => trivial
        | some port => exact performs_setProperty _ _ _

theorem performs_addRadiusEndpoints (endpoints : List RadiusEndpointConfiguration) :
    Performs platform watched (∀ endpoint ∈ endpoints, ValidRadiusEndpoint endpoint)
      (fun _ => True) (endpoints.flatMap radiusSettings) (addRadiusEndpoints endpoints .Defer) := by
  apply performs_rethrow
  rw [← List.append_nil (endpoints.flatMap radiusSettings)]
  apply performs_bind
  · apply performs_forM
    intro endpoint hendpoint
    exact performs_of_valid (fun hvalid => hvalid endpoint hendpoint)
      (performs_addRadiusEndpoint endpoint)
  · intro _
    exact performs_return fun _ => trivial

theorem performs_setPreSharedKey (preSharedKey : WpaPreSharedKey)
    (enforceConfigurationChange : EnforceConfigurationChange) :
    Performs platform watched valid (fun _ => True)
      [wpaPreSharedKeyPropertyKeyAndValue preSharedKey]
      (setPreSharedKey preSharedKey enforceConfigurationChange) :=
  performs_setPropertyWith _ _ _ _

def saePasswordSetting (saePassword : SaePassword) : Setting :=
  (ProtocolHostapd.PropertyNameSaePassword, saePasswordValue saePassword)

def saePasswordSettings (saePasswords : List SaePassword) : List Setting :=
  (ProtocolHostapd.PropertyNameSaePassword, ProtocolHostapd.PropertyValueSaePasswordClearAll) ::
    saePasswords.map saePasswordSetting

theorem performs_addSaePassword (saePassword : SaePassword)
    (enforceConfigurationChange : EnforceConfigurationChange) :
    Performs platform watched valid (fun _ => True) [saePasswordSetting saePassword]
      (addSaePassword saePassword enforceConfigurationChange) :=
  performs_setPropertyWith _ _ _ _

theorem performs_setSaePasswords (saePasswords : List SaePassword)
    (enforceConfigurationChange : EnforceConfigurationChange) :
    Performs platform watched valid (fun _ => True) (saePasswordSettings saePasswords)
      (setSaePasswords saePasswords enforceConfigurationChange) := by
  have hsettings : saePasswordSettings saePasswords =
      [(ProtocolHostapd.PropertyNameSaePassword,
        ProtocolHostapd.PropertyValueSaePasswordClearAll)] ++
        (saePasswords.flatMap (fun saePassword => [saePasswordSetting saePassword]) ++ []) := by
    simp [saePasswordSettings, List.map_eq_flatMap]
  rw [hsettings]
  apply performs_rethrow
  apply performs_bind (performs_setProperty _ _ _)
  intro _
  apply performs_bind (performs_forM fun saePassword _ => performs_addSaePassword saePassword _)
  intro _
  exact performs_onlyIf _ performs_reload

end Setters

section Allowed

variable {α : Type} {allowed : SystemRequest → Prop}
  {enforceConfigurationChange : EnforceConfigurationChange}

theorem within_catching {handler : ByteString → Action α}
    (hhandler : ∀ what, (handler what).Within allowed) (fault : Fault) :
    (catching handler fault).Within allowed := by
  cases fault with
  | Hostapd message => exact hhandler _
  | Std exception => trivial
  | Netlink exception => trivial
  | UndefinedBehavior => trivial
  | Terminate => trivial

theorem within_rethrow {block : Action α} (message : ByteString → ByteString)
    (hblock : block.Within allowed) :
    (block.attempt .Return (catching fun what => throwHostapd (message what))).Within allowed :=
  Program.within_attempt hblock (fun _ => trivial) (within_catching fun _ => trivial)

-- What a change of a property asks for.
structure Allows (allowed : SystemRequest → Prop)
    (enforceConfigurationChange : EnforceConfigurationChange) (propertyName : ByteString) :
    Prop where
  set : ∀ propertyValue, allowed (.SendCommand (.Set propertyName propertyValue))
  reload : enforceConfigurationChange = .Now → allowed (.SendCommand .Reload)

theorem Allows.defer {propertyName : ByteString}
    (h : Allows allowed enforceConfigurationChange propertyName) :
    Allows allowed .Defer propertyName := ⟨h.set, nofun⟩

theorem reload_allowed (h : allowed (.SendCommand .Reload)) : reload.Within allowed := by
  refine ⟨h, fun reply => ?_⟩
  cases reply with
  | none => trivial
  | some response =>
      by_cases hok : isResponseOk response
      · simp only [Program.attempt, hok, if_true]
        trivial
      · simp only [Program.attempt, hok]
        trivial

theorem reloadIf_allowed (h : enforceConfigurationChange = .Now → allowed (.SendCommand .Reload)) :
    (Program.onlyIf (enforceConfigurationChange = .Now) reload).Within allowed := by
  cases enforceConfigurationChange with
  | Now => exact reload_allowed (h rfl)
  | Defer => trivial

theorem setProperty_allowed {propertyName : ByteString}
    (h : Allows allowed enforceConfigurationChange propertyName) (propertyValue : ByteString) :
    (setProperty propertyName propertyValue enforceConfigurationChange).Within allowed := by
  refine ⟨h.set propertyValue, fun reply => ?_⟩
  cases reply with
  | none => trivial
  | some response =>
      by_cases hok : isResponseOk response
      · simp only [Program.attempt, hok, Bool.not_true, Bool.false_eq_true, if_false]
        cases enforceConfigurationChange with
        | Defer => trivial
        | Now => exact within_rethrow _ (reload_allowed (h.reload rfl))
      · simp only [Program.attempt, hok, Bool.not_false, if_true]
        trivial

theorem setPropertyWith_allowed {propertyName : ByteString}
    (h : Allows allowed enforceConfigurationChange propertyName) (propertyValue : ByteString)
    (message : ByteString → ByteString) :
    (setPropertyWith propertyName propertyValue enforceConfigurationChange message).Within
      allowed :=
  within_rethrow message (setProperty_allowed h propertyValue)

theorem setAuthenticationAlgorithms_allowed
    (h : Allows allowed enforceConfigurationChange
      ProtocolHostapd.PropertyNameAuthenticationAlgorithms)
    (algorithms : List WpaAuthenticationAlgorithm) :
    (setAuthenticationAlgorithms algorithms enforceConfigurationChange).Within allowed := by
  unfold setAuthenticationAlgorithms
  split_ifs
  · trivial
  · split
    · trivial
    · exact setPropertyWith_allowed h _ _

theorem setWpaSecurityProtocols_allowed
    (h : Allows allowed enforceConfigurationChange PropertyNameWpaSecurityProtocol)
    (protocols : List WpaSecurityProtocol) :
    (setWpaSecurityProtocols protocols enforceConfigurationChange).Within allowed := by
  unfold setWpaSecurityProtocols
  split_ifs
  · trivial
  · split
    · trivial
    · exact setPropertyWith_allowed h _ _

-- The identifier of the network access server is set at once, whatever is asked
-- for.
theorem setKeyManagement_allowed {keyManagements : List WpaKeyManagement}
    (hrandom : ∀ length, allowed (.GenerateRandomAsciiString length))
    (hnas : keyManagements.any isKeyManagementFastTransition →
      Allows allowed .Now ProtocolHostapd.PropertyNameNasIdentifier)
    (hieee : Allows allowed .Defer ProtocolHostapd.PropertyNameIeee8021X)
    (hkey : Allows allowed enforceConfigurationChange
      ProtocolHostapd.PropertyNameWpaKeyManagement) :
    (setKeyManagement keyManagements enforceConfigurationChange).Within allowed := by
  unfold setKeyManagement
  split_ifs
  · trivial
  · split
    · trivial
    · apply Program.within_bind
      · unfold Program.onlyIf
        split_ifs with hfast
        · exact ⟨hrandom _, fun _ => setPropertyWith_allowed (hnas hfast) _ _⟩
        · trivial
      · intro _
        apply Program.within_bind (Program.within_onlyIf _ (setPropertyWith_allowed hieee _ _))
        intro _
        exact setPropertyWith_allowed hkey _ _

theorem setPairwiseCipherSuites_allowed {platform : Platform}
    (h : ∀ protocol, wpaCipherPropertyName protocol ≠ ProtocolHostapd.PropertyNameInvalid →
      Allows allowed enforceConfigurationChange (wpaCipherPropertyName protocol))
    (protocolPairwiseCipherMap : Table WpaSecurityProtocol (List WpaCipher)) :
    (setPairwiseCipherSuites platform protocolPairwiseCipherMap
      enforceConfigurationChange).Within allowed := by
  unfold setPairwiseCipherSuites
  split_ifs
  · trivial
  · apply Program.within_forM
    intro entry _
    unfold setPairwiseCipherSuitesOf
    split_ifs
    · trivial
    · split
      · trivial
      · dsimp only
        by_cases hname : wpaCipherPropertyName entry.1 = ProtocolHostapd.PropertyNameInvalid
        · rw [if_pos hname]
          trivial
        · rw [if_neg hname]
          exact setPropertyWith_allowed (h entry.1 hname) _ _

theorem setPreSharedKey_allowed
    (hpassphrase : Allows allowed enforceConfigurationChange
      ProtocolHostapd.PropertyNameWpaPassphrase)
    (hpsk : Allows allowed enforceConfigurationChange ProtocolHostapd.PropertyNameWpaPsk)
    (preSharedKey : WpaPreSharedKey) :
    (setPreSharedKey preSharedKey enforceConfigurationChange).Within allowed := by
  cases preSharedKey with
  | WpaPskPassphraseT passphrase => exact setPropertyWith_allowed hpassphrase _ _
  | WpaPskValueT value => exact setPropertyWith_allowed hpsk _ _

theorem setSaePasswords_allowed
    (h : Allows allowed enforceConfigurationChange ProtocolHostapd.PropertyNameSaePassword)
    (saePasswords : List SaePassword) :
    (setSaePasswords saePasswords enforceConfigurationChange).Within allowed := by
  apply within_rethrow
  apply Program.within_bind (setProperty_allowed h.defer _)
  intro _
  apply Program.within_bind (Program.within_forM fun _ _ => setPropertyWith_allowed h.defer _ _)
  intro _
  exact reloadIf_allowed h.reload

theorem addRadiusEndpoints_allowed
    (hset : ∀ setting : Setting, (∃ endpoint, setting ∈ radiusSettings endpoint) →
      Allows allowed .Defer setting.1)
    (hreload : enforceConfigurationChange = .Now → allowed (.SendCommand .Reload))
    (endpoints : List RadiusEndpointConfiguration) :
    (addRadiusEndpoints endpoints enforceConfigurationChange).Within allowed := by
  apply within_rethrow
  apply Program.within_bind
  · apply Program.within_forM
    intro endpoint _
    have hsettings (setting : Setting) (hmem : setting ∈ radiusSettings endpoint) :
        Allows allowed .Defer setting.1 := hset setting ⟨endpoint, hmem⟩
    unfold radiusSettings at hsettings
    unfold addRadiusEndpoint
    split_ifs
    · trivial
    · trivial
    · trivial
    · apply Program.within_bind (setProperty_allowed (hsettings _ List.mem_cons_self) _)
      intro _
      apply Program.within_bind
        (setProperty_allowed (hsettings _ (List.mem_cons_of_mem _ List.mem_cons_self)) _)
      intro _
      cases hport : endpoint.port with
      | none => trivial
      | some port =>
          exact setProperty_allowed (hsettings (_, decimal port.toNat) (by simp [hport])) _
  · intro _
    exact reloadIf_allowed hreload

end Allowed

section Within

variable {α : Type} {watched : ByteString → Bool}

theorem within_sendCommand {command : WpaCommand} (h : Unwatched watched (.SendCommand command)) :
    (sendCommand command).Within (Unwatched watched) :=
  ⟨h, fun _ => trivial⟩

theorem allows_unwatched {enforceConfigurationChange : EnforceConfigurationChange}
    {propertyName : ByteString} (h : watched propertyName = false) :
    Allows (Unwatched watched) enforceConfigurationChange propertyName :=
  ⟨fun _ => h, fun _ => trivial⟩

theorem within_reload : reload.Within (Unwatched watched) := reload_allowed trivial

theorem within_getStatus (platform : Platform) :
    (getStatus platform).Within (Unwatched watched) := by
  apply Program.within_bind
  · exact within_sendCommand trivial
  · intro reply
    split
    · trivial
    · apply Program.within_bind (Program.within_ofExcept _)
      intro status
      split <;> trivial

theorem within_getConfiguration (platform : Platform) :
    (getConfiguration platform).Within (Unwatched watched) := by
  apply Program.within_bind
  · exact within_sendCommand trivial
  · intro reply
    split
    · trivial
    · apply Program.within_bind (Program.within_ofExcept _)
      intro configuration
      split <;> trivial

theorem within_setProperty {propertyName : ByteString} (h : watched propertyName = false)
    (propertyValue : ByteString) (enforceConfigurationChange : EnforceConfigurationChange) :
    (setProperty propertyName propertyValue enforceConfigurationChange).Within
      (Unwatched watched) :=
  setProperty_allowed (allows_unwatched h) propertyValue

theorem within_setPropertyWith {propertyName : ByteString} (h : watched propertyName = false)
    (propertyValue : ByteString) (enforceConfigurationChange : EnforceConfigurationChange)
    (message : ByteString → ByteString) :
    (setPropertyWith propertyName propertyValue enforceConfigurationChange message).Within
      (Unwatched watched) :=
  setPropertyWith_allowed (allows_unwatched h) propertyValue message

theorem within_enable (platform : Platform) : (enable platform).Within (Unwatched watched) := by
  apply Program.within_bind
  · exact within_sendCommand trivial
  · intro reply
    split
    · trivial
    · split_ifs
      · trivial
      · apply Program.within_bind (within_getStatus platform)
        intro status
        split_ifs <;> trivial

theorem within_disable (platform : Platform) : (disable platform).Within (Unwatched watched) := by
  apply Program.within_bind
  · exact within_sendCommand trivial
  · intro reply
    split
    · trivial
    · split_ifs
      · trivial
      · apply Program.within_bind (within_getStatus platform)
        intro status
        split_ifs <;> trivial

theorem within_setAuthenticationAlgorithms
    (h : watched ProtocolHostapd.PropertyNameAuthenticationAlgorithms = false)
    (algorithms : List WpaAuthenticationAlgorithm)
    (enforceConfigurationChange : EnforceConfigurationChange) :
    (setAuthenticationAlgorithms algorithms enforceConfigurationChange).Within
      (Unwatched watched) :=
  setAuthenticationAlgorithms_allowed (allows_unwatched h) algorithms

theorem within_setKeyManagement (hnas : watched ProtocolHostapd.PropertyNameNasIdentifier = false)
    (hieee : watched ProtocolHostapd.PropertyNameIeee8021X = false)
    (hkey : watched ProtocolHostapd.PropertyNameWpaKeyManagement = false)
    (keyManagements : List WpaKeyManagement)
    (enforceConfigurationChange : EnforceConfigurationChange) :
    (setKeyManagement keyManagements enforceConfigurationChange).Within (Unwatched watched) :=
  setKeyManagement_allowed (fun _ => trivial) (fun _ => allows_unwatched hnas)
    (allows_unwatched hieee) (allows_unwatched hkey)

theorem within_setPairwiseCipherSuites {platform : Platform}
    (h : ∀ protocol, wpaCipherPropertyName protocol ≠ ProtocolHostapd.PropertyNameInvalid →
      watched (wpaCipherPropertyName protocol) = false)
    (protocolPairwiseCipherMap : Table WpaSecurityProtocol (List WpaCipher))
    (enforceConfigurationChange : EnforceConfigurationChange) :
    (setPairwiseCipherSuites platform protocolPairwiseCipherMap
      enforceConfigurationChange).Within (Unwatched watched) :=
  setPairwiseCipherSuites_allowed (fun protocol hname => allows_unwatched (h protocol hname))
    protocolPairwiseCipherMap

theorem within_setPreSharedKey
    (hpassphrase : watched ProtocolHostapd.PropertyNameWpaPassphrase = false)
    (hpsk : watched ProtocolHostapd.PropertyNameWpaPsk = false) (preSharedKey : WpaPreSharedKey)
    (enforceConfigurationChange : EnforceConfigurationChange) :
    (setPreSharedKey preSharedKey enforceConfigurationChange).Within (Unwatched watched) :=
  setPreSharedKey_allowed (allows_unwatched hpassphrase) (allows_unwatched hpsk) preSharedKey

theorem within_setSaePasswords (h : watched ProtocolHostapd.PropertyNameSaePassword = false)
    (saePasswords : List SaePassword) (enforceConfigurationChange : EnforceConfigurationChange) :
    (setSaePasswords saePasswords enforceConfigurationChange).Within (Unwatched watched) :=
  setSaePasswords_allowed (allows_unwatched h) saePasswords

theorem within_addRadiusEndpoints
    (h : ∀ setting : Setting, (∃ endpoint, setting ∈ radiusSettings endpoint) →
      watched setting.1 = false)
    (endpoints : List RadiusEndpointConfiguration)
    (enforceConfigurationChange : EnforceConfigurationChange) :
    (addRadiusEndpoints endpoints enforceConfigurationChange).Within (Unwatched watched) :=
  addRadiusEndpoints_allowed (fun setting hsetting => allows_unwatched (h setting hsetting))
    (fun _ => trivial) endpoints

end Within

section Transmits

variable {α β : Type} {watched : ByteString → Bool} {sent : List Setting}

-- A program that sends these settings, whatever it is answered and however it ends.
def Transmits (watched : ByteString → Bool) (sent : List Setting) (program : Action α) : Prop :=
  ∀ past, program.wp past
    (fun now _ => settings watched now = settings watched past ++ sent)
    (fun now _ => settings watched now = settings watched past ++ sent)

theorem transmits_of_within {program : Action α} (h : program.Within (Unwatched watched)) :
    Transmits watched [] program := by
  intro past
  have hquiet := Program.wp_of_within (settings watched)
    (fun past _ reply hallowed => settings_unwatched past reply hallowed) past h
  apply Program.wp_mono hquiet
  · exact fun _ _ hnow => hnow.trans (List.append_nil _).symm
  · exact fun _ _ hnow => hnow.trans (List.append_nil _).symm

-- What follows the block, and the handler, are about something else.
theorem transmits_attempt {block : Action α} {next : α → Action β} {handler : Fault → Action β}
    (hblock : Transmits watched sent block)
    (hnext : ∀ value, (next value).Within (Unwatched watched))
    (hhandler : ∀ fault, (handler fault).Within (Unwatched watched)) :
    Transmits watched sent (block.attempt next handler) := by
  intro past
  rw [Program.wp_attempt]
  have hrest {program : Action β} (hprogram : program.Within (Unwatched watched))
      {now : List System.Exchange}
      (hnow : settings watched now = settings watched past ++ sent) :
      program.wp now (fun now _ => settings watched now = settings watched past ++ sent)
        (fun now _ => settings watched now = settings watched past ++ sent) := by
    have hquiet := transmits_of_within hprogram now
    simpa only [List.append_nil, hnow] using hquiet
  apply Program.wp_mono (hblock past)
  · exact fun _ value hnow => hrest (hnext value) hnow
  · exact fun _ fault hnow => hrest (hhandler fault) hnow

theorem transmits_setProperty {propertyName : ByteString} (h : watched propertyName = true)
    (propertyValue : ByteString) (enforceConfigurationChange : EnforceConfigurationChange) :
    Transmits watched [(propertyName, propertyValue)]
      (setProperty propertyName propertyValue enforceConfigurationChange) := by
  have hsend : Transmits watched [(propertyName, propertyValue)]
      (sendCommand (.Set propertyName propertyValue)) := by
    intro past
    refine Program.wp_ask.mpr fun reply => ?_
    refine (settings_set watched past propertyName propertyValue reply).trans ?_
    rw [List.filter_cons_of_pos (by simp [h]), List.filter_nil]
  unfold setProperty
  apply transmits_attempt hsend
  · intro reply
    split
    · trivial
    · split_ifs
      · trivial
      · cases enforceConfigurationChange with
        | Defer => trivial
        | Now =>
            apply Program.within_attempt within_reload
            · exact fun _ => trivial
            · exact within_catching fun _ => trivial
  · exact fun _ => trivial

end Transmits

section Queries

variable {α : Type} {platform : Platform} {watched : ByteString → Bool} {valid : Prop}
  {succeeded : α → Prop} {sent : List Setting}

theorem performs_isActive {next : Bool → Action α}
    (hnext : ∀ active, Performs platform watched valid succeeded sent (next active)) :
    Performs platform watched valid succeeded sent (isActive >>= next) := by
  intro past
  rw [Program.wp_bind, wp_isActive]
  intro active
  have hsame : settings watched (past ++ [⟨.IsValid, active⟩]) = settings watched past := by
    rw [settings_append]
    exact List.append_nil _
  rw [← hsame]
  exact hnext active _

theorem performs_getStatus :
    Performs platform watched valid (fun _ => True) [] (getStatus platform) := by
  intro past
  apply Program.wp_mono (wp_getStatus platform past)
  · rintro now status ⟨reply, rfl, _⟩
    refine ⟨fun _ => ?_, fun _ _ => trivial⟩
    rw [settings_append]
    rfl
  · rintro now fault ⟨reply, rfl, hstatus⟩ _
    exact not_accepting_append (by simp [accepted, hstatus])

theorem performs_getConfiguration :
    Performs platform watched valid (fun _ => True) [] (getConfiguration platform) := by
  intro past
  apply Program.wp_mono (wp_getConfiguration platform past)
  · rintro now configuration ⟨reply, rfl, _⟩
    refine ⟨fun _ => ?_, fun _ _ => trivial⟩
    rw [settings_append]
    rfl
  · rintro now fault ⟨reply, rfl, hconfiguration⟩ _
    exact not_accepting_append (by simp [accepted, hconfiguration])

-- What becomes of an ENABLE or a DISABLE that is not acknowledged does not matter
-- here.
theorem performs_acknowledged {command : WpaCommand} {next : Option ByteString → Action Unit}
    (hwithin : (sendCommand command >>= next).Within (Unwatched watched))
    (haccepted : ∀ reply : Option ByteString, acknowledged reply = false →
      accepted platform ⟨.SendCommand command, reply⟩ = false)
    (hacknowledged : ∀ reply, acknowledged reply = true → next reply = .Return ()) :
    Performs platform watched valid (fun _ => True) [] (sendCommand command >>= next) := by
  intro past reply
  have hsame : settings watched (past ++ [⟨.SendCommand command, reply⟩]) =
      settings watched past := settings_unwatched past reply hwithin.1
  have hnext : (next reply).Within (Unwatched watched) := hwithin.2 reply
  change (next reply).wp _ _ _
  cases hreply : acknowledged reply with
  | true =>
      rw [hacknowledged reply hreply]
      refine ⟨fun _ => ?_, fun _ _ => trivial⟩
      rw [hsame, List.filter_nil, List.append_nil]
  | false =>
      have hpast : ¬ Accepting platform (past ++ [⟨.SendCommand command, reply⟩]) :=
        not_accepting_append (haccepted reply hreply)
      apply Program.wp_mono (performs_unaccepted hpast hnext)
      · rintro now _ ⟨hnow, _⟩
        refine ⟨fun _ => ?_, fun _ _ => trivial⟩
        rw [hnow, hsame, List.filter_nil, List.append_nil]
      · exact fun _ _ hfault _ => hfault

theorem performs_enable :
    Performs platform watched valid (fun _ => True) [] (enable platform) := by
  refine performs_acknowledged (within_enable platform) (fun _ h => h) ?_
  intro reply hreply
  cases reply with
  | none => cases hreply
  | some response => exact if_pos hreply

theorem performs_disable :
    Performs platform watched valid (fun _ => True) [] (disable platform) := by
  refine performs_acknowledged (within_disable platform) (fun _ h => h) ?_
  intro reply hreply
  cases reply with
  | none => cases hreply
  | some response => exact if_pos hreply

end Queries

end Hostapd

end NetRemote.Wpa
