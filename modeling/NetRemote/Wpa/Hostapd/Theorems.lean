import NetRemote.Wpa.Hostapd
import NetRemote.Wpa.WpaResponseParser.Theorems

namespace NetRemote.Wpa

open Foundation Foundation.Bytes ProtocolWpa

def acknowledged (reply : Option ByteString) : Bool := reply.any isResponseOk

-- A SET or RELOAD that hostapd did not acknowledge.
def refused : System.Exchange → Bool
  | ⟨.SendCommand (.Set _ _), reply⟩ => !acknowledged reply
  | ⟨.SendCommand .Reload, reply⟩ => !acknowledged reply
  | _ => false

def isQuery : System.Exchange → Bool
  | ⟨.SendCommand .Status, _⟩ => true
  | ⟨.SendCommand .GetConfig, _⟩ => true
  | _ => false

def Refused (trace : List System.Exchange) : Prop := ∃ exchange ∈ trace, refused exchange

-- The exchanges that do no harm are a parameter: operations differ in the answers
-- they can bear.
def Throughout (harmless : System.Exchange → Prop) (trace : List System.Exchange) : Prop :=
  ∀ exchange ∈ trace, harmless exchange

@[simp] theorem refused_append (past : List System.Exchange) (exchange : System.Exchange) :
    Refused (past ++ [exchange]) ↔ Refused past ∨ refused exchange := by
  simp [Refused, or_and_right, exists_or]

@[simp] theorem throughout_append (harmless : System.Exchange → Prop)
    (past : List System.Exchange) (exchange : System.Exchange) :
    Throughout harmless (past ++ [exchange]) ↔ Throughout harmless past ∧ harmless exchange := by
  simp only [Throughout, List.forall_mem_append, List.forall_mem_singleton]

namespace Hostapd

theorem wp_isActive {past : List System.Exchange} {returns : List System.Exchange → Bool → Prop}
    {throws : List System.Exchange → Fault → Prop} :
    isActive.wp past returns throws ↔
      ∀ active : Bool, returns (past ++ [⟨.IsValid, active⟩]) active := Iff.rfl

section Sound

variable {α β : Type} (harmless : System.Exchange → Prop)

-- How a fault has come about: an exception of the interface to hostapd from an
-- answer that does no harm, any other fault from one that does.
def Faulted (now : List System.Exchange) : Fault → Prop
  | .Hostapd _ => Throughout harmless now
  | _ => ¬ Throughout harmless now

-- A program that throws when a change it needed was refused, and that throws
-- something else than `HostapdException` only for an answer that does harm.
def Sound (program : Action α) : Prop :=
  ∀ past, Throughout harmless past →
    program.wp past
      (fun now _ => Throughout harmless now ∧ (Refused now → Refused past))
      (fun now fault => Faulted harmless now fault)

variable {harmless}

theorem sound_return (value : α) : Sound harmless (.Return value) := by
  intro past hpast
  exact ⟨hpast, fun hrefused => hrefused⟩

theorem sound_throwHostapd (message : ByteString) :
    Sound harmless (throwHostapd message : Action α) := by
  intro past hpast
  exact hpast

theorem sound_bind {block : Action α} {next : α → Action β} (hblock : Sound harmless block)
    (hnext : ∀ value, Sound harmless (next value)) : Sound harmless (block >>= next) := by
  intro past hpast
  rw [Program.wp_bind]
  apply Program.wp_mono (hblock past hpast)
  · rintro now value ⟨hnow, hrefused⟩
    apply Program.wp_mono (hnext value now hnow)
    · rintro later _ ⟨hlater, hrefused'⟩
      exact ⟨hlater, fun h => hrefused (hrefused' h)⟩
    · exact fun _ _ hfault => hfault
  · exact fun _ _ hfault => hfault

theorem sound_sendCommand {command : WpaCommand}
    (hharmless : ∀ reply, harmless ⟨.SendCommand command, reply⟩)
    (hrefused : ∀ reply, refused ⟨.SendCommand command, reply⟩ = false) :
    Sound harmless (sendCommand command) := by
  intro past hpast reply
  refine ⟨(throughout_append harmless _ _).mpr ⟨hpast, hharmless reply⟩, fun h => ?_⟩
  simpa [hrefused reply] using h

-- The handlers of the setters throw again, with a longer message.
theorem sound_rethrow {block : Action α} (message : ByteString → ByteString)
    (hblock : Sound harmless block) :
    Sound harmless
      (block.attempt .Return (catching fun what => throwHostapd (message what))) := by
  intro past hpast
  rw [Program.wp_attempt]
  apply Program.wp_mono (hblock past hpast)
  · exact fun _ _ hreturn => hreturn
  · intro now fault hfault
    cases fault with
    | Hostapd message => exact hfault
    | Std exception => exact hfault
    | Netlink exception => exact hfault
    | UndefinedBehavior => exact hfault
    | Terminate => exact hfault

theorem sound_forM {items : List β} {body : β → Action Unit}
    (hbody : ∀ item, Sound harmless (body item)) : Sound harmless (items.forM body) := by
  induction items with
  | nil => exact sound_return ()
  | cons item items ih => exact sound_bind (hbody item) fun _ => ih

theorem sound_onlyIf {block : Action Unit} (condition : Bool) (hblock : Sound harmless block) :
    Sound harmless (Program.onlyIf condition block) := by
  unfold Program.onlyIf
  by_cases h : condition
  · rw [if_pos h]
    exact hblock
  · rw [if_neg h]
    exact sound_return ()

end Sound

section Changes

variable {harmless : System.Exchange → Prop}
  (hquiet : ∀ exchange, isQuery exchange = false → harmless exchange)

include hquiet

theorem sound_reload : Sound harmless reload := by
  intro past hpast reply
  have hreload := hquiet ⟨.SendCommand .Reload, reply⟩ rfl
  cases reply with
  | none => exact (throughout_append harmless _ _).mpr ⟨hpast, hreload⟩
  | some response =>
      by_cases hok : isResponseOk response
      · simp [Program.attempt, hok, refused, acknowledged, hpast, hreload]
      · simp [Program.attempt, hok, throwHostapd, Faulted, hpast, hreload]

theorem sound_setProperty (propertyName propertyValue : ByteString)
    (enforceConfigurationChange : EnforceConfigurationChange) :
    Sound harmless (setProperty propertyName propertyValue enforceConfigurationChange) := by
  intro past hpast reply
  have hset := hquiet ⟨.SendCommand (.Set propertyName propertyValue), reply⟩ rfl
  cases reply with
  | none => exact (throughout_append harmless _ _).mpr ⟨hpast, hset⟩
  | some response =>
      by_cases hok : isResponseOk response
      · cases enforceConfigurationChange with
        | Defer =>
            simp [Program.attempt, hok, refused, acknowledged, hpast, hset]
        | Now =>
            have hnow := (throughout_append harmless past
              ⟨.SendCommand (.Set propertyName propertyValue), some response⟩).mpr ⟨hpast, hset⟩
            have hreload := sound_rethrow (fun what =>
              str "Failed to reload hostapd configuration after '" ++ propertyName ++
                str "' property change: " ++ what) (sound_reload hquiet) _ hnow
            simp only [Program.attempt, hok]
            apply Program.wp_mono hreload
            · rintro later _ ⟨hlater, hrefused⟩
              refine ⟨hlater, fun h => ?_⟩
              simpa [refused, acknowledged, hok] using hrefused h
            · exact fun _ _ hfault => hfault
      · simp [Program.attempt, hok, throwHostapd, Faulted, hpast, hset]

theorem sound_setPropertyWith (propertyName propertyValue : ByteString)
    (enforceConfigurationChange : EnforceConfigurationChange)
    (message : ByteString → ByteString) :
    Sound harmless
      (setPropertyWith propertyName propertyValue enforceConfigurationChange message) :=
  sound_rethrow message
    (sound_setProperty hquiet propertyName propertyValue enforceConfigurationChange)

theorem sound_setAuthenticationAlgorithms (algorithms : List WpaAuthenticationAlgorithm)
    (enforceConfigurationChange : EnforceConfigurationChange) :
    Sound harmless (setAuthenticationAlgorithms algorithms enforceConfigurationChange) := by
  unfold setAuthenticationAlgorithms
  split_ifs
  · exact sound_throwHostapd _
  · split
    · exact sound_throwHostapd _
    · exact sound_setPropertyWith hquiet _ _ _ _

theorem sound_setWpaSecurityProtocols (protocols : List WpaSecurityProtocol)
    (enforceConfigurationChange : EnforceConfigurationChange) :
    Sound harmless (setWpaSecurityProtocols protocols enforceConfigurationChange) := by
  unfold setWpaSecurityProtocols
  split_ifs
  · exact sound_throwHostapd _
  · split
    · exact sound_throwHostapd _
    · exact sound_setPropertyWith hquiet _ _ _ _

theorem sound_setRandomNetworkAccessServerId : Sound harmless setRandomNetworkAccessServerId := by
  intro past hpast reply
  have hrandom := hquiet ⟨.GenerateRandomAsciiString
    Ieee80211FtR0KeyHolderIdLengthOctetsMaximum, reply⟩ rfl
  have hset := sound_setPropertyWith hquiet ProtocolHostapd.PropertyNameNasIdentifier reply.val .Now
    (fun what => str "Failed to set network access identifier (" ++ what ++ str ")") _
    ((throughout_append harmless past _).mpr ⟨hpast, hrandom⟩)
  apply Program.wp_mono hset
  · rintro now _ ⟨hnow, hrefused⟩
    refine ⟨hnow, fun h => ?_⟩
    simpa [refused] using hrefused h
  · exact fun _ _ hfault => hfault

theorem sound_setKeyManagement (keyManagements : List WpaKeyManagement)
    (enforceConfigurationChange : EnforceConfigurationChange) :
    Sound harmless (setKeyManagement keyManagements enforceConfigurationChange) := by
  unfold setKeyManagement
  split_ifs
  · exact sound_throwHostapd _
  · split
    · exact sound_throwHostapd _
    · apply sound_bind (sound_onlyIf _ (sound_setRandomNetworkAccessServerId hquiet))
      intro _
      apply sound_bind (sound_onlyIf _ (sound_setPropertyWith hquiet _ _ _ _))
      intro _
      exact sound_setPropertyWith hquiet _ _ _ _

theorem sound_setPairwiseCipherSuites (platform : Platform)
    (protocolPairwiseCipherMap : Table WpaSecurityProtocol (List WpaCipher))
    (enforceConfigurationChange : EnforceConfigurationChange) :
    Sound harmless
      (setPairwiseCipherSuites platform protocolPairwiseCipherMap enforceConfigurationChange) := by
  unfold setPairwiseCipherSuites
  split_ifs
  · exact sound_throwHostapd _
  · apply sound_forM
    intro entry
    unfold setPairwiseCipherSuitesOf
    split_ifs
    · exact sound_throwHostapd _
    · split
      · exact sound_throwHostapd _
      · dsimp only
        split_ifs
        · exact sound_throwHostapd _
        · exact sound_setPropertyWith hquiet _ _ _ _

theorem sound_setPreSharedKey (preSharedKey : WpaPreSharedKey)
    (enforceConfigurationChange : EnforceConfigurationChange) :
    Sound harmless (setPreSharedKey preSharedKey enforceConfigurationChange) :=
  sound_setPropertyWith hquiet _ _ _ _

theorem sound_setSaePasswords (saePasswords : List SaePassword)
    (enforceConfigurationChange : EnforceConfigurationChange) :
    Sound harmless (setSaePasswords saePasswords enforceConfigurationChange) := by
  apply sound_rethrow
  apply sound_bind (sound_setProperty hquiet _ _ _)
  intro _
  apply sound_bind (sound_forM fun _ => sound_setPropertyWith hquiet _ _ _ _)
  intro _
  exact sound_onlyIf _ (sound_reload hquiet)

theorem sound_setBridgeInterface (bridgeInterface : ByteString)
    (enforceConfigurationChange : EnforceConfigurationChange) :
    Sound harmless (setBridgeInterface bridgeInterface enforceConfigurationChange) :=
  sound_setPropertyWith hquiet _ _ _ _

theorem sound_addRadiusEndpoint (endpointConfiguration : RadiusEndpointConfiguration) :
    Sound harmless (addRadiusEndpoint endpointConfiguration) := by
  unfold addRadiusEndpoint
  split_ifs
  · exact sound_throwHostapd _
  · exact sound_throwHostapd _
  · exact sound_throwHostapd _
  · apply sound_bind (sound_setProperty hquiet _ _ _)
    intro _
    apply sound_bind (sound_setProperty hquiet _ _ _)
    intro _
    split
    · exact sound_return ()
    · exact sound_setProperty hquiet _ _ _

theorem sound_addRadiusEndpoints (endpointConfigurations : List RadiusEndpointConfiguration)
    (enforceConfigurationChange : EnforceConfigurationChange) :
    Sound harmless (addRadiusEndpoints endpointConfigurations enforceConfigurationChange) := by
  apply sound_rethrow
  apply sound_bind (sound_forM fun endpoint => sound_addRadiusEndpoint hquiet endpoint)
  intro _
  exact sound_onlyIf _ (sound_reload hquiet)

end Changes

section Queries

-- The exceptions of the parsers are not those of the interface to hostapd, and a
-- handler for the latter does not catch them.
def escapes : Fault → Bool
  | .Hostapd _ => false
  | _ => true

theorem escapes_tryParseProperties {propertiesToParse : List ByteString} {payload : ByteString}
    {fault : Fault}
    (h : WpaResponseParser.tryParseProperties propertiesToParse payload = .error fault) :
    escapes fault := by
  unfold WpaResponseParser.tryParseProperties at h
  split_ifs at h
  cases hfold : (WpaResponseParser.lines payload).foldlM WpaResponseParser.addLine ∅ with
  | ok properties => simp [hfold, bind, Except.bind] at h
  | error first =>
      have hfirst : first = fault := by simpa [hfold, bind, Except.bind] using h
      subst hfirst
      apply foldlM_error_of_step WpaResponseParser.addLine (fun fault => escapes fault = true) _ _ _
        hfold
      intro properties line error hline
      unfold WpaResponseParser.addLine WpaResponseParser.toProperty at hline
      split at hline
      · cases hline
      · split at hline
        · cases hline
        · split at hline
          · cases hline
          · cases hline
            rfl

theorem escapes_assignBss {bssCapacity : BssCapacity} {status : HostapdStatus}
    {index : Option Nat} {assign : BssInfo → BssInfo} {fault : Fault}
    (h : WpaStatusResponseParser.assignBss bssCapacity status index assign = .error fault) :
    escapes fault := by
  unfold WpaStatusResponseParser.assignBss WpaStatusResponseParser.enforceRequiredBssInfoSize at h
  cases index with
  | none =>
      cases h
      rfl
  | some index =>
      simp only [bind, Except.bind] at h
      split_ifs at h
      · cases h
        rfl
      · cases h
        rfl
      · dsimp only at h
        split_ifs at h
        cases h
        rfl
      · dsimp only at h
        split_ifs at h
        cases h
        rfl

theorem escapes_assignProperty {bssCapacity : BssCapacity} {status : HostapdStatus}
    {property : ByteString × PropertyValue} {fault : Fault}
    (h : WpaStatusResponseParser.assignProperty bssCapacity status property = .error fault) :
    escapes fault := by
  by_cases hkey : property.1 ∈ bssKeys
  · rw [assignProperty_bss hkey] at h
    exact escapes_assignBss h
  · obtain ⟨next, hok, _⟩ := assignProperty_other status hkey
    rw [hok] at h
    cases h

variable (platform : Platform)

theorem escapes_parseStatus {payload : ByteString} {fault : Fault}
    (h : WpaStatusResponseParser.parse platform.bssCapacity platform.properties payload =
      .error fault) :
    escapes fault := by
  unfold WpaStatusResponseParser.parse at h
  cases hproperties : WpaResponseParser.tryParseProperties
      WpaStatusResponseParser.propertiesToParse payload with
  | error first =>
      have hfirst : first = fault := by simpa [hproperties, bind, Except.bind] using h
      exact hfirst ▸ escapes_tryParseProperties hproperties
  | ok result =>
      simp only [hproperties, bind, Except.bind] at h
      split_ifs at h
      cases hpayload : WpaStatusResponseParser.parsePayload platform.bssCapacity
          platform.properties result.2 with
      | ok status => simp [hpayload] at h
      | error first =>
          have hfirst : first = fault := by simpa [hpayload] using h
          exact hfirst ▸ foldlM_error_of_step _ (fun fault => escapes fault = true) _ _
            (fun _ _ _ => escapes_assignProperty) hpayload

-- The parsers read the answer without throwing.
def readable : System.Exchange → Bool
  | ⟨.SendCommand .Status, some payload⟩ =>
      (WpaStatusResponseParser.parse platform.bssCapacity platform.properties payload).isOk
  | ⟨.SendCommand .GetConfig, some payload⟩ =>
      (WpaGetConfigResponseParser.parse platform.properties platform.uninitialized payload).isOk
  | _ => true

def statusIn : System.Exchange → Option HostapdStatus
  | ⟨.SendCommand .Status, some payload⟩ =>
      (WpaStatusResponseParser.parse platform.bssCapacity platform.properties
        payload).toOption.join
  | _ => none

def configurationIn : System.Exchange → Option HostapdBssConfiguration
  | ⟨.SendCommand .GetConfig, some payload⟩ =>
      (WpaGetConfigResponseParser.parse platform.properties platform.uninitialized
        payload).toOption.join
  | _ => none

theorem readable_of_not_isQuery {exchange : System.Exchange} (h : isQuery exchange = false) :
    readable platform exchange = true := by
  unfold readable
  split <;> simp_all [isQuery]

-- Within a handler a status query fails in two ways only: by the handled exception
-- or by an answer that cannot be read.
theorem sound_getStatus :
    Sound (fun exchange => readable platform exchange) (getStatus platform) := by
  intro past hpast reply
  cases reply with
  | none => exact (throughout_append _ _ _).mpr ⟨hpast, rfl⟩
  | some payload =>
      cases hparse : WpaStatusResponseParser.parse platform.bssCapacity platform.properties
          payload with
      | error fault =>
          have hescapes := escapes_parseStatus platform hparse
          simp only [Program.attempt, hparse, Program.ofExcept_error, Program.throw_bind,
            Program.wp_throw]
          cases fault with
          | Hostapd message => cases hescapes
          | _ => simp [Faulted, readable, hparse, Except.isOk, Except.toBool]
      | ok parsed =>
          have hread : readable platform ⟨.SendCommand .Status, some payload⟩ := by
            simp [readable, hparse, Except.isOk, Except.toBool]
          simp only [Program.attempt, hparse, Program.ofExcept_ok, Program.return_bind]
          cases parsed with
          | none => exact (throughout_append _ _ _).mpr ⟨hpast, hread⟩
          | some status => simp [hpast, hread, refused]

-- ENABLE and DISABLE ask for the status when they are not acknowledged.
theorem sound_enable : Sound (fun exchange => readable platform exchange) (enable platform) := by
  apply sound_bind (sound_sendCommand (fun _ => rfl) fun _ => rfl)
  intro reply
  split
  · exact sound_throwHostapd _
  · split_ifs
    · exact sound_return ()
    · apply sound_bind (sound_getStatus platform)
      intro status
      split_ifs
      · exact sound_return ()
      · exact sound_throwHostapd _

theorem sound_disable : Sound (fun exchange => readable platform exchange) (disable platform) := by
  apply sound_bind (sound_sendCommand (fun _ => rfl) fun _ => rfl)
  intro reply
  split
  · exact sound_throwHostapd _
  · split_ifs
    · exact sound_return ()
    · apply sound_bind (sound_getStatus platform)
      intro status
      split_ifs
      · exact sound_throwHostapd _
      · exact sound_return ()

-- Outside a handler only a status that could be read is good enough.
theorem wp_getStatus (past : List System.Exchange) :
    (getStatus platform).wp past
      (fun now status => ∃ reply, now = past ++ [⟨.SendCommand .Status, reply⟩] ∧
        statusIn platform ⟨.SendCommand .Status, reply⟩ = some status)
      (fun now _ => ∃ reply, now = past ++ [⟨.SendCommand .Status, reply⟩] ∧
        statusIn platform ⟨.SendCommand .Status, reply⟩ = none) := by
  intro reply
  cases reply with
  | none => exact ⟨none, rfl, rfl⟩
  | some payload =>
      cases hparse : WpaStatusResponseParser.parse platform.bssCapacity platform.properties
          payload with
      | error fault =>
          simp only [Program.attempt, hparse, Program.ofExcept_error, Program.throw_bind,
            Program.wp_throw]
          exact ⟨some payload, rfl, by simp [statusIn, hparse, Except.toOption]⟩
      | ok parsed =>
          simp only [Program.attempt, hparse, Program.ofExcept_ok, Program.return_bind]
          cases parsed with
          | none => exact ⟨some payload, rfl, by simp [statusIn, hparse, Except.toOption]⟩
          | some status => exact ⟨some payload, rfl, by simp [statusIn, hparse, Except.toOption]⟩

theorem wp_getConfiguration (past : List System.Exchange) :
    (getConfiguration platform).wp past
      (fun now configuration => ∃ reply, now = past ++ [⟨.SendCommand .GetConfig, reply⟩] ∧
        configurationIn platform ⟨.SendCommand .GetConfig, reply⟩ = some configuration)
      (fun now _ => ∃ reply, now = past ++ [⟨.SendCommand .GetConfig, reply⟩] ∧
        configurationIn platform ⟨.SendCommand .GetConfig, reply⟩ = none) := by
  intro reply
  cases reply with
  | none => exact ⟨none, rfl, rfl⟩
  | some payload =>
      cases hparse : WpaGetConfigResponseParser.parse platform.properties platform.uninitialized
          payload with
      | error fault =>
          simp only [Program.attempt, hparse, Program.ofExcept_error, Program.throw_bind,
            Program.wp_throw]
          exact ⟨some payload, rfl, by simp [configurationIn, hparse, Except.toOption]⟩
      | ok parsed =>
          simp only [Program.attempt, hparse, Program.ofExcept_ok, Program.return_bind]
          cases parsed with
          | none => exact ⟨some payload, rfl, by simp [configurationIn, hparse, Except.toOption]⟩
          | some configuration =>
              exact ⟨some payload, rfl, by simp [configurationIn, hparse, Except.toOption]⟩

end Queries

end Hostapd

end NetRemote.Wpa
