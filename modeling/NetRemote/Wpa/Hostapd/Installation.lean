import NetRemote.Foundation.Output
import NetRemote.Foundation.Store
import NetRemote.Wpa.Hostapd.Settings

namespace NetRemote.Wpa.Hostapd

open Foundation Foundation.Bytes ProtocolWpa

-- A setting that hostapd has acknowledged.
def installedIn (exchange : System.Exchange) : Option Setting :=
  if refused exchange then none else settingIn exchange

def installed (trace : List System.Exchange) : List Setting := trace.filterMap installedIn

-- The identifier of the network access server is drawn anew at each call.
def isDrawn (propertyName : ByteString) : Bool :=
  propertyName = ProtocolHostapd.PropertyNameNasIdentifier

def withIdentifier (identifier : ByteString) : Setting → Setting :=
  Store.fill ProtocolHostapd.PropertyNameNasIdentifier identifier

-- What is installed, whatever the identifier that was drawn.
def anonymousIn (exchange : System.Exchange) : Option Setting :=
  (installedIn exchange).map (withIdentifier [])

theorem filterMap_anonymousIn (trace : List System.Exchange) :
    trace.filterMap anonymousIn = (installed trace).map (withIdentifier []) :=
  List.map_filterMap.symm

-- A program that fails stops there: its settings are installed up to some point.
abbrev Installs {α : Type} (succeeded : α → Prop) (sent : List Setting) (program : Action α) :
    Prop :=
  Program.Outputs anonymousIn succeeded sent program

def anyProperty (_ : ByteString) : Bool := true

variable {α β : Type} {succeeded : α → Prop} {sent : List Setting}

theorem unseen_of_unwatched {request : SystemRequest} (h : Unwatched anyProperty request) :
    Program.Unseen (E := System) anonymousIn request := by
  intro reply
  have hnone : settingIn ⟨request, reply⟩ = none := by
    cases request with
    | SendCommand command =>
        cases command with
        | Set propertyName propertyValue => cases h
        | _ => rfl
    | _ => rfl
  rw [anonymousIn, installedIn, hnone, ite_self, Option.map_none]

theorem unseen_within {program : Action α} (h : program.Within (Unwatched anyProperty)) :
    program.Within (Program.Unseen (E := System) anonymousIn) :=
  Program.within_mono (fun _ => unseen_of_unwatched) h

theorem installs_of_within {program : Action α} (h : program.Within (Unwatched anyProperty)) :
    Installs succeeded [] program :=
  Program.outputs_of_within (unseen_within h)

theorem abandons_rethrow (message : ByteString → ByteString) (fault : Fault) :
    Program.Abandons (E := System) anonymousIn succeeded
      (catching (fun what => throwHostapd (message what)) fault) := by
  cases fault <;> exact Program.abandons_throw _

theorem abandons_fail {fail : ByteString → α} (hfail : ∀ what, ¬ succeeded (fail what))
    (fault : Fault) :
    Program.Abandons (E := System) anonymousIn succeeded
      (catching (fun what => .Return (fail what)) fault) := by
  cases fault with
  | Hostapd message => exact Program.abandons_return (hfail _)
  | Std exception => exact Program.abandons_throw _
  | Netlink exception => exact Program.abandons_throw _
  | UndefinedBehavior => exact Program.abandons_throw _
  | Terminate => exact Program.abandons_throw _

theorem installs_throwHostapd (message : ByteString) :
    Installs succeeded sent (throwHostapd message : Action α) :=
  Program.outputs_of_abandons (Program.abandons_throw _)

theorem installs_refuse {value : α} (h : ¬ succeeded value) :
    Installs succeeded sent (.Return value) :=
  Program.outputs_of_abandons (Program.abandons_return h)

theorem installs_rethrow {block : Action Unit} (message : ByteString → ByteString)
    (hblock : Installs (fun _ => True) sent block) :
    Installs (fun _ => True) sent
      (block.attempt .Return (catching fun what => throwHostapd (message what))) :=
  Program.outputs_before hblock (fun _ => trivial) (abandons_rethrow message)

theorem installs_report {block : Action β} {next : β → Action α} {fail : ByteString → α}
    (hblock : Installs (fun _ => True) sent block)
    (hnext : ∀ value, (next value).Within (Unwatched anyProperty))
    (hfail : ∀ what, ¬ succeeded (fail what)) :
    Installs succeeded sent (block.attempt next (catching fun what => .Return (fail what))) :=
  Program.outputs_before hblock (fun value => unseen_within (hnext value)) (abandons_fail hfail)

section Setters

variable {enforceConfigurationChange : EnforceConfigurationChange}

-- A setting that is not acknowledged ends the program.
theorem installs_setAnyProperty (propertyName propertyValue : ByteString) :
    Installs (fun _ => True) [withIdentifier [] (propertyName, propertyValue)]
      (setProperty propertyName propertyValue enforceConfigurationChange) := by
  apply Program.outputs_ask
  intro reply
  cases reply with
  | none => exact .inr ⟨rfl, Program.abandons_throw _⟩
  | some response =>
      by_cases hok : isResponseOk response = true
      · left
        simp only [anonymousIn, installedIn, settingIn, refused, acknowledged, Option.any_some, hok,
          Bool.not_true, Bool.false_eq_true, if_false, Option.map_some, Program.attempt, true_and]
        apply installs_of_within
        cases enforceConfigurationChange with
        | Defer => trivial
        | Now => exact within_rethrow _ within_reload
      · right
        simp only [anonymousIn, installedIn, refused, acknowledged, Option.any_some, hok,
          Bool.not_false, if_true, Option.map_none, Program.attempt, true_and]
        exact Program.abandons_throw _

theorem installs_setProperty {propertyName : ByteString} (h : isDrawn propertyName = false)
    (propertyValue : ByteString) :
    Installs (fun _ => True) [(propertyName, propertyValue)]
      (setProperty propertyName propertyValue enforceConfigurationChange) := by
  have hname : propertyName ≠ ProtocolHostapd.PropertyNameNasIdentifier := of_decide_eq_false h
  have hsetting : withIdentifier [] (propertyName, propertyValue) = (propertyName, propertyValue) :=
    Store.fill_of_ne hname []
  rw [← hsetting]
  exact installs_setAnyProperty propertyName propertyValue

theorem installs_setPropertyWith {propertyName : ByteString} (h : isDrawn propertyName = false)
    (propertyValue : ByteString) (message : ByteString → ByteString) :
    Installs (fun _ => True) [(propertyName, propertyValue)]
      (setPropertyWith propertyName propertyValue enforceConfigurationChange message) :=
  installs_rethrow message (installs_setProperty h propertyValue)

def authenticationAlgorithmsSetting (algorithms : List WpaAuthenticationAlgorithm) : Setting :=
  (ProtocolHostapd.PropertyNameAuthenticationAlgorithms,
    decimal ((algorithms.foldl (fun value algorithm => value ||| algorithm.value) 0) &&&
      WpaAuthenticationAlgorithmMask).toNat)

theorem installs_setAuthenticationAlgorithms (algorithms : List WpaAuthenticationAlgorithm) :
    Installs (fun _ => True) [authenticationAlgorithmsSetting algorithms]
      (setAuthenticationAlgorithms algorithms enforceConfigurationChange) := by
  unfold setAuthenticationAlgorithms
  split_ifs
  · exact installs_throwHostapd _
  · split
    · exact installs_throwHostapd _
    · exact installs_setPropertyWith (by decide) _ _

-- A server is identified for the suites with fast transition, and IEEE 802.1X is switched
-- on for those that need it, and never off.
def keyManagementSettings (keyManagements : List WpaKeyManagement) : List Setting :=
  (if keyManagements.any isKeyManagementFastTransition then
    [(ProtocolHostapd.PropertyNameNasIdentifier, [])]
  else []) ++
  (if keyManagements.any isKeyManagementIeee8021x then
    [(ProtocolHostapd.PropertyNameIeee8021X, ProtocolHostapd.PropertyEnabled)]
  else []) ++
  [(ProtocolHostapd.PropertyNameWpaKeyManagement,
    (keyManagements.flatMap fun keyManagement =>
      wpaKeyManagementPropertyValue keyManagement ++ str " ").dropLast)]

theorem length_writtenTo_keyManagementSettings (keyManagements : List WpaKeyManagement) :
    (Store.writtenTo ProtocolHostapd.PropertyNameNasIdentifier
      (keyManagementSettings keyManagements)).length ≤ 1 := by
  have hieee8021x : ProtocolHostapd.PropertyNameIeee8021X ≠
      ProtocolHostapd.PropertyNameNasIdentifier := by decide
  have hkeyManagement : ProtocolHostapd.PropertyNameWpaKeyManagement ≠
      ProtocolHostapd.PropertyNameNasIdentifier := by decide
  unfold keyManagementSettings
  split_ifs <;> simp [Store.writtenTo, hieee8021x, hkeyManagement]

theorem installs_setKeyManagement (keyManagements : List WpaKeyManagement) :
    Installs (fun _ => True) (keyManagementSettings keyManagements)
      (setKeyManagement keyManagements enforceConfigurationChange) := by
  unfold setKeyManagement
  split_ifs
  · exact installs_throwHostapd _
  · split
    · exact installs_throwHostapd _
    · have hrandom : Installs (fun _ => True) [(ProtocolHostapd.PropertyNameNasIdentifier, [])]
          setRandomNetworkAccessServerId :=
        Program.outputs_after (unseen_within ⟨trivial, fun _ => trivial⟩) fun _ =>
          installs_rethrow _ (installs_setAnyProperty _ _)
      rw [keyManagementSettings, List.append_assoc]
      apply Program.outputs_bind (Program.outputs_onlyIf _ hrandom)
      intro _
      apply Program.outputs_bind
        (Program.outputs_onlyIf _ (installs_setPropertyWith (by decide) _ _))
      intro _
      exact installs_setPropertyWith (by decide) _ _

theorem isDrawn_wpaCipherPropertyName (protocol : WpaSecurityProtocol) :
    isDrawn (wpaCipherPropertyName protocol) = false := by
  unfold wpaCipherPropertyName
  split_ifs <;> decide

theorem installs_setPairwiseCipherSuites (platform : Platform)
    (protocolPairwiseCipherMap : Table WpaSecurityProtocol (List WpaCipher)) :
    Installs (fun _ => True)
      ((platform.wpaCipherSuites.visit protocolPairwiseCipherMap).map cipherSetting)
      (setPairwiseCipherSuites platform protocolPairwiseCipherMap enforceConfigurationChange) := by
  unfold setPairwiseCipherSuites
  split_ifs
  · exact installs_throwHostapd _
  · rw [List.map_eq_flatMap]
    apply Program.outputs_forM
    intro entry _
    unfold setPairwiseCipherSuitesOf
    split_ifs
    · exact installs_throwHostapd _
    · split
      · exact installs_throwHostapd _
      · dsimp only
        by_cases hname : wpaCipherPropertyName entry.1 = ProtocolHostapd.PropertyNameInvalid
        · rw [if_pos hname]
          exact installs_throwHostapd _
        · rw [if_neg hname]
          exact installs_setPropertyWith (isDrawn_wpaCipherPropertyName entry.1) _ _

theorem installs_setPreSharedKey (preSharedKey : WpaPreSharedKey) :
    Installs (fun _ => True) [wpaPreSharedKeyPropertyKeyAndValue preSharedKey]
      (setPreSharedKey preSharedKey enforceConfigurationChange) := by
  have hpassphrase : isDrawn ProtocolHostapd.PropertyNameWpaPassphrase = false := by decide
  have hvalue : isDrawn ProtocolHostapd.PropertyNameWpaPsk = false := by decide
  cases preSharedKey with
  | WpaPskPassphraseT passphrase => exact installs_setPropertyWith hpassphrase _ _
  | WpaPskValueT value => exact installs_setPropertyWith hvalue _ _

theorem installs_setSaePasswords (saePasswords : List SaePassword) :
    Installs (fun _ => True) (saePasswordSettings saePasswords)
      (setSaePasswords saePasswords enforceConfigurationChange) := by
  have hname : isDrawn ProtocolHostapd.PropertyNameSaePassword = false := by decide
  have hsettings : saePasswordSettings saePasswords =
      [(ProtocolHostapd.PropertyNameSaePassword,
        ProtocolHostapd.PropertyValueSaePasswordClearAll)] ++
        (saePasswords.flatMap (fun saePassword => [saePasswordSetting saePassword]) ++ []) := by
    simp [saePasswordSettings, List.map_eq_flatMap]
  rw [hsettings]
  apply installs_rethrow
  apply Program.outputs_bind (installs_setProperty hname _)
  intro _
  apply Program.outputs_bind
  · apply Program.outputs_forM
    exact fun saePassword _ => installs_setPropertyWith hname _ _
  · exact fun _ => installs_of_within (Program.within_onlyIf _ within_reload)

theorem installs_addRadiusEndpoint (endpoint : RadiusEndpointConfiguration) :
    Installs (fun _ => True) (radiusSettings endpoint) (addRadiusEndpoint endpoint) := by
  have hnames : isDrawn (getRadiusEndpointPropertyNames endpoint.type).1 = false ∧
      isDrawn (getRadiusEndpointPropertyNames endpoint.type).2.1 = false ∧
      isDrawn (getRadiusEndpointPropertyNames endpoint.type).2.2 = false := by
    cases endpoint.type <;> decide
  unfold addRadiusEndpoint
  split_ifs
  · exact installs_throwHostapd _
  · exact installs_throwHostapd _
  · exact installs_throwHostapd _
  · apply Program.outputs_bind (installs_setProperty hnames.1 _)
    intro _
    apply Program.outputs_bind (installs_setProperty hnames.2.2 _)
    intro _
    cases endpoint.port with
    | none => exact Program.outputs_return ()
    | some port => exact installs_setProperty hnames.2.1 _

theorem installs_addRadiusEndpoints (endpoints : List RadiusEndpointConfiguration) :
    Installs (fun _ => True) (endpoints.flatMap radiusSettings)
      (addRadiusEndpoints endpoints enforceConfigurationChange) := by
  apply installs_rethrow
  rw [← List.append_nil (endpoints.flatMap radiusSettings)]
  apply Program.outputs_bind
  · exact Program.outputs_forM fun endpoint _ => installs_addRadiusEndpoint endpoint
  · exact fun _ => installs_of_within (Program.within_onlyIf _ within_reload)

end Setters

end NetRemote.Wpa.Hostapd
