import NetRemote.Foundation.Interleaving
import NetRemote.Service.NetRemoteService.PairwiseCipherSuites

namespace NetRemote.Service.NetRemoteService.SaePasswords

open Foundation Foundation.Bytes Api Wifi Wpa Wpa.Hostapd AccessPointControllerLinux

-- The list that hostapd keeps. An empty value clears it.
def keep (passwords : List ByteString) (value : ByteString) : List ByteString :=
  if value = ProtocolHostapd.PropertyValueSaePasswordClearAll then [] else passwords ++ [value]

def passwordsAfter {ι : Type} (saved : List ByteString) (commands : List (ι × ByteString)) :
    List ByteString := (commands.map Prod.snd).foldl keep saved

-- Whoever clears the list, nobody else is between the first and the last of its
-- commands.
def Undisturbed {ι : Type} (commands : List (ι × ByteString)) : Prop :=
  ∀ before who after,
    commands = before ++ (who, ProtocolHostapd.PropertyValueSaePasswordClearAll) :: after →
      ∀ earlier ∈ before, ∀ later ∈ after, later.1 ≠ who → earlier.1 ≠ later.1

section Commands

variable {ι : Type}

theorem foldl_keep {values : List ByteString} (saved : List ByteString)
    (h : ∀ value ∈ values, value ≠ ProtocolHostapd.PropertyValueSaePasswordClearAll) :
    values.foldl keep saved = saved ++ values := by
  induction values generalizing saved with
  | nil => exact (List.append_nil saved).symm
  | cons value values ih =>
      have hkeep : keep saved value = saved ++ [value] := if_neg (h value List.mem_cons_self)
      rw [List.foldl_cons, hkeep, ih _ fun other hother => h other (List.mem_cons_of_mem _ hother),
        List.append_assoc, List.singleton_append]

-- Only what comes after it has been cleared is left.
theorem passwordsAfter_clear (saved : List ByteString) (before : List (ι × ByteString)) (who : ι)
    {after : List (ι × ByteString)}
    (h : ∀ entry ∈ after, entry.2 ≠ ProtocolHostapd.PropertyValueSaePasswordClearAll) :
    passwordsAfter saved
        (before ++ (who, ProtocolHostapd.PropertyValueSaePasswordClearAll) :: after) =
      after.map Prod.snd := by
  have hafter : ∀ value ∈ after.map Prod.snd,
      value ≠ ProtocolHostapd.PropertyValueSaePasswordClearAll := by
    rw [List.forall_mem_map]
    exact h
  have hclear (passwords : List ByteString) :
      keep passwords ProtocolHostapd.PropertyValueSaePasswordClearAll = [] := if_pos rfl
  rw [passwordsAfter, List.map_append, List.map_cons, List.foldl_append, List.foldl_cons, hclear,
    foldl_keep [] hafter, List.nil_append]

-- One request after the other.
theorem undisturbed_append (one other : ι) (first second : List ByteString) :
    Undisturbed ((first.map fun value => (one, value)) ++
      second.map fun value => (other, value)) := by
  have howner (who : ι) (values : List ByteString) :
      ∀ entry ∈ values.map fun value => (who, value), entry.1 = who := by
    rw [List.forall_mem_map]
    exact fun _ _ => rfl
  intro before who after hsplit earlier hearlier later hlater hother
  rcases List.append_eq_append_iff.mp hsplit with ⟨rest, _, hsecond⟩ | ⟨rest, hfirst, hafter⟩
  · have howned := howner other second
    rw [hsecond] at howned
    have hwho : who = other := howned _ (List.mem_append_right rest List.mem_cons_self)
    have hlast : later.1 = other :=
      howned later (List.mem_append_right rest (List.mem_cons_of_mem _ hlater))
    exact absurd (hlast.trans hwho.symm) hother
  · have howned := howner one first
    rw [hfirst] at howned
    have hfront : earlier.1 = one := howned earlier (List.mem_append_left rest hearlier)
    cases rest with
    | nil =>
        have hothers := howner other second
        rw [← List.nil_append (second.map _), ← hafter] at hothers
        have hwho : who = other := hothers _ List.mem_cons_self
        have hlast : later.1 = other := hothers later (List.mem_cons_of_mem _ hlater)
        exact absurd (hlast.trans hwho.symm) hother
    | cons entry rest =>
        rw [List.cons_append, List.cons.injEq] at hafter
        rw [← hafter.1] at howned
        have hwho : who = one := howned _ (List.mem_append_right before List.mem_cons_self)
        rw [hfront, ← hwho]
        exact hother.symm

-- The list that is left is the one of the request that has cleared it last.
theorem exists_passwordsAfter [DecidableEq ι] [Nonempty ι] {requested : ι → List ByteString}
    {commands : List (ι × ByteString)}
    (hwritten : ∀ who, ∀ value ∈ requested who,
      value ≠ ProtocolHostapd.PropertyValueSaePasswordClearAll)
    (hcommands : Interleaving
      (fun who => ProtocolHostapd.PropertyValueSaePasswordClearAll :: requested who) commands)
    (hundisturbed : Undisturbed commands) (saved : List ByteString) :
    ∃ who, passwordsAfter saved commands = requested who := by
  have hcleared (who : ι) :
      (who, ProtocolHostapd.PropertyValueSaePasswordClearAll) ∈ commands := by
    rw [← mem_ownSteps, hcommands who]
    exact List.mem_cons_self
  obtain ⟨someone⟩ := ‹Nonempty ι›
  obtain ⟨before, ⟨who, value⟩, after, hsplit, hvalue, hafter⟩ := exists_last
    (p := fun entry : ι × ByteString => entry.2 = ProtocolHostapd.PropertyValueSaePasswordClearAll)
    ⟨_, hcleared someone, rfl⟩
  obtain rfl : value = ProtocolHostapd.PropertyValueSaePasswordClearAll := hvalue
  -- Whoever comes later has cleared the list before, and is disturbed.
  have howner : ∀ entry ∈ after, entry.1 = who := by
    intro entry hentry
    by_contra hother
    have hmem := hcleared entry.1
    rw [hsplit, List.mem_append, List.mem_cons] at hmem
    rcases hmem with hbefore | hlast | hlater
    · exact hundisturbed before who after hsplit _ hbefore entry hentry hother rfl
    · exact hother (Prod.mk.inj hlast).1
    · exact hafter _ hlater rfl
  have hown := hcommands who
  rw [hsplit, ownSteps_append, ownSteps_cons_self, ownSteps_of_forall howner] at hown
  refine ⟨who, ?_⟩
  rw [hsplit, passwordsAfter_clear saved before who hafter]
  cases hbefore : ownSteps who before with
  | nil =>
      rw [hbefore, List.nil_append] at hown
      exact (List.cons.inj hown).2
  | cons first rest =>
      rw [hbefore, List.cons_append] at hown
      have hagain : ProtocolHostapd.PropertyValueSaePasswordClearAll ∈ requested who := by
        rw [← (List.cons.inj hown).2]
        exact List.mem_append_right _ List.mem_cons_self
      exact absurd rfl (hwritten who _ hagain)

end Commands

inductive Client where
  | First
  | Second
  deriving DecidableEq, Repr

-- What is set in hostapd, in the order in which hostapd executes it.
def saeValue (exchange : System.Exchange) : Option ByteString :=
  (settingIn exchange).bind fun setting =>
    if saeProperty setting.1 then some setting.2 else none

abbrev saeCommands (merged : List (Client × System.Exchange)) : List (Client × ByteString) :=
  selected saeValue merged

-- The exchanges of two requests, one at a time, where both report success.
def BothSucceed (requests : Client → Wpa.Action WifiAccessPointOperationStatus)
    (merged : List (Client × System.Exchange)) : Prop :=
  ∃ traces, Interleaving traces merged ∧
    ∀ client, ∃ status, (requests client).Runs (traces client) (.ok status) ∧ Succeeds status

abbrev authenticationDataOf (configuration : Dot11AccessPointConfiguration) :
    Dot11AuthenticationData :=
  configuration.authenticationData.getD {}

-- The entries of a request in the form in which hostapd keeps them.
def requestedPasswords (configuration : Dot11AccessPointConfiguration) : List ByteString :=
  ((authenticationDataOf configuration).sae.elim [] fromDot11AuthenticationDataSae).map
    fun password => saePasswordValue (ieee80211RsnaPasswordToWpaSaePassword password)

section Requests

variable {platform : Platform} {accessPointManager : IAccessPointManager System}
  {accessPointId interfaceName : ByteString} {accessPoint : IAccessPoint System}

theorem filterMap_saeValue (trace : List System.Exchange) :
    trace.filterMap saeValue = (settings saeProperty trace).map Prod.snd := by
  induction trace with
  | nil => rfl
  | cons exchange trace ih =>
      have hsplit := settings_append saeProperty [exchange] trace
      rw [List.singleton_append] at hsplit
      rw [hsplit, List.map_append, ← ih, ← List.singleton_append, List.filterMap_append]
      congr 1
      cases hsetting : settingIn exchange with
      | none => simp [saeValue, settings, hsetting]
      | some setting =>
          cases hname : saeProperty setting.1 <;> simp [saeValue, settings, hsetting, hname]

theorem saeSettings_authenticationData {configuration : Dot11AccessPointConfiguration}
    (hsae : (authenticationDataOf configuration).sae.isSome) :
    ((authenticationSettings
        (fromDot11AuthenticationData (authenticationDataOf configuration))).filter
          fun setting => saeProperty setting.1).map Prod.snd =
      ProtocolHostapd.PropertyValueSaePasswordClearAll :: requestedPasswords configuration := by
  obtain ⟨passwords, hpasswords⟩ := Option.isSome_iff_exists.mp hsae
  rw [filter_authenticationSettings]
  simp [fromDot11AuthenticationData, hpasswords, saePasswordSettings, saePasswordSetting,
    requestedPasswords, Function.comp_def]

-- Whatever else is configured, a request that succeeds has cleared the list and
-- then set what it was asked for.
theorem performs_enable
    (hfound : accessPointManager.getAccessPoint accessPointId = some (some accessPoint))
    (hcreated : accessPoint.createController =
      .ok (some (accessPointControllerLinux platform.toWifi interfaceName)))
    {configuration : Dot11AccessPointConfiguration}
    (hsae : (authenticationDataOf configuration).sae.isSome) :
    Performs platform.toPlatform saeProperty False Succeeds
      (authenticationSettings
        (fromDot11AuthenticationData (authenticationDataOf configuration)))
      (wifiAccessPointEnable platform accessPointManager accessPointId (some configuration)) := by
  have hspared (request : ControllerRequest)
      (h : ∀ authenticationData, request ≠ .SetAuthenticationData authenticationData) :
      Spared saeProperty request := spared_saeProperty request h
  have hdata : Performs platform.toPlatform saeProperty _ Succeeds _ _ :=
    performs_setAuthenticationDataImpl platform accessPointManager accessPointId interfaceName
      (authenticationDataOf configuration)
  have hciphers : Performs platform.toPlatform saeProperty False Succeeds [] _ :=
    performs_of_within (within_setPairwiseCipherSuitesImpl platform accessPointManager
      accessPointId interfaceName (fun ciphers => hspared (.SetPairwiseCipherSuites ciphers) nofun)
      (toDot11CipherSuiteConfigurations configuration.pairwiseCipherSuites))
  have hlast : Performs platform.toPlatform saeProperty False Succeeds [] _ :=
    performs_changeOperationalState platform accessPointId interfaceName .Enabled (str "enabled")
  have hitems := performs_configurationItems platform accessPointManager accessPointId
    interfaceName (fun request h _ => hspared request h) (performs_of_valid False.elim hdata)
    hciphers hlast
  have hgiven : ((authenticationDataOf configuration).psk.isSome ||
      (authenticationDataOf configuration).sae.isSome) = true := by rw [hsae, Bool.or_true]
  rw [ite_self, if_pos hgiven, List.append_nil, List.append_nil] at hitems
  rw [enable_eq hfound hcreated]
  exact hitems

theorem enable_keepsPasswordsApart
    (hfound : accessPointManager.getAccessPoint accessPointId = some (some accessPoint))
    (hcreated : accessPoint.createController =
      .ok (some (accessPointControllerLinux platform.toWifi interfaceName)))
    {configurations : Client → Dot11AccessPointConfiguration}
    (hsae : ∀ client, (authenticationDataOf (configurations client)).sae.isSome)
    (hwritten : ∀ client, ∀ value ∈ requestedPasswords (configurations client),
      value ≠ ProtocolHostapd.PropertyValueSaePasswordClearAll)
    {merged : List (Client × System.Exchange)}
    (hsucceed : BothSucceed
      (fun client => wifiAccessPointEnable platform accessPointManager accessPointId
        (some (configurations client))) merged)
    (hundisturbed : Undisturbed (saeCommands merged)) (saved : List ByteString) :
    ∃ client, passwordsAfter saved (saeCommands merged) =
      requestedPasswords (configurations client) := by
  obtain ⟨traces, hmerged, hrequests⟩ := hsucceed
  have hcommands : (fun client => (traces client).filterMap saeValue) = fun client =>
      ProtocolHostapd.PropertyValueSaePasswordClearAll ::
        requestedPasswords (configurations client) := by
    funext client
    obtain ⟨status, hruns, hsucceeded⟩ := hrequests client
    have hends := Program.ends_of_wp [] (performs_enable hfound hcreated (hsae client) []) hruns
    rw [List.nil_append] at hends
    have hsent : settings saeProperty (traces client) = _ := hends.1 hsucceeded
    rw [filterMap_saeValue, hsent]
    exact saeSettings_authenticationData (hsae client)
  have hinterleaving := interleaving_selected hmerged saeValue
  rw [hcommands] at hinterleaving
  have : Nonempty Client := ⟨.First⟩
  exact exists_passwordsAfter hwritten hinterleaving hundisturbed saved

end Requests

def guestPassword : Client → ByteString
  | .First => str "first"
  | .Second => str "second"

def guestConfiguration (client : Client) : Dot11AccessPointConfiguration where
  authenticationData := some { sae := some ⟨[{ credential := guestPassword client }]⟩ }

def enableGuest (client : Client) : Wpa.Action WifiAccessPointOperationStatus :=
  wifiAccessPointEnable default (PairwiseCipherSuites.onlyWlan0 default) (str "wlan0")
    (some (guestConfiguration client))

-- What a request sends to a hostapd that is enabled and accepts everything.
def guestTrace (client : Client) : List System.Exchange :=
  [⟨.SendCommand (.Set (str "sae_password") (str "")), some (str "OK")⟩,
    ⟨.SendCommand (.Set (str "sae_password") (guestPassword client)), some (str "OK")⟩,
    ⟨.SendCommand .Reload, some (str "OK")⟩, ⟨.IsValid, true⟩,
    ⟨.SendCommand .Status, some (str "state=ENABLED")⟩]

theorem runs_enableGuest (client : Client) :
    ∃ status, (enableGuest client).Runs (guestTrace client) (.ok status) ∧ Succeeds status := by
  have hruns := Program.runs_run PairwiseCipherSuites.willing (enableGuest client)
  have htrace : ((enableGuest client).run PairwiseCipherSuites.willing []).1 =
      guestTrace client := by cases client <;> rfl
  have hends : ((enableGuest client).run PairwiseCipherSuites.willing []).2 =
      .ok { code := .Succeeded } := by cases client <;> rfl
  rw [htrace, hends] at hruns
  exact ⟨_, hruns, rfl⟩

theorem enable_keepsPasswordsApart_inTurn :
    ∃ client, passwordsAfter []
      (saeCommands (((guestTrace .First).map fun exchange => (Client.First, exchange)) ++
        (guestTrace .Second).map fun exchange => (Client.Second, exchange))) =
      requestedPasswords (guestConfiguration client) := by
  have hwritten : ∀ client, ∀ value ∈ requestedPasswords (guestConfiguration client),
      value ≠ ProtocolHostapd.PropertyValueSaePasswordClearAll := by
    intro client
    cases client <;> decide
  have hmerged : Interleaving guestTrace
      (((guestTrace .First).map fun exchange => (Client.First, exchange)) ++
        (guestTrace .Second).map fun exchange => (Client.Second, exchange)) := by
    intro client
    cases client <;> simp [ownSteps_append, ownSteps_map_self, ownSteps_map_ne]
  have hsae : ∀ client, (authenticationDataOf (guestConfiguration client)).sae.isSome :=
    fun _ => rfl
  refine enable_keepsPasswordsApart rfl rfl hsae hwritten
    ⟨guestTrace, hmerged, runs_enableGuest⟩ ?_ []
  rw [saeCommands, selected_append, selected_map, selected_map]
  exact undisturbed_append _ _ _ _

-- One request is carried out between the two settings of the other.
def mixed : List (Client × System.Exchange) :=
  ((guestTrace .First).take 1).map (fun exchange => (Client.First, exchange)) ++
    ((guestTrace .Second).map (fun exchange => (Client.Second, exchange)) ++
      ((guestTrace .First).drop 1).map fun exchange => (Client.First, exchange))

theorem enable_mixesPasswords :
    BothSucceed enableGuest mixed ∧
      passwordsAfter [] (saeCommands mixed) = [str "second", str "first"] ∧
      ∀ client, passwordsAfter [] (saeCommands mixed) ≠
        requestedPasswords (guestConfiguration client) := by
  have hmerged : Interleaving guestTrace mixed := by
    intro client
    rw [mixed, ownSteps_append, ownSteps_append]
    have hdistinct : Client.First ≠ Client.Second := nofun
    cases client with
    | First =>
        rw [ownSteps_map_self, ownSteps_map_ne hdistinct.symm, ownSteps_map_self,
          List.nil_append, List.take_append_drop]
    | Second =>
        rw [ownSteps_map_ne hdistinct, ownSteps_map_self, ownSteps_map_ne hdistinct,
          List.nil_append, List.append_nil]
  have hpasswords : passwordsAfter [] (saeCommands mixed) = [str "second", str "first"] := by
    decide
  refine ⟨⟨guestTrace, hmerged, runs_enableGuest⟩, hpasswords, ?_⟩
  rw [hpasswords]
  intro client
  cases client <;> decide

end NetRemote.Service.NetRemoteService.SaePasswords
