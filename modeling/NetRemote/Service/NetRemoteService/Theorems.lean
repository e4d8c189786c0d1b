import NetRemote.Service.NetRemoteService
import NetRemote.Wifi.AccessPointControllerLinux.Settings

namespace NetRemote.Service

open Foundation Foundation.Bytes Api Wifi Wpa Wpa.Hostapd

section Controller

variable (platform : Wifi.Platform) (interfaceName : ByteString) {request : ControllerRequest}
  {watched : ByteString → Bool} {valid : Prop} {sent : List Setting}
  {succeeded : AccessPointOperationStatus × request.Result → Prop}

theorem performs_accessPointControllerLinux
    (h : Performs platform.toPlatform watched valid succeeded sent
      (AccessPointControllerLinux.perform platform interfaceName request)) :
    Performs platform.toPlatform watched valid succeeded sent
      (accessPointControllerLinux platform interfaceName request) := by
  intro past
  refine (Program.wp_attempt _ _ _).mpr ?_
  apply Program.wp_mono (h past)
  · exact fun _ _ hreturn => hreturn
  · exact fun _ _ hfault => hfault

theorem returns_accessPointControllerLinux
    {described : AccessPointOperationStatus × request.Result → Prop}
    (h : (AccessPointControllerLinux.perform platform interfaceName request).Returns described) :
    (accessPointControllerLinux platform interfaceName request).Returns described :=
  Program.returns_attempt h (fun _ hvalue => hvalue) fun _ => trivial

theorem within_accessPointControllerLinux
    (h : AccessPointControllerLinux.Spared watched request) :
    (accessPointControllerLinux platform interfaceName request).Within (Unwatched watched) :=
  Program.within_attempt (AccessPointControllerLinux.within_perform platform interfaceName h)
    (fun _ => trivial) fun _ => trivial

end Controller

namespace NetRemoteService

theorem toDot11_succeeded (code : AccessPointOperationStatusCode) :
    toDot11AccessPointOperationStatusCode code = .Succeeded ↔ code = .Succeeded := by
  cases code <;> decide

theorem settle_code (accessPointId what : ByteString)
    (operationStatus : AccessPointOperationStatus) :
    (settle accessPointId what operationStatus).code = .Succeeded ↔
      operationStatus.code = .Succeeded := by
  unfold settle AccessPointOperationStatus.succeeded
  by_cases h : operationStatus.code = .Succeeded
  · simp [h]
  · simp [h, failedTo, failed, toDot11_succeeded]

variable {E : Environment} {accessPointManager : IAccessPointManager E} {accessPointId : ByteString}

theorem withAccessPointController_found {accessPoint : IAccessPoint E}
    {controller : IAccessPointController E}
    (hfound : accessPointManager.getAccessPoint accessPointId = some (some accessPoint))
    (hcreated : accessPoint.createController = .ok (some controller))
    (message : AccessPointOperationStatus → ByteString)
    (next : IAccessPointController E → Program E Fault WifiAccessPointOperationStatus) :
    withAccessPointController accessPointManager accessPointId none message next =
      next controller := by
  simp [withAccessPointController, tryGetAccessPointController, tryGetAccessPoint, hfound, hcreated]

section Items

variable {platform : Wpa.Platform} {watched : ByteString → Bool} {valid : Prop}
  {sent rest : List Setting} {item next : Wpa.Action WifiAccessPointOperationStatus}
  {items : List (Wpa.Action WifiAccessPointOperationStatus)}

def Succeeds (status : WifiAccessPointOperationStatus) : Prop := status.code = .Succeeded

theorem setConfigurationItems_append
    (items items' : List (Wpa.Action WifiAccessPointOperationStatus))
    (next : Wpa.Action WifiAccessPointOperationStatus) :
    setConfigurationItems (items ++ items') next =
      setConfigurationItems items (setConfigurationItems items' next) := by
  induction items with
  | nil => rfl
  | cons item items ih =>
      rw [List.cons_append, setConfigurationItems, setConfigurationItems, ih]

theorem performs_setConfigurationItems
    (hitem : Performs platform watched valid Succeeds sent item)
    (hrest : Performs platform watched valid Succeeds rest (setConfigurationItems items next)) :
    Performs platform watched valid Succeeds (sent ++ rest)
      (setConfigurationItems (item :: items) next) := by
  apply performs_checked hitem
  · intro status hstatus
    have hsucceeded : status.code = .Succeeded := hstatus
    rw [if_neg (by simp [hsucceeded])]
    exact hrest
  · intro status hstatus
    have hfailed : status.code ≠ .Succeeded := hstatus
    rw [if_pos hfailed]
    exact hstatus

-- A configuration is set only when each of its items is.
theorem returns_setConfigurationItems {P : Prop} (hitem : item ∈ items)
    (h : item.Returns fun status => Succeeds status → P) :
    (setConfigurationItems items next).Returns fun status => Succeeds status → P := by
  induction items with
  | nil => cases hitem
  | cons first items ih =>
      have hcheck {described : WifiAccessPointOperationStatus → Prop}
          (hfirst : first.Returns described)
          (hrest : ∀ status, described status → Succeeds status →
            (setConfigurationItems items next).Returns fun status => Succeeds status → P) :
          (setConfigurationItems (first :: items) next).Returns
            fun status => Succeeds status → P := by
        apply Program.returns_bind hfirst
        intro status hstatus
        by_cases hcode : status.code = .Succeeded
        · rw [if_neg (by simp [hcode])]
          exact hrest status hstatus hcode
        · rw [if_pos hcode]
          exact fun hsucceeds => absurd hsucceeds hcode
      rcases List.mem_cons.mp hitem with rfl | hrest
      · exact hcheck h fun _ hstatus hsucceeds =>
          Program.returns_of_forall fun _ _ => hstatus hsucceeds
      · exact hcheck (Program.returns_of_forall fun _ => trivial) fun _ _ _ => ih hrest

-- Items that leave the watched properties alone do not matter.
theorem performs_quietItems (hitems : ∀ item ∈ items, item.Within (Unwatched watched))
    (hnext : Performs platform watched False Succeeds rest next) :
    Performs platform watched False Succeeds rest (setConfigurationItems items next) := by
  induction items with
  | nil => exact hnext
  | cons item items ih =>
      have hitem : Performs platform watched False Succeeds [] item :=
        performs_of_within (hitems item List.mem_cons_self)
      apply performs_setConfigurationItems hitem
      exact ih fun other hother => hitems other (List.mem_cons_of_mem _ hother)

theorem performs_optionalItem {c : Prop} [Decidable c]
    (hitem : c → Performs platform watched valid Succeeds sent item)
    (hnext : Performs platform watched valid Succeeds rest next) :
    Performs platform watched valid Succeeds ((if c then sent else []) ++ rest)
      (setConfigurationItems (if c then [item] else []) next) := by
  by_cases hc : c
  · rw [if_pos hc, if_pos hc]
    exact performs_setConfigurationItems (hitem hc) hnext
  · rw [if_neg hc, if_neg hc]
    exact hnext

end Items

section States

variable {accessPointController : IAccessPointController E}
  {operationalState : AccessPointOperationalState}

-- The ways in which a change of the operational state can go.
inductive StateRun (accessPointController : IAccessPointController E)
    (operationalState : AccessPointOperationalState) :
    List E.Exchange → Except Fault WifiAccessPointOperationStatus → Prop where
  | Unasked {trace : List E.Exchange} {fault : Fault}
      (hget : (accessPointController .GetOperationalState).Runs trace (.error fault)) :
      StateRun accessPointController operationalState trace (.error fault)
  | Unanswered {trace : List E.Exchange} {status : WifiAccessPointOperationStatus}
      {reply : AccessPointOperationStatus × Option AccessPointOperationalState}
      (hget : (accessPointController .GetOperationalState).Runs trace (.ok reply))
      (hfailed : reply.1.succeeded = false)
      (hcode : status.code = toDot11AccessPointOperationStatusCode reply.1.code) :
      StateRun accessPointController operationalState trace (.ok status)
  | Kept {trace : List E.Exchange}
      {reply : AccessPointOperationStatus × Option AccessPointOperationalState}
      (hget : (accessPointController .GetOperationalState).Runs trace (.ok reply))
      (hsucceeded : reply.1.succeeded = true) (hsame : reply.2.getD .Disabled = operationalState) :
      StateRun accessPointController operationalState trace (.ok { code := .Succeeded })
  | Unset {first later : List E.Exchange} {fault : Fault}
      {reply : AccessPointOperationStatus × Option AccessPointOperationalState}
      (hget : (accessPointController .GetOperationalState).Runs first (.ok reply))
      (hsucceeded : reply.1.succeeded = true) (hother : reply.2.getD .Disabled ≠ operationalState)
      (hset : (accessPointController (.SetOperationalState operationalState)).Runs later
        (.error fault)) :
      StateRun accessPointController operationalState (first ++ later) (.error fault)
  | Set {first later : List E.Exchange} {status : WifiAccessPointOperationStatus}
      {reply : AccessPointOperationStatus × Option AccessPointOperationalState}
      {changed : AccessPointOperationStatus × Unit}
      (hget : (accessPointController .GetOperationalState).Runs first (.ok reply))
      (hsucceeded : reply.1.succeeded = true) (hother : reply.2.getD .Disabled ≠ operationalState)
      (hset : (accessPointController (.SetOperationalState operationalState)).Runs later
        (.ok changed))
      (hcode : status.code = toDot11AccessPointOperationStatusCode changed.1.code) :
      StateRun accessPointController operationalState (first ++ later) (.ok status)

theorem stateRun_of_runs {name : ByteString} {trace : List E.Exchange}
    {outcome : Except Fault WifiAccessPointOperationStatus}
    (hruns : (changeOperationalState accessPointId accessPointController operationalState
      name).Runs trace outcome) :
    StateRun accessPointController operationalState trace outcome := by
  rcases Program.runs_bind hruns with ⟨first, later, reply, rfl, hget, hlater⟩ |
    ⟨fault, rfl, hget⟩
  · cases hsucceeded : reply.1.succeeded with
    | false =>
        simp only [hsucceeded, Bool.not_false, if_true] at hlater
        cases hlater
        rw [List.append_nil]
        exact .Unanswered hget hsucceeded rfl
    | true =>
        simp only [hsucceeded, Bool.not_true, Bool.false_eq_true, if_false] at hlater
        split_ifs at hlater with hsame
        · cases hlater
          rw [List.append_nil]
          exact .Kept hget hsucceeded hsame
        · rcases Program.runs_bind hlater with ⟨setting, rest, changed, rfl, hset, hrest⟩ |
            ⟨fault, rfl, hset⟩
          · have hcode : rest = [] ∧ ∃ status, outcome = .ok status ∧
                status.code = toDot11AccessPointOperationStatusCode changed.1.code := by
              cases hchanged : changed.1.succeeded with
              | false =>
                  simp only [hchanged, Bool.false_eq_true, if_false] at hrest
                  cases hrest
                  exact ⟨rfl, _, rfl, rfl⟩
              | true =>
                  simp only [hchanged, if_true] at hrest
                  cases hrest
                  have hsucceeds := (toDot11_succeeded _).mpr (of_decide_eq_true hchanged)
                  exact ⟨rfl, _, rfl, hsucceeds.symm⟩
            obtain ⟨rfl, status, rfl, hcode⟩ := hcode
            rw [List.append_nil]
            exact .Set hget hsucceeded hsame hset hcode
          · exact .Unset hget hsucceeded hsame hset
  · exact .Unasked hget

end States

section Linux

variable (platform : Platform) (accessPointManager : IAccessPointManager System)
  (accessPointId interfaceName : ByteString)

theorem performs_changeOperationalState {watched : ByteString → Bool} {valid : Prop}
    (operationalState : AccessPointOperationalState) (name : ByteString) :
    Performs platform.toPlatform watched valid Succeeds []
      (changeOperationalState accessPointId
        (accessPointControllerLinux platform.toWifi interfaceName) operationalState name) := by
  have hget : Performs platform.toPlatform watched valid
      (fun result => result.1.code = .Succeeded) []
      (accessPointControllerLinux platform.toWifi interfaceName .GetOperationalState) :=
    performs_accessPointControllerLinux platform.toWifi interfaceName
      (AccessPointControllerLinux.performs_getOperationalState platform.toWifi interfaceName)
  have hset : Performs platform.toPlatform watched valid
      (fun result => result.1.code = .Succeeded) []
      (accessPointControllerLinux platform.toWifi interfaceName
        (.SetOperationalState operationalState)) :=
    performs_accessPointControllerLinux platform.toWifi interfaceName
      (performs_map (·, ()) (fun _ => Iff.rfl)
        (AccessPointControllerLinux.performs_setOperationalState platform.toWifi interfaceName
          operationalState))
  apply performs_checked hget
  · rintro ⟨operationStatus, currentState⟩ hstatus
    have hsucceeded : operationStatus.code = .Succeeded := hstatus
    simp only [AccessPointOperationStatus.succeeded, hsucceeded, decide_true, Bool.not_true,
      Bool.false_eq_true, if_false]
    split_ifs
    · exact performs_return fun _ => rfl
    · apply performs_checked hset
      · rintro ⟨operationStatus, _⟩ hstatus
        have hsucceeded : operationStatus.code = .Succeeded := hstatus
        simp only [hsucceeded, decide_true, if_true]
        exact performs_return fun _ => rfl
      · rintro ⟨operationStatus, _⟩ hstatus
        have hfailed : operationStatus.code ≠ .Succeeded := hstatus
        simp only [hfailed, decide_false, Bool.false_eq_true, if_false]
        exact fun h => hfailed ((toDot11_succeeded _).mp h)
  · rintro ⟨operationStatus, currentState⟩ hstatus
    have hfailed : operationStatus.code ≠ .Succeeded := hstatus
    simp only [AccessPointOperationStatus.succeeded, hfailed, decide_false, Bool.not_false,
      if_true]
    exact fun h => hfailed ((toDot11_succeeded _).mp h)

theorem enable_eq {platform : Platform} {accessPointManager : IAccessPointManager System}
    {accessPointId interfaceName : ByteString} {accessPoint : IAccessPoint System}
    {configuration : Dot11AccessPointConfiguration}
    (hfound : accessPointManager.getAccessPoint accessPointId = some (some accessPoint))
    (hcreated : accessPoint.createController =
      .ok (some (accessPointControllerLinux platform.toWifi interfaceName))) :
    wifiAccessPointEnable platform accessPointManager accessPointId (some configuration) =
      setConfigurationItems
        (configurationItems platform accessPointManager accessPointId
          (accessPointControllerLinux platform.toWifi interfaceName) configuration)
        (changeOperationalState accessPointId
          (accessPointControllerLinux platform.toWifi interfaceName) .Enabled
          (str "enabled")) := by
  unfold wifiAccessPointEnable wifiAccessPointEnableImpl
  exact withAccessPointController_found hfound hcreated _ _

section Quiet

open AccessPointControllerLinux (Spared)

variable {watched : ByteString → Bool}

-- An item of a configuration sets the properties of its operation and no others.
theorem within_settle {request : ControllerRequest} (h : Spared watched request)
    (f : AccessPointOperationStatus × request.Result → WifiAccessPointOperationStatus) :
    (accessPointControllerLinux platform.toWifi interfaceName request >>= fun result =>
      .Return (f result)).Within (Unwatched watched) :=
  Program.within_bind (within_accessPointControllerLinux platform.toWifi interfaceName h)
    fun _ => trivial

theorem within_setPhyTypeImpl (h : ∀ ieeePhyType, Spared watched (.SetPhyType ieeePhyType))
    (dot11PhyType : Dot11PhyType) :
    (wifiAccessPointSetPhyTypeImpl accessPointManager accessPointId
      (some (accessPointControllerLinux platform.toWifi interfaceName)) dot11PhyType).Within
        (Unwatched watched) := by
  unfold wifiAccessPointSetPhyTypeImpl
  split_ifs
  · trivial
  · apply Program.within_bind
    · exact within_accessPointControllerLinux platform.toWifi interfaceName nofun
    · rintro ⟨operationStatus, accessPointCapabilities⟩
      dsimp only
      split_ifs
      · trivial
      · trivial
      · exact within_settle platform interfaceName (h _) _

theorem within_setFrequencyBandsImpl
    (h : ∀ frequencyBands, Spared watched (.SetFrequencyBands frequencyBands))
    (dot11FrequencyBands : List Dot11FrequencyBand) :
    (wifiAccessPointSetFrequencyBandsImpl accessPointManager accessPointId
      (some (accessPointControllerLinux platform.toWifi interfaceName))
      dot11FrequencyBands).Within (Unwatched watched) := by
  unfold wifiAccessPointSetFrequencyBandsImpl
  split_ifs
  · trivial
  · trivial
  · apply Program.within_bind
    · exact within_accessPointControllerLinux platform.toWifi interfaceName nofun
    · rintro ⟨operationStatus, accessPointCapabilities⟩
      dsimp only
      split_ifs
      · trivial
      · split
        · trivial
        · exact within_settle platform interfaceName (h _) _

theorem within_setAuthenticationAlgorithmsImpl
    (h : ∀ algorithms, Spared watched (.SetAuthenticationAlgorithms algorithms))
    (dot11AuthenticationAlgorithms : List Dot11AuthenticationAlgorithm) :
    (wifiAccessPointSetAuthenticationAlgorithmsImpl accessPointManager accessPointId
      (some (accessPointControllerLinux platform.toWifi interfaceName))
      dot11AuthenticationAlgorithms).Within (Unwatched watched) := by
  unfold wifiAccessPointSetAuthenticationAlgorithmsImpl withAccessPointController
  dsimp only
  split_ifs
  · trivial
  · trivial
  · trivial
  · exact within_settle platform interfaceName (h _) _

theorem within_setAuthenticationDataImpl
    (h : ∀ authenticationData, Spared watched (.SetAuthenticationData authenticationData))
    (dot11AuthenticationData : Dot11AuthenticationData) :
    (wifiAccessPointSetAuthenticationDataImpl accessPointManager accessPointId
      (some (accessPointControllerLinux platform.toWifi interfaceName))
      dot11AuthenticationData).Within (Unwatched watched) := by
  unfold wifiAccessPointSetAuthenticationDataImpl
  split
  · trivial
  · exact within_settle platform interfaceName (h _) _

theorem within_setAkmSuitesImpl (h : ∀ akmSuites, Spared watched (.SetAkmSuites akmSuites))
    (dot11AkmSuites : List Dot11AkmSuite) :
    (wifiAccessPointSetAkmSuitesImpl accessPointManager accessPointId
      (some (accessPointControllerLinux platform.toWifi interfaceName)) dot11AkmSuites).Within
        (Unwatched watched) := by
  unfold wifiAccessPointSetAkmSuitesImpl withAccessPointController
  dsimp only
  split_ifs
  · trivial
  · trivial
  · trivial
  · exact within_settle platform interfaceName (h _) _

theorem within_setPairwiseCipherSuitesImpl
    (h : ∀ pairwiseCipherSuites, Spared watched (.SetPairwiseCipherSuites pairwiseCipherSuites))
    (dot11PairwiseCipherSuites : Table Dot11SecurityProtocol (List Dot11CipherSuite)) :
    (wifiAccessPointSetPairwiseCipherSuitesImpl platform accessPointManager accessPointId
      (some (accessPointControllerLinux platform.toWifi interfaceName))
      dot11PairwiseCipherSuites).Within (Unwatched watched) := by
  unfold wifiAccessPointSetPairwiseCipherSuitesImpl withAccessPointController
  dsimp only
  split_ifs
  · trivial
  · trivial
  · trivial
  · exact within_settle platform interfaceName (h _) _

theorem within_setSsidImpl (h : ∀ ssid, Spared watched (.SetSsid ssid)) (dot11Ssid : Dot11Ssid) :
    (wifiAccessPointSetSsidImpl accessPointManager accessPointId
      (some (accessPointControllerLinux platform.toWifi interfaceName)) dot11Ssid).Within
        (Unwatched watched) := by
  unfold wifiAccessPointSetSsidImpl
  split
  · trivial
  · exact within_settle platform interfaceName (h _) _

theorem within_setAuthenticationDot1xImpl
    (h : ∀ radiusConfiguration, Spared watched (.SetRadiusConfiguration radiusConfiguration))
    (dot11AuthenticationDot1x : Dot11AuthenticationDot1x) :
    (wifiAccessPointSetAuthenticationDot1xImpl accessPointManager accessPointId
      (some (accessPointControllerLinux platform.toWifi interfaceName))
      dot11AuthenticationDot1x).Within (Unwatched watched) := by
  unfold wifiAccessPointSetAuthenticationDot1xImpl withAccessPointController
  split
  · trivial
  · dsimp only
    split
    · trivial
    · exact within_settle platform interfaceName (h _) _

-- The authentication data and the pairwise cipher suites are two items between
-- others that leave their properties alone.
theorem performs_configurationItems {configuration : Dot11AccessPointConfiguration}
    {sentData sentCiphers rest : List Setting} {next : Wpa.Action WifiAccessPointOperationStatus}
    (hspared : ∀ request : ControllerRequest,
      (∀ authenticationData, request ≠ .SetAuthenticationData authenticationData) →
      (∀ pairwiseCipherSuites, request ≠ .SetPairwiseCipherSuites pairwiseCipherSuites) →
        Spared watched request)
    (hdata : Performs platform.toPlatform watched False Succeeds sentData
      (wifiAccessPointSetAuthenticationDataImpl accessPointManager accessPointId
        (some (accessPointControllerLinux platform.toWifi interfaceName))
        (configuration.authenticationData.getD {})))
    (hciphers : Performs platform.toPlatform watched False Succeeds sentCiphers
      (wifiAccessPointSetPairwiseCipherSuitesImpl platform accessPointManager accessPointId
        (some (accessPointControllerLinux platform.toWifi interfaceName))
        (toDot11CipherSuiteConfigurations configuration.pairwiseCipherSuites)))
    (hnext : Performs platform.toPlatform watched False Succeeds rest next) :
    Performs platform.toPlatform watched False Succeeds
      ((if (configuration.authenticationData.getD {}).psk.isSome ||
          (configuration.authenticationData.getD {}).sae.isSome then sentData else []) ++
        ((if configuration.pairwiseCipherSuites ≠ [] then sentCiphers else []) ++ rest))
      (setConfigurationItems
        (configurationItems platform accessPointManager accessPointId
          (accessPointControllerLinux platform.toWifi interfaceName) configuration) next) := by
  have hif {c : Prop} [Decidable c] {item : Wpa.Action WifiAccessPointOperationStatus}
      (h : item.Within (Unwatched watched)) :
      ∀ other ∈ if c then [item] else [], other.Within (Unwatched watched) := by
    split_ifs
    · simpa using h
    · simp
  have hmap {α : Type} {f : α → Wpa.Action WifiAccessPointOperationStatus} (value : Option α)
      (h : ∀ value, (f value).Within (Unwatched watched)) :
      ∀ other ∈ value.toList.map f, other.Within (Unwatched watched) := by
    rw [List.forall_mem_map]
    exact fun value _ => h value
  have hphy := within_setPhyTypeImpl platform accessPointManager accessPointId interfaceName
    fun ieeePhyType => hspared (.SetPhyType ieeePhyType) nofun nofun
  have hdot1x := within_setAuthenticationDot1xImpl platform accessPointManager accessPointId
    interfaceName fun radius => hspared (.SetRadiusConfiguration radius) nofun nofun
  have halgorithms := within_setAuthenticationAlgorithmsImpl platform accessPointManager
    accessPointId interfaceName fun algorithms =>
      hspared (.SetAuthenticationAlgorithms algorithms) nofun nofun
  have hakm := within_setAkmSuitesImpl platform accessPointManager accessPointId interfaceName
    fun akmSuites => hspared (.SetAkmSuites akmSuites) nofun nofun
  have hssid := within_setSsidImpl platform accessPointManager accessPointId interfaceName
    fun ssid => hspared (.SetSsid ssid) nofun nofun
  have hbands := within_setFrequencyBandsImpl platform accessPointManager accessPointId
    interfaceName fun frequencyBands => hspared (.SetFrequencyBands frequencyBands) nofun nofun
  unfold configurationItems
  simp only [setConfigurationItems_append]
  apply performs_quietItems (hif (hphy _))
  apply performs_quietItems (hmap _ hdot1x)
  apply performs_quietItems (hif (halgorithms _))
  apply performs_optionalItem fun _ => hdata
  apply performs_quietItems (hif (hakm _))
  apply performs_optionalItem fun _ => hciphers
  apply performs_quietItems (hmap _ hssid)
  exact performs_quietItems (hif (hbands _)) hnext

end Quiet

theorem performs_setAuthenticationDataImpl {watched : ByteString → Bool}
    (dot11AuthenticationData : Dot11AuthenticationData) :
    Performs platform.toPlatform watched (validateAuthenticationData dot11AuthenticationData = none)
      Succeeds
      (AccessPointControllerLinux.authenticationSettings
        (fromDot11AuthenticationData dot11AuthenticationData))
      (wifiAccessPointSetAuthenticationDataImpl accessPointManager accessPointId
        (some (accessPointControllerLinux platform.toWifi interfaceName))
        dot11AuthenticationData) := by
  unfold wifiAccessPointSetAuthenticationDataImpl withAccessPointController
  cases hvalid : validateAuthenticationData dot11AuthenticationData with
  | some message => exact performs_refuse (by simp [Succeeds, failed]) nofun
  | none =>
      have hgiven : (fromDot11AuthenticationData dot11AuthenticationData).psk.isSome ∨
          (fromDot11AuthenticationData dot11AuthenticationData).sae.isSome := by
        unfold validateAuthenticationData at hvalid
        by_cases hnone : (dot11AuthenticationData.psk.isNone &&
            dot11AuthenticationData.sae.isNone) = true
        · rw [if_pos hnone] at hvalid
          cases hvalid
        · rw [Bool.and_eq_true, Option.isNone_iff_eq_none, Option.isNone_iff_eq_none] at hnone
          simp only [fromDot11AuthenticationData, Option.isSome_map, Option.isSome_iff_ne_none]
          exact not_and_or.mp hnone
      have hset : Performs platform.toPlatform watched _ _ _ _ :=
        AccessPointControllerLinux.performs_setAuthenticationData platform.toWifi interfaceName
          (fromDot11AuthenticationData dot11AuthenticationData)
      exact performs_map _ (fun _ => settle_code _ _ _)
        (performs_accessPointControllerLinux platform.toWifi interfaceName
          (performs_map (·, ()) (fun _ => Iff.rfl) (performs_of_valid (fun _ => hgiven) hset)))

theorem performs_setPairwiseCipherSuitesImpl {watched : ByteString → Bool}
    (dot11PairwiseCipherSuites : Table Dot11SecurityProtocol (List Dot11CipherSuite)) :
    let ieee80211CipherSuites := fromDot11CipherSuiteConfigurations platform.dot11CipherSuites
      dot11PairwiseCipherSuites
    let wpaCipherSuites :=
      ieee80211CipherSuitesToWpaCipherSuites platform.cipherSuites ieee80211CipherSuites
    Performs platform.toPlatform watched
      ((dot11PairwiseCipherSuites ≠ ∅ ∧ Dot11SecurityProtocolUnknown ∉ dot11PairwiseCipherSuites ∧
        Ieee80211SecurityProtocol.Unknown ∉ ieee80211CipherSuites) ∧
        ieee80211CipherSuites ≠ ∅ ∧ wpaCipherSuites ≠ ∅ ∧
        ∀ entry ∈ platform.wpaCipherSuites.visit wpaCipherSuites, ValidCipherSuites entry)
      Succeeds ((platform.wpaCipherSuites.visit wpaCipherSuites).map cipherSetting)
      (wifiAccessPointSetPairwiseCipherSuitesImpl platform accessPointManager accessPointId
        (some (accessPointControllerLinux platform.toWifi interfaceName))
        dot11PairwiseCipherSuites) := by
  intro ieee80211CipherSuites wpaCipherSuites
  unfold wifiAccessPointSetPairwiseCipherSuitesImpl withAccessPointController
  dsimp only
  by_cases hempty : dot11PairwiseCipherSuites = ∅
  · rw [if_pos hempty]
    exact performs_refuse (by simp [Succeeds, failed]) fun hvalid => hvalid.1.1 hempty
  · by_cases hunknown : Dot11SecurityProtocolUnknown ∈ dot11PairwiseCipherSuites
    · rw [if_neg hempty, if_pos hunknown]
      exact performs_refuse (by simp [Succeeds, failed]) fun hvalid => hvalid.1.2.1 hunknown
    · by_cases hneutral : Ieee80211SecurityProtocol.Unknown ∈ ieee80211CipherSuites
      · rw [if_neg hempty, if_neg hunknown, if_pos hneutral]
        exact performs_refuse (by simp [Succeeds, failed]) fun hvalid => hvalid.1.2.2 hneutral
      · rw [if_neg hempty, if_neg hunknown, if_neg hneutral]
        have hset : Performs platform.toPlatform watched _ _ _ _ :=
          AccessPointControllerLinux.performs_setPairwiseCipherSuites platform.toWifi interfaceName
            ieee80211CipherSuites
        exact performs_map _ (fun _ => settle_code _ _ _)
          (performs_accessPointControllerLinux platform.toWifi interfaceName
            (performs_map (·, ()) (fun _ => Iff.rfl)
              (performs_of_valid (fun hvalid => hvalid.2) hset)))

theorem returns_setPairwiseCipherSuitesImpl
    (dot11PairwiseCipherSuites : Table Dot11SecurityProtocol (List Dot11CipherSuite)) :
    (wifiAccessPointSetPairwiseCipherSuitesImpl platform accessPointManager accessPointId
      (some (accessPointControllerLinux platform.toWifi interfaceName))
      dot11PairwiseCipherSuites).Returns fun status =>
        Succeeds status →
          ∀ entry ∈ platform.wpaCipherSuites.visit
            (ieee80211CipherSuitesToWpaCipherSuites platform.cipherSuites
              (fromDot11CipherSuiteConfigurations platform.dot11CipherSuites
                dot11PairwiseCipherSuites)), ValidCipherSuites entry := by
  unfold wifiAccessPointSetPairwiseCipherSuitesImpl withAccessPointController
  dsimp only
  split_ifs
  · exact fun hstatus => by simp [Succeeds, failed] at hstatus
  · exact fun hstatus => by simp [Succeeds, failed] at hstatus
  · exact fun hstatus => by simp [Succeeds, failed] at hstatus
  · have hset := AccessPointControllerLinux.returns_setPairwiseCipherSuites platform.toWifi
      interfaceName (fromDot11CipherSuiteConfigurations platform.dot11CipherSuites
        dot11PairwiseCipherSuites)
    apply Program.returns_bind
    · exact returns_accessPointControllerLinux platform.toWifi interfaceName
        (Program.returns_map (·, ()) hset)
    · rintro ⟨operationStatus, _⟩ ⟨status, hstatus, hresult⟩ hsucceeds
      obtain rfl : status = operationStatus := congrArg Prod.fst hresult
      exact hstatus ((settle_code _ _ _).mp hsucceeds)

end Linux

end NetRemoteService

end NetRemote.Service
