import NetRemote.Cli.NetRemoteCliHandlerOperations.RoundTrip
import NetRemote.Service.NetRemoteService.Installation

namespace NetRemote.Cli.NetRemoteCliHandlerOperations

open Foundation Foundation.Bytes Api Wifi Wpa Service Service.NetRemoteService
open AccessPointControllerLinux (acknowledging settingsOf)
open Wpa.Hostapd (installed withIdentifier)

-- What a configuration asks of the controller, in the client's own terms.
def requestsOf (configuration : Ieee80211AccessPointConfiguration) : List ControllerRequest :=
  let authenticationData := configuration.authenticationData
  configuration.phyType.toList.map .SetPhyType ++
  (if configuration.authenticationAlgorithms ≠ [] then
    [.SetAuthenticationAlgorithms configuration.authenticationAlgorithms]
  else []) ++
  (if authenticationData.psk.isSome || authenticationData.sae.isSome then
    [.SetAuthenticationData authenticationData]
  else []) ++
  (if configuration.akmSuites ≠ [] then [.SetAkmSuites configuration.akmSuites] else []) ++
  (if configuration.pairwiseCipherSuites ≠ ∅ then
    [.SetPairwiseCipherSuites configuration.pairwiseCipherSuites]
  else []) ++
  configuration.ssid.toList.map .SetSsid ++
  (if configuration.frequencyBands ≠ [] then [.SetFrequencyBands configuration.frequencyBands]
  else [])

def IdentifiersGiven (configuration : Ieee80211AccessPointConfiguration) : Prop :=
  ∀ passwords ∈ configuration.authenticationData.sae, ∀ password ∈ passwords,
    password.passwordId ≠ some []

section Requests

variable {platform : Service.Platform} {configuration : Ieee80211AccessPointConfiguration}
  {traversal : Table.Traversal Ieee80211SecurityProtocol (List Ieee80211CipherSuite)}

theorem requests_phyType (h : configuration.phyType ≠ some .Unknown) :
    let phyType := (dot11AccessPointConfigurationOf traversal configuration).phyType
    (if phyType ≠ Dot11PhyTypeUnknown then
      [ControllerRequest.SetPhyType (fromDot11PhyType phyType)]
    else []) = configuration.phyType.toList.map .SetPhyType := by
  unfold dot11AccessPointConfigurationOf
  cases hphyType : configuration.phyType with
  | none => exact if_neg (not_not.mpr rfl)
  | some phyType =>
      have hknown : phyType ≠ .Unknown := fun heq => h (hphyType.trans (congrArg some heq))
      dsimp only [Option.elim_some]
      rw [if_pos (toDot11PhyType_ne_unknown hknown), fromDot11PhyType_toDot11PhyType]
      rfl

-- A list goes out and comes back, and is not empty where it was not.
theorem requests_list {α β : Type} [DecidableEq α] [DecidableEq β]
    (request : List α → ControllerRequest) (items : List α) {forth : α → β} {back : β → α}
    (h : ∀ item ∈ items, back (forth item) = item) :
    (if items.map forth ≠ [] then [request ((items.map forth).map back)] else []) =
      if items ≠ [] then [request items] else [] := by
  rw [map_map_of_left_inverse h]
  simp only [ne_eq, List.map_eq_nil_iff]

theorem requests_authenticationData (h : IdentifiersGiven configuration) :
    let authenticationData :=
      (dot11AccessPointConfigurationOf traversal configuration).authenticationData.getD {}
    (if authenticationData.psk.isSome || authenticationData.sae.isSome then
      [ControllerRequest.SetAuthenticationData (fromDot11AuthenticationData authenticationData)]
    else []) =
      if configuration.authenticationData.psk.isSome ||
          configuration.authenticationData.sae.isSome then
        [.SetAuthenticationData configuration.authenticationData]
      else [] := by
  unfold dot11AccessPointConfigurationOf fromDot11AuthenticationData
  unfold IdentifiersGiven at h
  generalize configuration.authenticationData = authenticationData at h
  obtain ⟨psk, sae⟩ := authenticationData
  have hpsk : (psk.map toDot11AuthenticationDataPsk).map fromDot11AuthenticationDataPsk = psk := by
    cases psk with
    | none => rfl
    | some psk =>
        exact congrArg some (fromDot11AuthenticationDataPsk_toDot11AuthenticationDataPsk psk)
  have hsae : (sae.map toDot11AuthenticationDataSae).map fromDot11AuthenticationDataSae = sae := by
    cases sae with
    | none => rfl
    | some passwords =>
        exact congrArg some (fromDot11AuthenticationDataSae_toDot11AuthenticationDataSae
          (h passwords rfl))
  by_cases hnone : (psk.isNone && sae.isNone) = true
  · rw [Bool.and_eq_true, Option.isNone_iff_eq_none, Option.isNone_iff_eq_none] at hnone
    obtain ⟨rfl, rfl⟩ := hnone
    rfl
  · dsimp only
    rw [if_neg hnone, Option.getD_some, hpsk, hsae, Option.isSome_map, Option.isSome_map]

theorem requests_pairwiseCipherSuites (h : Known configuration) :
    let pairwiseCipherSuites :=
      (dot11AccessPointConfigurationOf traversal configuration).pairwiseCipherSuites
    let ciphers :=
      (received traversal platform.dot11CipherSuites configuration).pairwiseCipherSuites
    (if pairwiseCipherSuites ≠ [] then
      [ControllerRequest.SetPairwiseCipherSuites
        (fromDot11CipherSuiteConfigurations platform.dot11CipherSuites
          (toDot11CipherSuiteConfigurations pairwiseCipherSuites))]
    else []) = if ciphers ≠ ∅ then [.SetPairwiseCipherSuites ciphers] else [] := by
  intro pairwiseCipherSuites ciphers
  have hempty : pairwiseCipherSuites = [] ↔ ciphers = ∅ := by
    rw [Table.eq_empty_iff]
    simp only [ciphers, received_pairwiseCipherSuites h]
    rw [← Table.eq_empty_iff]
    exact List.map_eq_nil_iff.trans traversal.visit_eq_nil_iff
  by_cases hnone : pairwiseCipherSuites = []
  · rw [if_neg (not_not.mpr hnone), if_neg (not_not.mpr (hempty.mp hnone))]
  · rw [if_pos hnone, if_pos fun heq => hnone (hempty.mpr heq)]
    rfl

theorem requests_ssid :
    (dot11AccessPointConfigurationOf traversal configuration).ssid.toList.flatMap ssidRequest =
      configuration.ssid.toList.map .SetSsid := by
  unfold dot11AccessPointConfigurationOf
  cases configuration.ssid <;> rfl

theorem configurationRequests_eq (h : Known configuration) (hids : IdentifiersGiven configuration) :
    configurationRequests platform (dot11AccessPointConfigurationOf traversal configuration) =
      requestsOf { configuration with
        pairwiseCipherSuites :=
          (received traversal platform.dot11CipherSuites configuration).pairwiseCipherSuites } := by
  -- There is nothing for 802.1X, which follows the PHY type.
  refine congrArg₂ (· ++ ·) (congrArg₂ (· ++ ·) (congrArg₂ (· ++ ·) (congrArg₂ (· ++ ·)
    (congrArg₂ (· ++ ·) (congrArg₂ (· ++ ·) ?_ ?_) ?_) ?_) ?_) requests_ssid) ?_
  · exact (List.append_nil _).trans (requests_phyType h.phyType)
  · exact requests_list _ _ fun _ _ =>
      fromDot11AuthenticationAlgorithm_toDot11AuthenticationAlgorithm _
  · exact requests_authenticationData hids
  · exact requests_list _ _ fun akmSuite hmem =>
      fromDot11AkmSuite_toDot11AkmSuite (h.akmSuites akmSuite hmem).2
  · exact requests_pairwiseCipherSuites h
  · exact requests_list _ _ fun _ _ => fromDot11FrequencyBand_toDot11FrequencyBand _

end Requests

-- Whatever the machine does, what is installed are settings of the client's configuration,
-- from their start, and all of them when the call succeeds.
theorem enable_installs (platform : Service.Platform)
    (accessPointManager : IAccessPointManager System)
    (hlinux : OnLinux platform accessPointManager)
    (traversal : Table.Traversal Ieee80211SecurityProtocol (List Ieee80211CipherSuite))
    (accessPointId : ByteString) (configuration : Ieee80211AccessPointConfiguration)
    (h : Known configuration) (hids : IdentifiersGiven configuration)
    (trace : List System.Exchange) (outcome : Except Fault WifiAccessPointOperationStatus)
    (hruns :
      let request := wifiAccessPointEnable traversal accessPointId (some configuration)
      (answer platform accessPointManager
        (.Enable request.accessPointId request.configuration)).Runs trace outcome) :
    ∃ (ciphers : CipherSuites) (identifier : ByteString),
      (∀ protocol, ciphers.lookup protocol = configuration.pairwiseCipherSuites.lookup protocol) ∧
      let settings :=
        ((requestsOf { configuration with pairwiseCipherSuites := ciphers }).flatMap
          (settingsOf platform.toWifi)).map (withIdentifier identifier)
      installed trace <+: settings ∧
        ∀ status, outcome = .ok status → status.code = .Succeeded →
          installed trace = settings := by
  obtain ⟨identifier, hinstalled⟩ := answer_installs hlinux _ trace outcome hruns
  refine ⟨(received traversal platform.dot11CipherSuites configuration).pairwiseCipherSuites,
    identifier, received_pairwiseCipherSuites h, ?_⟩
  rw [← configurationRequests_eq h hids]
  exact hinstalled

def enableHomeRun : List System.Exchange × Except Fault WifiAccessPointOperationStatus :=
  (answer defaultPlatform oneInterface (.Enable (str "wlan0")
    (wifiAccessPointEnable default (str "wlan0") (some homeConfiguration)).configuration)).run
      (acknowledging none) []

theorem enable_installs_home :
    ∃ (ciphers : CipherSuites) (identifier : ByteString),
      (∀ protocol,
        ciphers.lookup protocol = homeConfiguration.pairwiseCipherSuites.lookup protocol) ∧
      let settings :=
        ((requestsOf { homeConfiguration with pairwiseCipherSuites := ciphers }).flatMap
          (settingsOf defaultPlatform.toWifi)).map (withIdentifier identifier)
      installed enableHomeRun.1 <+: settings ∧
        ∀ status, enableHomeRun.2 = .ok status → status.code = .Succeeded →
          installed enableHomeRun.1 = settings :=
  enable_installs defaultPlatform oneInterface onLinux_oneInterface default (str "wlan0")
    homeConfiguration known_homeConfiguration nofun enableHomeRun.1 enableHomeRun.2
    (Program.runs_run _ _)

end NetRemote.Cli.NetRemoteCliHandlerOperations
