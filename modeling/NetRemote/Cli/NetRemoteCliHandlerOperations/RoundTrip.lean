import NetRemote.Cli.NetRemoteCliHandlerOperations

namespace NetRemote.Cli.NetRemoteCliHandlerOperations

open Foundation Foundation.Bytes Api Wifi Service

-- The name of a network in whichever form it was sent, as the service takes it.
def ssidOf : Dot11SsidValue → ByteString
  | .Name name => name
  | .Hex hex => hex
  | .Data data => data

-- What the service reads from each field.
def decoded (traversal : Table.Traversal Dot11SecurityProtocol (List Dot11CipherSuite))
    (dot11AccessPointConfiguration : Dot11AccessPointConfiguration) :
    Ieee80211AccessPointConfiguration where
  ssid := dot11AccessPointConfiguration.ssid.bind fun dot11Ssid => dot11Ssid.value.map ssidOf
  bssid := dot11AccessPointConfiguration.bssid.map fromDot11MacAddress
  phyType :=
    if dot11AccessPointConfiguration.phyType ≠ Dot11PhyTypeUnknown then
      some (fromDot11PhyType dot11AccessPointConfiguration.phyType)
    else none
  akmSuites := dot11AccessPointConfiguration.akmSuites.map fromDot11AkmSuite
  pairwiseCipherSuites := fromDot11CipherSuiteConfigurations traversal
    (toDot11CipherSuiteConfigurations dot11AccessPointConfiguration.pairwiseCipherSuites)
  authenticationAlgorithms :=
    dot11AccessPointConfiguration.authenticationAlgorithms.map fromDot11AuthenticationAlgorithm
  frequencyBands := dot11AccessPointConfiguration.frequencyBands.map fromDot11FrequencyBand
  authenticationData :=
    dot11AccessPointConfiguration.authenticationData.elim {} fromDot11AuthenticationData

-- Enumerators that are known, and not the unknown one.
structure Known (configuration : Ieee80211AccessPointConfiguration) : Prop where
  phyType : configuration.phyType ≠ some .Unknown
  akmSuites : ∀ akmSuite ∈ configuration.akmSuites,
    akmSuite ≠ .Unknown ∧ ∀ value, akmSuite ≠ .Other value
  securityProtocols : Ieee80211SecurityProtocol.Unknown ∉ configuration.pairwiseCipherSuites
  cipherSuites : ∀ protocol cipherSuites,
    configuration.pairwiseCipherSuites.lookup protocol = some cipherSuites →
      ∀ cipherSuite ∈ cipherSuites,
        cipherSuite ≠ .Unknown ∧ ∀ value, cipherSuite ≠ .Other value
  authenticationAlgorithms : .Unknown ∉ configuration.authenticationAlgorithms
  frequencyBands : .Unknown ∉ configuration.frequencyBands

-- Everything but the authentication data is the same, the ciphers as a map.
structure Agrees (sent received : Ieee80211AccessPointConfiguration) : Prop where
  ssid : received.ssid = sent.ssid
  bssid : received.bssid = sent.bssid
  phyType : received.phyType = sent.phyType
  akmSuites : received.akmSuites = sent.akmSuites
  pairwiseCipherSuites : ∀ protocol,
    received.pairwiseCipherSuites.lookup protocol = sent.pairwiseCipherSuites.lookup protocol
  authenticationAlgorithms : received.authenticationAlgorithms = sent.authenticationAlgorithms
  frequencyBands : received.frequencyBands = sent.frequencyBands

theorem map_map_of_left_inverse {α β : Type} {forth : α → β} {back : β → α} {items : List α}
    (h : ∀ item ∈ items, back (forth item) = item) : (items.map forth).map back = items := by
  rw [List.map_map]
  calc items.map (back ∘ forth) = items.map id := List.map_congr_left h
    _ = items := List.map_id items

section Fields

variable {configuration : Ieee80211AccessPointConfiguration}
  {traversal : Table.Traversal Ieee80211SecurityProtocol (List Ieee80211CipherSuite)}
  {traversal' : Table.Traversal Dot11SecurityProtocol (List Dot11CipherSuite)}

abbrev received (traversal : Table.Traversal Ieee80211SecurityProtocol (List Ieee80211CipherSuite))
    (traversal' : Table.Traversal Dot11SecurityProtocol (List Dot11CipherSuite))
    (configuration : Ieee80211AccessPointConfiguration) : Ieee80211AccessPointConfiguration :=
  decoded traversal' (dot11AccessPointConfigurationOf traversal configuration)

theorem received_ssid :
    (received traversal traversal' configuration).ssid = configuration.ssid := by
  cases hssid : configuration.ssid <;> simp [received, decoded, dot11AccessPointConfigurationOf,
    hssid, ssidOf]

-- The address is nowhere in the request.
theorem received_bssid : (received traversal traversal' configuration).bssid = none := rfl

theorem received_phyType (h : configuration.phyType ≠ some .Unknown) :
    (received traversal traversal' configuration).phyType = configuration.phyType := by
  unfold received decoded dot11AccessPointConfigurationOf
  dsimp only
  cases hphyType : configuration.phyType with
  | none => exact if_neg (not_not.mpr rfl)
  | some phyType =>
      have hknown : phyType ≠ .Unknown := fun heq => h (by rw [hphyType, heq])
      rw [Option.elim_some, if_pos (toDot11PhyType_ne_unknown hknown),
        fromDot11PhyType_toDot11PhyType]

-- The map is rekeyed on its way out and rekeyed back on its way in.
theorem received_pairwiseCipherSuites (h : Known configuration)
    (protocol : Ieee80211SecurityProtocol) :
    (received traversal traversal' configuration).pairwiseCipherSuites.lookup protocol =
      configuration.pairwiseCipherSuites.lookup protocol := by
  have hto : toDot11CipherSuiteConfigurations
      (ieee80211ToDot11CipherSuiteConfigurations traversal configuration.pairwiseCipherSuites) =
        traversal.rekey toDot11SecurityProtocol (fun suites => suites.map toDot11CipherSuite)
          configuration.pairwiseCipherSuites := by
    unfold toDot11CipherSuiteConfigurations ieee80211ToDot11CipherSuiteConfigurations
    rw [List.foldl_map]
    rfl
  unfold received decoded dot11AccessPointConfigurationOf
  dsimp only
  rw [hto]
  refine Table.Traversal.lookup_rekey_back fromDot11SecurityProtocol_toDot11SecurityProtocol ?_
    protocol
  intro key cipherSuites hlookup
  exact map_map_of_left_inverse fun cipherSuite hcipherSuite =>
    fromDot11CipherSuite_toDot11CipherSuite
      (h.cipherSuites key cipherSuites hlookup cipherSuite hcipherSuite).2

end Fields

theorem enableRequest_agrees_iff
    (traversal : Table.Traversal Ieee80211SecurityProtocol (List Ieee80211CipherSuite))
    (traversal' : Table.Traversal Dot11SecurityProtocol (List Dot11CipherSuite))
    (accessPointId : ByteString) (configuration : Ieee80211AccessPointConfiguration)
    (h : Known configuration) :
    (∃ dot11AccessPointConfiguration,
        (wifiAccessPointEnable traversal accessPointId (some configuration)).configuration =
          some dot11AccessPointConfiguration ∧
        Agrees configuration (decoded traversal' dot11AccessPointConfiguration)) ↔
      configuration.bssid = none := by
  constructor
  · rintro ⟨_, hrequest, hagrees⟩
    cases hrequest
    exact hagrees.bssid.symm.trans received_bssid
  · intro hbssid
    exact ⟨_, rfl, {
      ssid := received_ssid
      bssid := received_bssid.trans hbssid.symm
      phyType := received_phyType h.phyType
      akmSuites := map_map_of_left_inverse fun akmSuite hakmSuite =>
        fromDot11AkmSuite_toDot11AkmSuite (h.akmSuites akmSuite hakmSuite).2
      pairwiseCipherSuites := received_pairwiseCipherSuites h
      authenticationAlgorithms := map_map_of_left_inverse fun _ _ =>
        fromDot11AuthenticationAlgorithm_toDot11AuthenticationAlgorithm _
      frequencyBands := map_map_of_left_inverse fun _ _ =>
        fromDot11FrequencyBand_toDot11FrequencyBand _ }⟩

def homeConfiguration : Ieee80211AccessPointConfiguration where
  ssid := some (str "home")
  phyType := some .AX
  akmSuites := [.Sae, .Psk]
  pairwiseCipherSuites := Table.emplace ∅ .Wpa2 [.Ccmp128, .Gcmp256]
  authenticationAlgorithms := [.OpenSystem, .Sae]
  frequencyBands := [.FiveGHz, .TwoPointFourGHz]

theorem known_homeConfiguration : Known homeConfiguration where
  phyType := by decide
  akmSuites := by simp [homeConfiguration]
  securityProtocols := by
    rw [← AList.lookup_isSome, homeConfiguration, Table.lookup_emplace]
    decide
  cipherSuites := by
    intro protocol cipherSuites hlookup
    simp only [homeConfiguration, Table.lookup_emplace, AList.lookup_empty] at hlookup
    by_cases hprotocol : protocol = .Wpa2
    · rw [if_pos hprotocol, Option.getD_none, Option.some.injEq] at hlookup
      subst hlookup
      simp
    · rw [if_neg hprotocol] at hlookup
      cases hlookup
  authenticationAlgorithms := by decide
  frequencyBands := by decide

theorem enableRequest_agrees_home :
    (∃ dot11AccessPointConfiguration,
        (wifiAccessPointEnable default (str "wlan0") (some homeConfiguration)).configuration =
          some dot11AccessPointConfiguration ∧
        Agrees homeConfiguration (decoded default dot11AccessPointConfiguration)) :=
  (enableRequest_agrees_iff default default (str "wlan0") homeConfiguration
    known_homeConfiguration).mpr rfl

def pinnedConfiguration : Ieee80211AccessPointConfiguration :=
  { homeConfiguration with bssid := some ⟨[2, 0, 0, 0, 0, 1], rfl⟩ }

theorem known_pinnedConfiguration : Known pinnedConfiguration := { known_homeConfiguration with }

-- A configuration with a BSSID is sent without it.
theorem enableRequest_drops_bssid :
    Known pinnedConfiguration ∧
      ∃ dot11AccessPointConfiguration,
        (wifiAccessPointEnable default (str "wlan0") (some pinnedConfiguration)).configuration =
          some dot11AccessPointConfiguration ∧
        (decoded default dot11AccessPointConfiguration).bssid = none ∧
        ¬ Agrees pinnedConfiguration (decoded default dot11AccessPointConfiguration) := by
  refine ⟨known_pinnedConfiguration, _, rfl, rfl, fun hagrees => ?_⟩
  have hbssid := hagrees.bssid
  cases hbssid

end NetRemote.Cli.NetRemoteCliHandlerOperations
