import NetRemote.Cli.NetRemoteCli

namespace NetRemote.Cli.AccessPointEnable

open Foundation.Bytes Wifi Service

-- A password as it was given, with the peer that it is for.
def SaysPassword (argument : SaePasswordArgument) (password : Ieee80211RsnaPassword) : Prop :=
  password.credential = argument.1 ∧ password.passwordId = argument.2.1 ∧
    ∀ peer, argument.2.2 = some peer →
      ∃ address, ieee80211MacAddressFromString peer = some address ∧
        password.peerMacAddress = some address

-- The configuration has every value that was given.
structure Contains (cliData : NetRemoteCliData)
    (configuration : Ieee80211AccessPointConfiguration) : Prop where
  ssid : cliData.wifiAccessPointSsid ≠ [] → configuration.ssid = some cliData.wifiAccessPointSsid
  phyType : cliData.wifiAccessPointPhyType ≠ .Unknown →
    configuration.phyType = some cliData.wifiAccessPointPhyType
  frequencyBands : cliData.wifiAccessPointFrequencyBands ≠ [] →
    configuration.frequencyBands = cliData.wifiAccessPointFrequencyBands
  authenticationAlgorithms : cliData.wifiAccessPointAuthenticationAlgorithms ≠ [] →
    configuration.authenticationAlgorithms = cliData.wifiAccessPointAuthenticationAlgorithms
  akmSuites : cliData.wifiAccessPointAkmSuites ≠ [] →
    configuration.akmSuites = cliData.wifiAccessPointAkmSuites
  pskPassphrase : cliData.wifiAccessPointPskPassphrase ≠ [] →
    configuration.authenticationData.psk = some (.Passphrase cliData.wifiAccessPointPskPassphrase)
  pskHex : cliData.wifiAccessPointPskHex ≠ [] →
    ∃ value, parseHexString cliData.wifiAccessPointPskHex Ieee80211RsnaPskLength = some value ∧
      configuration.authenticationData.psk = some (.Value value)
  saePasswords : cliData.wifiAccessPointSaePasswords ≠ [] →
    ∃ passwords, configuration.authenticationData.sae = some passwords ∧
      List.Forall₂ SaysPassword cliData.wifiAccessPointSaePasswords passwords

-- A key in hexadecimal form that cannot be parsed.
def BadKey (cliData : NetRemoteCliData) : Prop :=
  cliData.wifiAccessPointPskHex ≠ [] ∧
    parseHexString cliData.wifiAccessPointPskHex Ieee80211RsnaPskLength = none

-- A peer address that cannot be parsed.
def BadPeer (argument : SaePasswordArgument) : Prop :=
  ∃ peer, argument.2.2 = some peer ∧ ieee80211MacAddressFromString peer = none

def Unparsable (cliData : NetRemoteCliData) : Prop :=
  BadKey cliData ∨ ∃ argument ∈ cliData.wifiAccessPointSaePasswords, BadPeer argument

-- What is passed on is complete, and what cannot be parsed is reported instead.
def NothingDropped (cliData : NetRemoteCliData) : Prop :=
  (∀ accessPointId configuration, wifiAccessPointEnableCallback cliData =
      .OnWifiAccessPointEnable accessPointId configuration →
    accessPointId = cliData.wifiAccessPointId ∧ Contains cliData configuration) ∧
  (Unparsable cliData → ∃ message, wifiAccessPointEnableCallback cliData = .Failure message)

section Key

variable {cliData : ParsedCliData}

theorem pskOf_of_badKey (h : BadKey cliData.toNetRemoteCliData) :
    pskOf cliData.toNetRemoteCliData =
      .error (str "Failed to parse PSK value (must be 64 hex characters)") := by
  rw [pskOf, if_pos h.1, h.2]

-- The key that is passed on is the one that was given, in either form.
theorem pskOf_of_not_badKey (h : ¬ BadKey cliData.toNetRemoteCliData) :
    ∃ psk, pskOf cliData.toNetRemoteCliData = .ok psk ∧
      (cliData.wifiAccessPointPskPassphrase ≠ [] →
        psk = some (.Passphrase cliData.wifiAccessPointPskPassphrase)) ∧
      (cliData.wifiAccessPointPskHex ≠ [] →
        ∃ value, parseHexString cliData.wifiAccessPointPskHex Ieee80211RsnaPskLength = some value ∧
          psk = some (.Value value)) := by
  unfold pskOf
  by_cases hhex : cliData.wifiAccessPointPskHex = []
  · rw [if_neg (not_not.mpr hhex)]
    by_cases hpassphrase : cliData.wifiAccessPointPskPassphrase = []
    · rw [if_neg (not_not.mpr hpassphrase)]
      exact ⟨none, rfl, fun hgiven => absurd hpassphrase hgiven, fun hgiven => absurd hhex hgiven⟩
    · rw [if_pos hpassphrase]
      exact ⟨_, rfl, fun _ => rfl, fun hgiven => absurd hhex hgiven⟩
  · have hpassphrase := cliData.excludes.resolve_right hhex
    rw [if_pos hhex]
    cases hvalue : parseHexString cliData.wifiAccessPointPskHex Ieee80211RsnaPskLength with
    | none => exact absurd ⟨hhex, hvalue⟩ h
    | some value =>
        exact ⟨_, rfl, fun hgiven => absurd hpassphrase hgiven, fun _ => ⟨value, rfl, rfl⟩⟩

end Key

section Passwords

theorem saysPassword_iff (argument : SaePasswordArgument) :
    SaysPassword argument (parseSaePasswordCliArgument argument) ↔ ¬ BadPeer argument := by
  obtain ⟨credential, passwordId, peer⟩ := argument
  constructor
  · rintro ⟨-, -, hpeer⟩ ⟨text, htext, hbad⟩
    obtain ⟨address, haddress, -⟩ := hpeer text htext
    rw [hbad] at haddress
    cases haddress
  · intro hgood
    refine ⟨rfl, rfl, fun text htext => ?_⟩
    dsimp only at htext
    cases haddress : ieee80211MacAddressFromString text with
    | none => exact absurd ⟨text, htext, haddress⟩ hgood
    | some address =>
        refine ⟨address, rfl, ?_⟩
        rw [parseSaePasswordCliArgument, htext, Option.bind_some, haddress]

theorem saysPasswords_iff (saePasswords : List SaePasswordArgument) :
    List.Forall₂ SaysPassword saePasswords (saePasswords.map parseSaePasswordCliArgument) ↔
      ∀ argument ∈ saePasswords, ¬ BadPeer argument := by
  rw [List.forall₂_map_right_iff, List.forall₂_same]
  exact forall₂_congr fun argument _ => saysPassword_iff argument

end Passwords

variable (cliData : ParsedCliData)

-- The algorithms and the suites are not copied, and an address that cannot be
-- parsed leaves its password without a peer.
theorem nothingDropped_iff :
    NothingDropped cliData.toNetRemoteCliData ↔
      BadKey cliData.toNetRemoteCliData ∨
        cliData.wifiAccessPointAuthenticationAlgorithms = [] ∧
          cliData.wifiAccessPointAkmSuites = [] ∧
          ∀ argument ∈ cliData.wifiAccessPointSaePasswords, ¬ BadPeer argument := by
  by_cases hkey : BadKey cliData.toNetRemoteCliData
  · have hcallback : wifiAccessPointEnableCallback cliData.toNetRemoteCliData =
        .Failure (str "Failed to parse PSK value (must be 64 hex characters)") := by
      rw [wifiAccessPointEnableCallback, pskOf_of_badKey hkey]
    refine iff_of_true ⟨fun accessPointId configuration hcall => ?_, fun _ => ⟨_, hcallback⟩⟩
      (.inl hkey)
    rw [hcallback] at hcall
    cases hcall
  · obtain ⟨psk, hpsk, hpassphrase, hhex⟩ := pskOf_of_not_badKey hkey
    rw [or_iff_right hkey]
    constructor
    · rintro ⟨hcomplete, hreported⟩
      have hpeers : ∀ argument ∈ cliData.wifiAccessPointSaePasswords, ¬ BadPeer argument := by
        intro argument hargument hbad
        obtain ⟨message, hmessage⟩ := hreported (.inr ⟨argument, hargument, hbad⟩)
        rw [wifiAccessPointEnableCallback, hpsk] at hmessage
        cases hmessage
      have hcontains := (hcomplete _ _ (by rw [wifiAccessPointEnableCallback, hpsk])).2
      refine ⟨?_, ?_, hpeers⟩
      · by_contra hgiven
        exact hgiven (hcontains.authenticationAlgorithms hgiven).symm
      · by_contra hgiven
        exact hgiven (hcontains.akmSuites hgiven).symm
    · rintro ⟨halgorithms, hakmSuites, hpeers⟩
      constructor
      · intro accessPointId configuration hcall
        rw [wifiAccessPointEnableCallback, hpsk] at hcall
        cases hcall
        exact ⟨rfl, {
          ssid := fun hgiven => if_pos hgiven
          phyType := fun hgiven => if_pos hgiven
          frequencyBands := fun _ => rfl
          authenticationAlgorithms := fun hgiven => absurd halgorithms hgiven
          akmSuites := fun hgiven => absurd hakmSuites hgiven
          pskPassphrase := hpassphrase
          pskHex := hhex
          saePasswords := fun hgiven =>
            ⟨_, if_pos hgiven, (saysPasswords_iff _).mpr hpeers⟩ }⟩
      · rintro (hbad | ⟨argument, hargument, hbad⟩)
        · exact absurd hbad hkey
        · exact absurd hbad (hpeers argument hargument)

-- `--ssid home --akm sae --sae secret`
def saeOptions : ParsedCliData where
  wifiAccessPointId := str "wlan0"
  wifiAccessPointSsid := str "home"
  wifiAccessPointAkmSuites := [.Sae]
  wifiAccessPointSaePasswords := [(str "secret", none, none)]
  excludes := .inl rfl

-- `--sae secret guest nonsense`
def peerOptions : ParsedCliData where
  wifiAccessPointId := str "wlan0"
  wifiAccessPointSaePasswords := [(str "secret", some (str "guest"), some (str "nonsense"))]
  excludes := .inl rfl

-- The suite is lost, and the password is set for every peer.
theorem options_dropped :
    wifiAccessPointEnableCallback saeOptions.toNetRemoteCliData =
        .OnWifiAccessPointEnable (str "wlan0") {
          ssid := some (str "home")
          authenticationData := ⟨none, some [⟨str "secret", none, none⟩]⟩ } ∧
      ¬ NothingDropped saeOptions.toNetRemoteCliData ∧
      wifiAccessPointEnableCallback peerOptions.toNetRemoteCliData =
        .OnWifiAccessPointEnable (str "wlan0") {
          authenticationData := ⟨none, some [⟨str "secret", some (str "guest"), none⟩]⟩ } ∧
      ¬ NothingDropped peerOptions.toNetRemoteCliData := by
  have hpeer : ieee80211MacAddressFromString (str "nonsense") = none := by decide
  refine ⟨rfl, ?_, ?_, ?_⟩
  · intro hnothing
    have hcontains := (hnothing.1 _ _ rfl).2
    have hsuites := hcontains.akmSuites (by decide)
    cases hsuites
  · rfl
  · intro hnothing
    obtain ⟨message, hmessage⟩ := hnothing.2 (.inr ⟨_, List.mem_singleton.mpr rfl, _, rfl, hpeer⟩)
    cases hmessage

end NetRemote.Cli.AccessPointEnable
