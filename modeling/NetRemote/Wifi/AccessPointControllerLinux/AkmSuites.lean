import NetRemote.Wifi.AccessPointControllerLinux.Theorems
import NetRemote.Wpa.Hostapd.Settings

namespace NetRemote.Wifi.AccessPointControllerLinux

open Foundation Foundation.Bytes Wpa Wpa.Hostapd

-- The name that hostapd has for a suite.
def akmName : Ieee80211AkmSuite → ByteString
  | .Ieee8021x => str "WPA-EAP"
  | .Psk => str "WPA-PSK"
  | .Ft8021x => str "FT-EAP"
  | .FtPsk => str "FT-PSK"
  | .Ieee8021xSha256 => str "WPA-EAP-SHA256"
  | .PskSha256 => str "WPA-PSK-SHA256"
  | .Sae => str "SAE"
  | .FtSae => str "FT-SAE"
  | .Ieee8021xSuiteB => str "WPA-EAP-SUITE-B"
  | .Ieee8011xSuiteB192 => str "WPA-EAP-SUITE-B-192"
  | .Ft8021xSha384 => str "FT-EAP-SHA384"
  | .FilsSha256 => str "FILS-SHA256"
  | .FilsSha384 => str "FILS-SHA384"
  | .FtFilsSha256 => str "FT-FILS-SHA256"
  | .FtFilsSha384 => str "FT-FILS-SHA384"
  | .Owe => str "OWE"
  | .Pasn => str "PASN"
  | _ => []

-- What the code makes of a suite.
def akmToken (akmSuite : Ieee80211AkmSuite) : ByteString :=
  wpaKeyManagementPropertyValue (ieee80211AkmSuiteToWpaKeyManagement akmSuite)

-- The suites that are not refused.
def Named (akmSuite : Ieee80211AkmSuite) : Prop := akmToken akmSuite ≠ WpaKeyManagementInvalidValue

instance (akmSuite : Ieee80211AkmSuite) : Decidable (Named akmSuite) :=
  inferInstanceAs (Decidable (_ ≠ _))

-- The suite that a key management stands for.
def akmSuiteOf : WpaKeyManagement → Ieee80211AkmSuite
  | .Ieee8021x => .Ieee8021x
  | .Psk => .Psk
  | .FtIeee8021x => .Ft8021x
  | .FtPsk => .FtPsk
  | .Ieee8021xSha256 => .Ieee8021xSha256
  | .PskSha256 => .PskSha256
  | .Sae => .Sae
  | .FtSae => .FtSae
  | .Ieee8021xSuiteB => .Ieee8021xSuiteB
  | .Ieee8021xSuiteB192 => .Ieee8011xSuiteB192
  | .FtIeee8021xSha384 => .Ft8021xSha384
  | .FilsSha256 => .FilsSha256
  | .FilsSha384 => .FilsSha384
  | .FtFilsSha256 => .FtFilsSha256
  | .Owe => .Owe
  | _ => .Unknown

def akmValue (akmSuites : List Ieee80211AkmSuite) : ByteString :=
  (akmSuites.flatMap fun akmSuite => akmToken akmSuite ++ str " ").dropLast

def keyManagementProperty (propertyName : ByteString) : Bool :=
  propertyName = ProtocolHostapd.PropertyNameWpaKeyManagement

-- The value has the names of the suites, position by position, and no other suite
-- and no other list is sent in the same way.
structure Recoverable (akmSuites : List Ieee80211AkmSuite) (value : ByteString) : Prop where
  names : value.splitOn 32 = akmSuites.map akmName
  distinct : ∀ akmSuite ∈ akmSuites, ∀ other, Named other →
    akmToken other = akmToken akmSuite → other = akmSuite
  recovered : ∀ others, others ≠ [] → (∀ other ∈ others, Named other) →
    akmValue others = value → others = akmSuites

section Tokens

theorem akmToken_other (value : UInt32) : akmToken (.Other value) = akmToken .Unknown := rfl

theorem space_not_mem_akmToken (akmSuite : Ieee80211AkmSuite) : 32 ∉ akmToken akmSuite := by
  cases akmSuite with
  | Other value =>
      rw [akmToken_other]
      decide
  | _ => decide

theorem akmToken_eq_akmName {akmSuite : Ieee80211AkmSuite} (hnamed : Named akmSuite) :
    akmToken akmSuite = akmName akmSuite ↔ akmSuite ≠ .FtFilsSha384 := by
  cases akmSuite <;> first | decide | exact absurd rfl hnamed

theorem akmSuiteOf_wpaKeyManagement {akmSuite : Ieee80211AkmSuite} (hnamed : Named akmSuite)
    (hft : akmSuite ≠ .FtFilsSha384) :
    akmSuiteOf (wpaKeyManagementFromPropertyValue (akmToken akmSuite)) = akmSuite := by
  cases akmSuite <;> first | decide | exact absurd rfl hnamed | exact absurd rfl hft

-- Two suites share a token.
theorem akmToken_injective {akmSuite other : Ieee80211AkmSuite} (hnamed : Named akmSuite)
    (hfils : akmSuite ≠ .FilsSha384) (hft : akmSuite ≠ .FtFilsSha384) (hother : Named other)
    (h : akmToken other = akmToken akmSuite) : other = akmSuite := by
  have hsuite := akmSuiteOf_wpaKeyManagement hnamed hft
  by_cases hcase : other = .FtFilsSha384
  · have htoken : akmSuiteOf (wpaKeyManagementFromPropertyValue (akmToken .FtFilsSha384)) =
        .FilsSha384 := by decide
    rw [hcase] at h
    rw [← h, htoken] at hsuite
    exact absurd hsuite.symm hfils
  · rw [← h, akmSuiteOf_wpaKeyManagement hother hcase] at hsuite
    exact hsuite

theorem splitOn_akmValue {akmSuites : List Ieee80211AkmSuite} (h : akmSuites ≠ []) :
    (akmValue akmSuites).splitOn 32 = akmSuites.map akmToken :=
  splitOn_dropLast_flatMap h fun akmSuite _ => space_not_mem_akmToken akmSuite

theorem eq_of_map_akmToken {akmSuites others : List Ieee80211AkmSuite}
    (hdistinct : ∀ akmSuite ∈ akmSuites, ∀ other, Named other →
      akmToken other = akmToken akmSuite → other = akmSuite)
    (hnamed : ∀ other ∈ others, Named other)
    (h : others.map akmToken = akmSuites.map akmToken) : others = akmSuites := by
  induction others generalizing akmSuites with
  | nil => exact (List.map_eq_nil_iff.mp h.symm).symm
  | cons other others ih =>
      cases akmSuites with
      | nil => cases h
      | cons akmSuite akmSuites =>
          rw [List.forall_mem_cons] at hdistinct hnamed
          obtain ⟨htoken, hrest⟩ := List.cons.inj h
          rw [hdistinct.1 other hnamed.1 htoken, ih hdistinct.2 hnamed.2 hrest]

theorem recoverable_iff {akmSuites : List Ieee80211AkmSuite} (hempty : akmSuites ≠ [])
    (hnamed : ∀ akmSuite ∈ akmSuites, Named akmSuite) :
    Recoverable akmSuites (akmValue akmSuites) ↔
      ∀ akmSuite ∈ akmSuites, akmSuite ≠ .FilsSha384 ∧ akmSuite ≠ .FtFilsSha384 := by
  constructor
  · intro hrecoverable akmSuite hmem
    constructor
    · rintro rfl
      have hsame := hrecoverable.distinct _ hmem .FtFilsSha384 (by decide) rfl
      cases hsame
    · rintro rfl
      have hsame := hrecoverable.distinct _ hmem .FilsSha384 (by decide) rfl
      cases hsame
  · intro hplain
    have hdistinct : ∀ akmSuite ∈ akmSuites, ∀ other, Named other →
        akmToken other = akmToken akmSuite → other = akmSuite := by
      intro akmSuite hmem other hother htoken
      exact akmToken_injective (hnamed akmSuite hmem) (hplain akmSuite hmem).1
        (hplain akmSuite hmem).2 hother htoken
    refine ⟨?_, hdistinct, ?_⟩
    · rw [splitOn_akmValue hempty]
      apply List.map_congr_left
      intro akmSuite hmem
      exact (akmToken_eq_akmName (hnamed akmSuite hmem)).mpr (hplain akmSuite hmem).2
    · intro others hothers hnamedOthers hvalue
      have htokens := congrArg (List.splitOn 32) hvalue
      rw [splitOn_akmValue hothers, splitOn_akmValue hempty] at htokens
      exact eq_of_map_akmToken hdistinct hnamedOthers htokens

end Tokens

section Sent

variable {α β : Type} {watched : ByteString → Bool} {setting : Setting}

-- However it ends, the program has sent the setting once or not at all.
def SentAtMost (watched : ByteString → Bool) (setting : Setting)
    (past now : List System.Exchange) : Prop :=
  settings watched now = settings watched past ∨
    settings watched now = settings watched past ++ [setting]

def SendsAtMost (watched : ByteString → Bool) (setting : Setting) (program : Wpa.Action α) : Prop :=
  ∀ past, program.wp past (fun now _ => SentAtMost watched setting past now)
    (fun now _ => SentAtMost watched setting past now)

theorem wp_unwatched {program : Wpa.Action α} (past : List System.Exchange)
    (h : program.Within (Unwatched watched)) :
    program.wp past (fun now _ => settings watched now = settings watched past)
      (fun now _ => settings watched now = settings watched past) :=
  Program.wp_of_within (settings watched)
    (fun past _ reply hrequest => settings_unwatched past reply hrequest) past h

theorem sentAtMost_of_eq {past now later : List System.Exchange}
    (h : SentAtMost watched setting past now)
    (hsame : settings watched later = settings watched now) :
    SentAtMost watched setting past later := by
  rcases h with h | h
  · exact .inl (hsame.trans h)
  · exact .inr (hsame.trans h)

theorem sendsAtMost_of_within {program : Wpa.Action α} (h : program.Within (Unwatched watched)) :
    SendsAtMost watched setting program := by
  intro past
  apply Program.wp_mono (wp_unwatched past h)
  · exact fun _ _ hsame => .inl hsame
  · exact fun _ _ hsame => .inl hsame

theorem sendsAtMost_after {block : Wpa.Action α} {next : α → Wpa.Action β}
    (hblock : block.Within (Unwatched watched))
    (hnext : ∀ value, SendsAtMost watched setting (next value)) :
    SendsAtMost watched setting (block >>= next) := by
  intro past
  rw [Program.wp_bind]
  apply Program.wp_mono (wp_unwatched past hblock)
  · intro now value hsame
    have hrest := hnext value now
    unfold SentAtMost at hrest
    rw [hsame] at hrest
    exact hrest
  · exact fun _ _ hsame => .inl hsame

theorem sendsAtMost_before {block : Wpa.Action α} {next : α → Wpa.Action β}
    {handler : Fault → Wpa.Action β}
    (hblock : SendsAtMost watched setting block)
    (hnext : ∀ value, (next value).Within (Unwatched watched))
    (hhandler : ∀ fault, (handler fault).Within (Unwatched watched)) :
    SendsAtMost watched setting (block.attempt next handler) := by
  have hrest {program : Wpa.Action β} {past now : List System.Exchange}
      (hsent : SentAtMost watched setting past now) (h : program.Within (Unwatched watched)) :
      program.wp now (fun later _ => SentAtMost watched setting past later)
        (fun later _ => SentAtMost watched setting past later) := by
    apply Program.wp_mono (wp_unwatched now h)
    · exact fun _ _ hsame => sentAtMost_of_eq hsent hsame
    · exact fun _ _ hsame => sentAtMost_of_eq hsent hsame
  intro past
  rw [Program.wp_attempt]
  apply Program.wp_mono (hblock past)
  · exact fun _ value hsent => hrest hsent (hnext value)
  · exact fun _ fault hsent => hrest hsent (hhandler fault)

theorem sendsAtMost_set (propertyName propertyValue : ByteString) :
    SendsAtMost watched (propertyName, propertyValue)
      (sendCommand (.Set propertyName propertyValue)) := by
  intro past reply
  have hset := settings_set watched past propertyName propertyValue reply
  by_cases hwatched : watched propertyName
  · have hkept : [(propertyName, propertyValue)].filter (fun setting => watched setting.1) =
        [(propertyName, propertyValue)] := List.filter_cons_of_pos hwatched
    rw [hkept] at hset
    exact .inr hset
  · have hdropped : [(propertyName, propertyValue)].filter (fun setting => watched setting.1) =
        [] := List.filter_cons_of_neg hwatched
    rw [hdropped, List.append_nil] at hset
    exact .inl hset

theorem sendsAtMost_setPropertyWith (propertyName propertyValue : ByteString)
    (enforceConfigurationChange : EnforceConfigurationChange)
    (message : ByteString → ByteString) :
    SendsAtMost watched (propertyName, propertyValue)
      (setPropertyWith propertyName propertyValue enforceConfigurationChange message) := by
  apply sendsAtMost_before
  · apply sendsAtMost_before (sendsAtMost_set propertyName propertyValue)
    · intro reply
      split
      · trivial
      · split_ifs
        · trivial
        · cases enforceConfigurationChange with
          | Defer => trivial
          | Now => exact within_rethrow _ within_reload
    · exact fun _ => trivial
  · exact fun _ => trivial
  · exact within_catching fun _ => trivial

end Sent

section Sets

variable (platform : Platform) (interfaceName : ByteString) (akmSuites : List Ieee80211AkmSuite)

def akmSetting : Setting := (ProtocolHostapd.PropertyNameWpaKeyManagement, akmValue akmSuites)

theorem sendsAtMost_setKeyManagement (enforceConfigurationChange : EnforceConfigurationChange) :
    SendsAtMost keyManagementProperty (akmSetting akmSuites)
      (setKeyManagement (akmSuites.map ieee80211AkmSuiteToWpaKeyManagement)
        enforceConfigurationChange) := by
  have hvalue : ((akmSuites.map ieee80211AkmSuiteToWpaKeyManagement).flatMap fun keyManagement =>
      wpaKeyManagementPropertyValue keyManagement ++ str " ").dropLast = akmValue akmSuites := by
    rw [List.flatMap_map]
    rfl
  unfold setKeyManagement
  by_cases hempty : akmSuites.map ieee80211AkmSuiteToWpaKeyManagement = []
  · rw [if_pos hempty]
    exact sendsAtMost_of_within trivial
  · rw [if_neg hempty]
    split
    · exact sendsAtMost_of_within trivial
    · have hrandom : setRandomNetworkAccessServerId.Within (Unwatched keyManagementProperty) :=
        Program.within_bind ⟨trivial, fun _ => trivial⟩ fun _ =>
          within_setPropertyWith (by decide) _ _ _
      dsimp only
      rw [hvalue]
      apply sendsAtMost_after (Program.within_onlyIf _ hrandom)
      intro _
      apply sendsAtMost_after
        (Program.within_onlyIf _ (within_setPropertyWith (by decide) _ _ _))
      intro _
      exact sendsAtMost_setPropertyWith _ _ _ _

theorem sendsAtMost_setAkmSuites :
    SendsAtMost keyManagementProperty (akmSetting akmSuites)
      (setAkmSuites platform interfaceName akmSuites) := by
  unfold setAkmSuites
  dsimp only
  by_cases hempty : akmSuites = []
  · rw [if_pos hempty]
    exact sendsAtMost_of_within trivial
  · rw [if_neg hempty]
    apply sendsAtMost_before (sendsAtMost_setKeyManagement akmSuites .Now)
    · intro _
      apply Program.within_bind (within_getConfiguration _)
      intro configuration
      exact Program.within_bind (Program.within_ofExcept _) fun _ => trivial
    · exact within_catching fun _ => trivial

-- What cannot be rendered is refused before anything is sent.
theorem within_setAkmSuites_of_refused
    (h : ¬ (akmSuites ≠ [] ∧ ∀ akmSuite ∈ akmSuites, Named akmSuite)) :
    (setAkmSuites platform interfaceName akmSuites).Within (Unwatched keyManagementProperty) := by
  unfold setAkmSuites
  dsimp only
  by_cases hempty : akmSuites = []
  · rw [if_pos hempty]
    trivial
  · rw [if_neg hempty]
    unfold setKeyManagement
    rw [if_neg (by simpa using hempty)]
    cases hfound : (akmSuites.map ieee80211AkmSuiteToWpaKeyManagement).find? fun keyManagement =>
        wpaKeyManagementPropertyValue keyManagement = WpaKeyManagementInvalidValue with
    | some keyManagement => trivial
    | none =>
        have hnamed : ∀ akmSuite ∈ akmSuites, Named akmSuite := by
          intro akmSuite hmem
          have hkept := List.find?_eq_none.mp hfound _ (List.mem_map_of_mem hmem)
          simpa [Named, akmToken] using hkept
        exact absurd ⟨hempty, hnamed⟩ h

variable {platform interfaceName akmSuites}

theorem mem_settings_setAkmSuites {trace : List System.Exchange}
    {outcome : Except Fault AccessPointOperationStatus}
    (hruns : (setAkmSuites platform interfaceName akmSuites).Runs trace outcome)
    {setting : Setting} (hsent : setting ∈ settings keyManagementProperty trace) :
    akmSuites ≠ [] ∧ (∀ akmSuite ∈ akmSuites, Named akmSuite) ∧ setting = akmSetting akmSuites := by
  by_cases hvalid : akmSuites ≠ [] ∧ ∀ akmSuite ∈ akmSuites, Named akmSuite
  · have hends := Program.ends_of_wp []
      (sendsAtMost_setAkmSuites platform interfaceName akmSuites []) hruns
    have hsettings : SentAtMost keyManagementProperty (akmSetting akmSuites) [] trace := by
      cases outcome with
      | ok value => exact hends
      | error fault => exact hends
    rcases hsettings with h | h
    · rw [h] at hsent
      cases hsent
    · rw [h] at hsent
      exact ⟨hvalid.1, hvalid.2, List.mem_singleton.mp hsent⟩
  · have hends := Program.ends_of_wp []
      (wp_unwatched [] (within_setAkmSuites_of_refused platform interfaceName akmSuites hvalid))
      hruns
    have hsettings : settings keyManagementProperty trace = [] := by
      cases outcome with
      | ok value => exact hends
      | error fault => exact hends
    rw [hsettings] at hsent
    cases hsent

-- Two suites are sent under one name, which is that of the first.
theorem setAkmSuites_recoverable_iff (platform : Platform) (interfaceName : ByteString)
    (akmSuites : List Ieee80211AkmSuite) (trace : List System.Exchange)
    (outcome : Except Fault AccessPointOperationStatus)
    (hruns : (setAkmSuites platform interfaceName akmSuites).Runs trace outcome)
    (value : ByteString)
    (hsent : (ProtocolHostapd.PropertyNameWpaKeyManagement, value) ∈
      settings keyManagementProperty trace) :
    Recoverable akmSuites value ↔
      ∀ akmSuite ∈ akmSuites, akmSuite ≠ .FilsSha384 ∧ akmSuite ≠ .FtFilsSha384 := by
  obtain ⟨hempty, hnamed, hsetting⟩ := mem_settings_setAkmSuites hruns hsent
  have hvalue : value = akmValue akmSuites := congrArg Prod.snd hsetting
  rw [hvalue]
  exact recoverable_iff hempty hnamed

def setSaeSuites : Wpa.Action AccessPointOperationStatus :=
  setAkmSuites default (str "wlan0") [.Sae, .Psk]

theorem setAkmSuites_recoverable_wlan0 :
    Recoverable [.Sae, .Psk] (str "SAE WPA-PSK") :=
  (setAkmSuites_recoverable_iff default (str "wlan0") [.Sae, .Psk] _ _
    (Program.runs_run (acknowledging none) setSaeSuites) (str "SAE WPA-PSK")
    (by decide +kernel)).mpr (by decide)

def setFilsSuites : Wpa.Action AccessPointOperationStatus :=
  setAkmSuites default (str "wlan0") [.FtFilsSha384]

-- The fast transition is lost.
theorem setAkmSuites_downgrades_wlan0 :
    ∃ trace outcome, setFilsSuites.Runs trace outcome ∧
      (ProtocolHostapd.PropertyNameWpaKeyManagement, str "FILS-SHA384") ∈
        settings keyManagementProperty trace ∧
      ¬ Recoverable [.FtFilsSha384] (str "FILS-SHA384") := by
  refine ⟨_, _, Program.runs_run (acknowledging none) setFilsSuites, by decide +kernel, ?_⟩
  intro hrecoverable
  have hnames := hrecoverable.names
  revert hnames
  decide

end Sets

end NetRemote.Wifi.AccessPointControllerLinux
