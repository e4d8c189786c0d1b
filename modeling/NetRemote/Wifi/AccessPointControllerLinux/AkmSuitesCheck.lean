import NetRemote.Wifi.AccessPointControllerLinux.Theorems

namespace NetRemote.Wifi.AccessPointControllerLinux

open Foundation Foundation.Bytes Wpa Wpa.Hostapd

-- The comparison stays within both lists, and it tells whether they are equal.
def ChecksAkmSuites (akmSuites : List Ieee80211AkmSuite)
    (actualKeyManagements : List WpaKeyManagement) : Prop :=
  ∃ same, equal (akmSuites.map ieee80211AkmSuiteToWpaKeyManagement) actualKeyManagements =
      .ok same ∧
    (same = true ↔ akmSuites.map ieee80211AkmSuiteToWpaKeyManagement = actualKeyManagements)

def ProperPrefix (first second : List WpaKeyManagement) : Prop :=
  first <+: second ∧ first.length < second.length

section Comparison

variable {wpaKeyManagements actualKeyManagements : List WpaKeyManagement}

theorem cutShort_iff : cutShort wpaKeyManagements actualKeyManagements = true ↔
    ProperPrefix actualKeyManagements wpaKeyManagements := by
  simp [cutShort, ProperPrefix]

-- Nothing is said about what the second list goes on with.
theorem isPrefix_of_equal {same : Bool}
    (h : equal wpaKeyManagements actualKeyManagements = .ok same) :
    same = true ↔ wpaKeyManagements <+: actualKeyManagements := by
  induction wpaKeyManagements generalizing actualKeyManagements with
  | nil =>
      obtain rfl : true = same := Except.ok.inj h
      exact iff_of_true rfl (List.nil_prefix)
  | cons keyManagement wpaKeyManagements ih =>
      cases actualKeyManagements with
      | nil => cases h
      | cons actual actualKeyManagements =>
          by_cases hsame : keyManagement = actual
          · subst hsame
            rw [equal, if_pos rfl] at h
            rw [ih h, List.prefix_cons_inj]
          · rw [equal, if_neg hsame] at h
            obtain rfl : false = same := Except.ok.inj h
            refine iff_of_false Bool.false_ne_true fun hbegins => ?_
            exact hsame (List.cons_prefix_cons.mp hbegins).1

theorem eq_iff_isPrefix (h : ¬ ProperPrefix wpaKeyManagements actualKeyManagements) :
    wpaKeyManagements = actualKeyManagements ↔ wpaKeyManagements <+: actualKeyManagements := by
  constructor
  · rintro rfl
    exact List.prefix_refl _
  · intro hbegins
    have hlength : ¬ wpaKeyManagements.length < actualKeyManagements.length :=
      fun hshorter => h ⟨hbegins, hshorter⟩
    exact hbegins.eq_of_length_le (by omega)

theorem setAkmSuites_checks_iff (akmSuites : List Ieee80211AkmSuite)
    (actualKeyManagements : List WpaKeyManagement) :
    ChecksAkmSuites akmSuites actualKeyManagements ↔
      ¬ ProperPrefix actualKeyManagements
          (akmSuites.map ieee80211AkmSuiteToWpaKeyManagement) ∧
        ¬ ProperPrefix (akmSuites.map ieee80211AkmSuiteToWpaKeyManagement)
          actualKeyManagements := by
  unfold ChecksAkmSuites
  generalize akmSuites.map ieee80211AkmSuiteToWpaKeyManagement = wpaKeyManagements
  cases hcut : cutShort wpaKeyManagements actualKeyManagements with
  | true =>
      have hshort := cutShort_iff.mp hcut
      rw [equal_of_cutShort hcut]
      exact iff_of_false nofun fun h => h.1 hshort
  | false =>
      have hlong : ¬ ProperPrefix actualKeyManagements wpaKeyManagements := by
        rw [← cutShort_iff, hcut]
        exact Bool.false_ne_true
      obtain ⟨same, hequal⟩ := equal_of_not_cutShort hcut
      rw [and_iff_right hlong]
      constructor
      · rintro ⟨verdict, hverdict, hmeans⟩ ⟨hbegins, hshorter⟩
        have hreported := (isPrefix_of_equal hverdict).mpr hbegins
        have hlists := hmeans.mp hreported
        rw [hlists] at hshorter
        exact lt_irrefl _ hshorter
      · intro hproper
        exact ⟨same, hequal, (isPrefix_of_equal hequal).trans (eq_iff_isPrefix hproper).symm⟩

def setPskSuite : Wpa.Action AccessPointOperationStatus :=
  setAkmSuites default (str "wlan0") [.Psk]

-- The configuration that is read back names no key management at all, or it names one
-- more than was asked for.
theorem setAkmSuites_readsPastEnd :
    (setPskSuite.run (acknowledging (some (str "ssid=guest"))) []).2 =
        .error .UndefinedBehavior ∧
      ¬ ChecksAkmSuites [.Psk] [] ∧
      equal [WpaKeyManagement.Psk] [.Psk, .Sae] = .ok true ∧
      ¬ ChecksAkmSuites [.Psk] [.Psk, .Sae] := by
  refine ⟨by rfl, ?_, by rfl, ?_⟩
  · rintro ⟨same, hequal, -⟩
    cases hequal
  · rintro ⟨same, hequal, hmeans⟩
    obtain rfl : true = same := Except.ok.inj hequal
    exact absurd (hmeans.mp rfl) (by decide)

end Comparison

end NetRemote.Wifi.AccessPointControllerLinux
