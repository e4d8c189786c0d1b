import NetRemote.Wpa.Hostapd.Scripts

namespace NetRemote.Wpa.Hostapd

open Foundation Foundation.Bytes ProtocolWpa

-- The key managements that hostapd has a name for.
def HasName (keyManagement : WpaKeyManagement) : Prop :=
  wpaKeyManagementPropertyValue keyManagement ≠ WpaKeyManagementInvalidValue

instance : DecidablePred HasName := fun _ => inferInstanceAs (Decidable (_ ≠ _))

def keyManagementValue (keyManagements : List WpaKeyManagement) : ByteString :=
  (keyManagements.flatMap fun keyManagement =>
    wpaKeyManagementPropertyValue keyManagement ++ str " ").dropLast

def keyManagementRequest (value : ByteString) : SystemRequest :=
  setRequest (ProtocolHostapd.PropertyNameWpaKeyManagement, value)

def SendsKeyManagement (trace : List System.Exchange) (value : ByteString) : Prop :=
  ∃ exchange ∈ trace, exchange.1 = keyManagementRequest value

section Names

theorem space_not_mem_propertyValue (keyManagement : WpaKeyManagement) :
    32 ∉ wpaKeyManagementPropertyValue keyManagement := by
  cases keyManagement <;> decide

theorem propertyValue_ne_nil (keyManagement : WpaKeyManagement) :
    wpaKeyManagementPropertyValue keyManagement ≠ [] := by
  cases keyManagement <;> decide

-- The two tables are each other's inverse.
theorem fromPropertyValue_propertyValue {keyManagement : WpaKeyManagement}
    (h : HasName keyManagement) :
    wpaKeyManagementFromPropertyValue (wpaKeyManagementPropertyValue keyManagement) =
      keyManagement := by
  revert h
  cases keyManagement <;> decide

theorem fromPropertyValue_keyManagementValue {keyManagements : List WpaKeyManagement}
    (hempty : keyManagements ≠ [])
    (hnames : ∀ keyManagement ∈ keyManagements, HasName keyManagement) :
    wpaKeyManagementsFromPropertyValue (keyManagementValue keyManagements) = keyManagements := by
  have hsplit : (keyManagementValue keyManagements).splitOn 32 =
      keyManagements.map wpaKeyManagementPropertyValue :=
    splitOn_dropLast_flatMap hempty fun keyManagement _ =>
      space_not_mem_propertyValue keyManagement
  have hvalue : keyManagementValue keyManagements ≠ [] := by
    intro hnil
    rw [hnil, List.splitOn_nil] at hsplit
    obtain ⟨keyManagement, -, hname⟩ :=
      List.mem_map.mp (hsplit ▸ List.mem_singleton_self [])
    exact propertyValue_ne_nil keyManagement hname
  unfold wpaKeyManagementsFromPropertyValue split
  rw [if_neg hvalue, hsplit, List.map_map]
  have hback : ∀ keyManagement ∈ keyManagements,
      (wpaKeyManagementFromPropertyValue ∘ wpaKeyManagementPropertyValue) keyManagement =
        keyManagement :=
    fun keyManagement hmem => fromPropertyValue_propertyValue (hnames keyManagement hmem)
  exact (List.map_congr_left hback).trans (List.map_id _)

end Names

section Sent

variable {keyManagements : List WpaKeyManagement}
  {enforceConfigurationChange : EnforceConfigurationChange} {trace : List System.Exchange}
  {outcome : Except Fault Unit}

-- What comes before the key management itself is about other properties.
def Beside (request : SystemRequest) : Prop := ∀ value, request ≠ keyManagementRequest value

theorem allows_beside {propertyName : ByteString}
    (h : propertyName ≠ ProtocolHostapd.PropertyNameWpaKeyManagement)
    (enforceConfigurationChange : EnforceConfigurationChange) :
    Allows Beside enforceConfigurationChange propertyName := by
  refine ⟨fun propertyValue value hsame => ?_, fun _ _ => nofun⟩
  injection hsame with hcommand
  injection hcommand with hname
  exact h hname

theorem runs_setKeyManagement (hempty : keyManagements ≠ [])
    (hnames : ∀ keyManagement ∈ keyManagements, HasName keyManagement)
    (hruns : (setKeyManagement keyManagements enforceConfigurationChange).Runs trace outcome) :
    ∃ past now, trace = past ++ now ∧ (∀ exchange ∈ past, Beside exchange.1) ∧
      ((now = [] ∧ outcome ≠ .ok ()) ∨
        ∃ reply later, now = ⟨keyManagementRequest (keyManagementValue keyManagements), reply⟩ ::
          later ∧ ∀ exchange ∈ later, exchange.1 = .SendCommand .Reload) := by
  have hnone : keyManagements.find? (fun keyManagement =>
      wpaKeyManagementPropertyValue keyManagement = WpaKeyManagementInvalidValue) = none := by
    rw [List.find?_eq_none]
    exact fun keyManagement hmem hinvalid =>
      hnames keyManagement hmem (of_decide_eq_true hinvalid)
  have hnas : Allows Beside .Now ProtocolHostapd.PropertyNameNasIdentifier :=
    allows_beside (by decide) .Now
  have hrandom : (Program.onlyIf (keyManagements.any isKeyManagementFastTransition)
      setRandomNetworkAccessServerId).Within Beside := by
    apply Program.within_onlyIf
    exact ⟨nofun, fun _ => setPropertyWith_allowed hnas _ _⟩
  have hieee (message : ByteString → ByteString) :
      (Program.onlyIf (keyManagements.any isKeyManagementIeee8021x)
        (setPropertyWith ProtocolHostapd.PropertyNameIeee8021X ProtocolHostapd.PropertyEnabled
          .Defer message)).Within Beside :=
    Program.within_onlyIf _ (setPropertyWith_allowed (allows_beside (by decide) _) _ _)
  unfold setKeyManagement at hruns
  rw [if_neg hempty, hnone] at hruns
  rcases Program.runs_bind hruns with ⟨first, rest, _, rfl, hfirst, hrest⟩ | ⟨fault, rfl, hfirst⟩
  · have hpast := Program.allowed_of_within hrandom hfirst
    rcases Program.runs_bind hrest with ⟨second, last, _, rfl, hsecond, hlast⟩ |
      ⟨fault, rfl, hsecond⟩
    · have hbefore := Program.allowed_of_within (hieee _) hsecond
      refine ⟨first ++ second, last, (List.append_assoc _ _ _).symm,
        List.forall_mem_append.mpr ⟨hpast, hbefore⟩, .inr ?_⟩
      exact runs_setPropertyWith hlast
    · have hbefore := Program.allowed_of_within (hieee _) hsecond
      exact ⟨first ++ rest, [], (List.append_nil _).symm,
        List.forall_mem_append.mpr ⟨hpast, hbefore⟩, .inl ⟨rfl, nofun⟩⟩
  · have hpast := Program.allowed_of_within hrandom hfirst
    exact ⟨trace, [], (List.append_nil _).symm, hpast, .inl ⟨rfl, nofun⟩⟩

theorem sendsKeyManagement_iff {past now : List System.Exchange} {value : ByteString}
    (hpast : ∀ exchange ∈ past, Beside exchange.1) :
    SendsKeyManagement (past ++ now) value ↔ SendsKeyManagement now value := by
  unfold SendsKeyManagement
  constructor
  · rintro ⟨exchange, hmem, hvalue⟩
    rcases List.mem_append.mp hmem with hmem | hmem
    · exact absurd hvalue (hpast exchange hmem value)
    · exact ⟨exchange, hmem, hvalue⟩
  · rintro ⟨exchange, hmem, hvalue⟩
    exact ⟨exchange, List.mem_append_right past hmem, hvalue⟩

-- The only value that is sent is that of the list, and a call that returns has sent it.
theorem value_of_sendsKeyManagement (hempty : keyManagements ≠ [])
    (hnames : ∀ keyManagement ∈ keyManagements, HasName keyManagement)
    (hruns : (setKeyManagement keyManagements enforceConfigurationChange).Runs trace outcome)
    {value : ByteString} (hsends : SendsKeyManagement trace value) :
    value = keyManagementValue keyManagements := by
  obtain ⟨past, now, rfl, hpast, hnow⟩ := runs_setKeyManagement hempty hnames hruns
  obtain ⟨exchange, hmem, hvalue⟩ := (sendsKeyManagement_iff hpast).mp hsends
  rcases hnow with ⟨rfl, -⟩ | ⟨reply, later, rfl, hlater⟩
  · cases hmem
  · rcases List.mem_cons.mp hmem with rfl | hmem
    · injection hvalue with hcommand
      injection hcommand with _ hsame
      exact hsame.symm
    · rw [hlater exchange hmem] at hvalue
      cases hvalue

theorem sendsKeyManagement_of_returned (hempty : keyManagements ≠ [])
    (hnames : ∀ keyManagement ∈ keyManagements, HasName keyManagement)
    (hruns : (setKeyManagement keyManagements enforceConfigurationChange).Runs trace (.ok ())) :
    SendsKeyManagement trace (keyManagementValue keyManagements) := by
  obtain ⟨past, now, rfl, hpast, hnow⟩ := runs_setKeyManagement hempty hnames hruns
  rw [sendsKeyManagement_iff hpast]
  rcases hnow with ⟨-, hthrown⟩ | ⟨reply, later, rfl, -⟩
  · exact absurd rfl hthrown
  · exact ⟨_, List.mem_cons_self, rfl⟩

theorem setKeyManagement_roundTrips (keyManagements : List WpaKeyManagement)
    (enforceConfigurationChange : EnforceConfigurationChange) (hempty : keyManagements ≠ [])
    (hnames : ∀ keyManagement ∈ keyManagements, HasName keyManagement)
    (trace : List System.Exchange) (outcome : Except Fault Unit)
    (hruns : (setKeyManagement keyManagements enforceConfigurationChange).Runs trace outcome) :
    (outcome = .ok () → ∃ value, SendsKeyManagement trace value) ∧
      ∀ value, SendsKeyManagement trace value →
        wpaKeyManagementsFromPropertyValue value = keyManagements ∧
          ∀ others enforceOthers traceOthers outcomeOthers, others ≠ [] →
            (∀ keyManagement ∈ others, HasName keyManagement) →
              (setKeyManagement others enforceOthers).Runs traceOthers outcomeOthers →
                SendsKeyManagement traceOthers value → others = keyManagements := by
  refine ⟨?_, fun value hsends => ?_⟩
  · rintro rfl
    exact ⟨_, sendsKeyManagement_of_returned hempty hnames hruns⟩
  · have hread := fromPropertyValue_keyManagementValue hempty hnames
    rw [← value_of_sendsKeyManagement hempty hnames hruns hsends] at hread
    refine ⟨hread, fun others _ _ _ hothers hnamesOthers hrunsOthers hsendsOthers => ?_⟩
    have hreadOthers := fromPropertyValue_keyManagementValue hothers hnamesOthers
    rw [← value_of_sendsKeyManagement hothers hnamesOthers hrunsOthers hsendsOthers]
      at hreadOthers
    exact hreadOthers.symm.trans hread

-- One of the names is repeated.
def pskTwice : List WpaKeyManagement := [.Psk, .FtSae, .Psk]

theorem setKeyManagement_roundTrips_pskTwice :
    (setKeyManagement pskTwice .Defer).Runs ((setKeyManagement pskTwice .Defer).run obliging []).1
        ((setKeyManagement pskTwice .Defer).run obliging []).2 ∧
      wpaKeyManagementsFromPropertyValue (str "WPA-PSK FT-SAE WPA-PSK") = pskTwice := by
  have hruns := Program.runs_run obliging (setKeyManagement pskTwice .Defer)
  have hsends : SendsKeyManagement ((setKeyManagement pskTwice .Defer).run obliging []).1
      (str "WPA-PSK FT-SAE WPA-PSK") :=
    ⟨_, List.mem_cons_of_mem _ (List.mem_cons_of_mem _ (List.mem_cons_of_mem _
      List.mem_cons_self)), rfl⟩
  exact ⟨hruns, ((setKeyManagement_roundTrips pskTwice .Defer (by decide) (by decide) _ _
    hruns).2 _ hsends).1⟩

end Sent

end NetRemote.Wpa.Hostapd
