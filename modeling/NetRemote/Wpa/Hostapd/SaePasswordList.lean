import NetRemote.Wpa.Hostapd.Scripts

namespace NetRemote.Wpa.Hostapd

open Foundation Foundation.Bytes ProtocolWpa

-- The passwords that hostapd keeps. An empty value clears them, any other value is added
-- to them, and what is not acknowledged changes nothing.
def storeSaePassword (entries : List ByteString) : System.Exchange → List ByteString
  | ⟨.SendCommand (.Set propertyName propertyValue), reply⟩ =>
      if propertyName = ProtocolHostapd.PropertyNameSaePassword ∧ acknowledged reply then
        if propertyValue = [] then [] else entries ++ [propertyValue]
      else entries
  | _ => entries

def storedAfter (entries : List ByteString) (trace : List System.Exchange) : List ByteString :=
  trace.foldl storeSaePassword entries

def RefusesSet (trace : List System.Exchange) : Prop :=
  ∃ setting reply, (⟨setRequest setting, reply⟩ : System.Exchange) ∈ trace ∧
    acknowledged reply = false

-- The list is replaced, or nothing has come of it, or as much as has been acknowledged.
structure Replaced (saePasswords : List SaePassword) (old : List ByteString)
    (trace : List System.Exchange) (outcome : Except Fault Unit) : Prop where
  returned : outcome = .ok () → storedAfter old trace = saePasswords.map saePasswordValue
  thrown : RefusesSet trace → outcome ≠ .ok () ∧ Deferred trace ∧
    ((trace.length = 1 ∧ storedAfter old trace = old) ∨
      1 < trace.length ∧ ∃ count,
        storedAfter old trace = (saePasswords.take count).map saePasswordValue)

def Blank (saePassword : SaePassword) : Prop :=
  saePassword.credential = [] ∧ saePassword.passwordId = none ∧
    saePassword.peerMacAddress = none ∧ saePassword.vlanId = none

section Entries

theorem saePasswordValue_eq_nil_iff (saePassword : SaePassword) :
    saePasswordValue saePassword = [] ↔ Blank saePassword := by
  obtain ⟨credential, passwordId, peerMacAddress, vlanId⟩ := saePassword
  have hseparator : ProtocolHostapd.PropertyValueSaeKeyValueSeparator = [124] := rfl
  cases passwordId <;> cases peerMacAddress <;> cases vlanId <;>
    simp [saePasswordValue, Blank, hseparator]

def entryRequest (entry : ByteString) : SystemRequest :=
  setRequest (ProtocolHostapd.PropertyNameSaePassword, entry)

theorem store_of_refused {entry : ByteString} {reply : Option ByteString}
    (entries : List ByteString) (h : acknowledged reply = false) :
    storeSaePassword entries ⟨entryRequest entry, reply⟩ = entries := by
  simp [storeSaePassword, entryRequest, setRequest, h]

theorem store_of_acknowledged {entry : ByteString} {reply : Option ByteString}
    (entries : List ByteString) (hentry : entry ≠ []) (h : acknowledged reply = true) :
    storeSaePassword entries ⟨entryRequest entry, reply⟩ = entries ++ [entry] := by
  simp [storeSaePassword, entryRequest, setRequest, h, hentry]

theorem store_clear {reply : Option ByteString} (entries : List ByteString)
    (h : acknowledged reply = true) :
    storeSaePassword entries ⟨entryRequest [], reply⟩ = [] := by
  simp [storeSaePassword, entryRequest, setRequest, h]

-- No entry is empty, since an empty value clears.
theorem nil_not_mem_storedAfter {entries : List ByteString} (trace : List System.Exchange)
    (h : [] ∉ entries) : [] ∉ storedAfter entries trace := by
  induction trace generalizing entries with
  | nil => exact h
  | cons exchange trace ih =>
      apply ih
      unfold storeSaePassword
      split
      · split_ifs with hset hvalue
        · simp
        · intro hmem
          rcases List.mem_append.mp hmem with hmem | hmem
          · exact h hmem
          · exact hvalue (List.mem_singleton.mp hmem).symm
        · exact h
      · exact h

theorem refused_iff_not_acknowledged {entry : ByteString} {reply : Option ByteString} :
    refused ⟨entryRequest entry, reply⟩ = true ↔ acknowledged reply = false := by
  simp [refused, entryRequest, setRequest]

theorem accepted_iff_acknowledged {entry : ByteString} {reply : Option ByteString} :
    refused ⟨entryRequest entry, reply⟩ = false ↔ acknowledged reply = true := by
  simp [refused, entryRequest, setRequest]

-- What is refused comes after what is acknowledged.
theorem refusesSet_of_cons {entry : ByteString} {reply : Option ByteString}
    {later : List System.Exchange} (hreply : acknowledged reply = true)
    (h : RefusesSet (⟨entryRequest entry, reply⟩ :: later)) : RefusesSet later := by
  obtain ⟨setting, other, hmem, hother⟩ := h
  rcases List.mem_cons.mp hmem with heq | hmem
  · have hsame := congrArg refused heq
    simp [refused, entryRequest, setRequest, hreply, hother] at hsame
  · exact ⟨setting, other, hmem, hother⟩

theorem not_returned_of_refusesSet {script : List SystemRequest} {trace : List System.Exchange}
    {outcome : Except Fault Unit}
    (h : Scripted (E := System) refused IsHostapdException script trace outcome)
    (hrefuses : RefusesSet trace) : outcome ≠ .ok () := by
  rintro rfl
  obtain ⟨setting, reply, hmem, hreply⟩ := hrefuses
  have haccepted := h.of_ok.2 _ hmem
  simp [refused, setRequest, hreply] at haccepted

theorem storedAfter_of_reload {trace : List System.Exchange} (entries : List ByteString)
    (h : ∀ exchange ∈ trace, exchange.1 = .SendCommand .Reload) :
    storedAfter entries trace = entries := by
  induction trace generalizing entries with
  | nil => rfl
  | cons exchange trace ih =>
      obtain ⟨hexchange, htrace⟩ := List.forall_mem_cons.mp h
      obtain ⟨request, reply⟩ := exchange
      obtain rfl : request = .SendCommand .Reload := hexchange
      exact ih entries htrace

-- The entries that are left to be sent are added one after the other to what is stored.
theorem storedAfter_of_scripted {enforceConfigurationChange : EnforceConfigurationChange}
    {values entries : List ByteString} {trace : List System.Exchange} {outcome : Except Fault Unit}
    (hvalues : ∀ value ∈ values, value ≠ [])
    (h : Scripted (E := System) refused IsHostapdException
      (values.map entryRequest ++ reloadScript enforceConfigurationChange) trace outcome) :
    (outcome = .ok () → storedAfter entries trace = entries ++ values) ∧
      (RefusesSet trace → Deferred trace ∧
        ∃ count, storedAfter entries trace = entries ++ values.take count) := by
  induction values generalizing entries trace with
  | nil =>
      have hreload := scripted_reload h
      refine ⟨fun _ => ?_, ?_⟩
      · rw [storedAfter_of_reload entries hreload, List.append_nil]
      · rintro ⟨setting, reply, hmem, -⟩
        cases hreload _ hmem
  | cons value values ih =>
      obtain ⟨hvalue, hrest⟩ := List.forall_mem_cons.mp hvalues
      rcases h.of_cons with ⟨reply, fault, rfl, rfl, hrefused, -⟩ |
        ⟨reply, later, rfl, haccepted, hscripted⟩
      · have hreply := refused_iff_not_acknowledged.mp hrefused
        refine ⟨nofun, fun _ => ⟨?_, 0, ?_⟩⟩
        · exact List.forall_mem_singleton.mpr nofun
        · exact (store_of_refused entries hreply).trans (List.append_nil entries).symm
      · have hreply := accepted_iff_acknowledged.mp haccepted
        have hstore := store_of_acknowledged entries hvalue hreply
        have hcons : storedAfter entries (⟨entryRequest value, reply⟩ :: later) =
            storedAfter (entries ++ [value]) later :=
          congrArg (storedAfter · later) hstore
        obtain ⟨hreturned, hthrown⟩ := ih hrest hscripted
        refine ⟨fun hok => ?_, fun hrefuses => ?_⟩
        · rw [hcons, hreturned hok, List.append_assoc, List.singleton_append]
        · obtain ⟨hdeferred, count, hcount⟩ := hthrown (refusesSet_of_cons hreply hrefuses)
          refine ⟨List.forall_mem_cons.mpr ⟨nofun, hdeferred⟩, count + 1, ?_⟩
          rw [hcons, hcount, List.take_succ_cons, List.append_assoc, List.singleton_append]

end Entries

section Script

def saePasswordsScript (saePasswords : List SaePassword)
    (enforceConfigurationChange : EnforceConfigurationChange) : List SystemRequest :=
  entryRequest [] :: ((saePasswords.map saePasswordValue).map entryRequest ++
    reloadScript enforceConfigurationChange)

theorem plays_setSaePasswords (saePasswords : List SaePassword)
    (enforceConfigurationChange : EnforceConfigurationChange) :
    Plays (saePasswordsScript saePasswords enforceConfigurationChange)
      (setSaePasswords saePasswords enforceConfigurationChange) := by
  have hclear : Plays [entryRequest []] (setProperty ProtocolHostapd.PropertyNameSaePassword
      ProtocolHostapd.PropertyValueSaePasswordClearAll .Defer) := plays_setProperty _ _ .Defer
  apply plays_rethrow
  apply Program.plays_bind hclear
  intro _
  apply Program.plays_bind
  · have hscript : (saePasswords.map saePasswordValue).map entryRequest =
        saePasswords.flatMap fun saePassword => [entryRequest (saePasswordValue saePassword)] := by
      rw [List.map_map, List.map_eq_flatMap]
      rfl
    rw [hscript]
    apply Program.plays_forM
    exact fun saePassword _ => plays_setPropertyWith _ _ .Defer _
  · intro _
    exact plays_reloadIfNow enforceConfigurationChange

variable {saePasswords : List SaePassword}
  {enforceConfigurationChange : EnforceConfigurationChange} {old : List ByteString}
  {trace : List System.Exchange} {outcome : Except Fault Unit}

theorem replaced_of_not_blank (hblank : ∀ saePassword ∈ saePasswords, ¬ Blank saePassword)
    (hruns : (setSaePasswords saePasswords enforceConfigurationChange).Runs trace outcome) :
    Replaced saePasswords old trace outcome := by
  have hvalues : ∀ value ∈ saePasswords.map saePasswordValue, value ≠ [] := by
    rw [List.forall_mem_map]
    exact fun saePassword hmem hvalue =>
      hblank saePassword hmem ((saePasswordValue_eq_nil_iff saePassword).mp hvalue)
  have hplays := plays_setSaePasswords saePasswords enforceConfigurationChange
  have hscripted := hplays trace outcome hruns
  rcases hscripted.of_cons with ⟨reply, fault, rfl, rfl, hrefused, -⟩ |
    ⟨reply, later, rfl, haccepted, hlater⟩
  · have hreply := refused_iff_not_acknowledged.mp hrefused
    refine ⟨nofun, fun _ => ⟨nofun, List.forall_mem_singleton.mpr nofun, .inl ⟨rfl, ?_⟩⟩⟩
    exact store_of_refused old hreply
  · have hreply := accepted_iff_acknowledged.mp haccepted
    have hcons : storedAfter old (⟨entryRequest [], reply⟩ :: later) = storedAfter [] later :=
      congrArg (storedAfter · later) (store_clear old hreply)
    obtain ⟨hreturned, hthrown⟩ := storedAfter_of_scripted hvalues hlater
    refine ⟨fun hok => ?_, fun hrefuses => ?_⟩
    · rw [hcons, hreturned hok, List.nil_append]
    · have hrest := refusesSet_of_cons hreply hrefuses
      obtain ⟨hdeferred, count, hcount⟩ := hthrown hrest
      refine ⟨not_returned_of_refusesSet hlater hrest,
        List.forall_mem_cons.mpr ⟨nofun, hdeferred⟩, .inr ⟨?_, count, ?_⟩⟩
      · obtain ⟨_, _, hmem, _⟩ := hrest
        have hlength := List.length_pos_of_mem hmem
        rw [List.length_cons]
        omega
      · rw [hcons, hcount, List.nil_append, List.map_take]

theorem refused_obliging (past : List System.Exchange) (request : SystemRequest) :
    refused ⟨request, obliging past request⟩ = false := by
  cases request with
  | SendCommand command => cases command <;> rfl
  | _ => rfl

-- A hostapd that acknowledges everything lets a script run to its end.
theorem runs_obliging {script : List SystemRequest} {program : Action Unit}
    (h : Plays script program) : ∃ trace, program.Runs trace (.ok ()) := by
  have hruns := Program.runs_run obliging program
  have hall := Program.mem_run (P := fun exchange => refused exchange = false) refused_obliging
    program [] nofun
  cases houtcome : (program.run obliging []).2 with
  | ok value => exact ⟨_, houtcome ▸ hruns⟩
  | error fault =>
      rw [houtcome] at hruns
      obtain ⟨-, past, last, htrace, -, hlast⟩ := (h _ _ hruns).of_error
      rw [hall last (by simp [htrace])] at hlast
      cases hlast

theorem not_blank_of_replaced
    (h : ∀ trace outcome,
      (setSaePasswords saePasswords enforceConfigurationChange).Runs trace outcome →
        Replaced saePasswords old trace outcome) :
    ∀ saePassword ∈ saePasswords, ¬ Blank saePassword := by
  intro saePassword hmem hblank
  have hplays := plays_setSaePasswords saePasswords enforceConfigurationChange
  obtain ⟨trace, hruns⟩ := runs_obliging hplays
  have hstored := (h trace _ hruns).returned rfl
  have hscripted := hplays trace _ hruns
  have hvalue : [] ∈ saePasswords.map saePasswordValue :=
    List.mem_map.mpr ⟨saePassword, hmem, (saePasswordValue_eq_nil_iff saePassword).mpr hblank⟩
  rw [← hstored] at hvalue
  rcases hscripted.of_cons with ⟨_, _, _, hthrown, _⟩ | ⟨reply, later, rfl, haccepted, -⟩
  · cases hthrown
  · have hreply := accepted_iff_acknowledged.mp haccepted
    have hcons : storedAfter old (⟨entryRequest [], reply⟩ :: later) = storedAfter [] later :=
      congrArg (storedAfter · later) (store_clear old hreply)
    rw [hcons] at hvalue
    exact nil_not_mem_storedAfter later List.not_mem_nil hvalue

end Script

end NetRemote.Wpa.Hostapd
