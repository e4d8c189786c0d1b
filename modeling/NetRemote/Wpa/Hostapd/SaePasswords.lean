import NetRemote.Wpa.Hostapd

namespace NetRemote.Wpa.Hostapd

open Foundation Foundation.Bytes ProtocolWpa

def fieldTag (key : ByteString) : ByteString := key ++ [KeyValueDelimiter]

def idTag : ByteString := fieldTag ProtocolHostapd.PropertyValueSaePasswordKeyPasswordId

def macTag : ByteString := fieldTag ProtocolHostapd.PropertyValueSaePasswordKeyPeerMac

def vlanIdTag : ByteString := fieldTag ProtocolHostapd.PropertyValueSaePasswordKeyVlanId

-- How hostapd reads an entry: the credential, and then one field after another.
def readField (saePassword : SaePassword) (field : ByteString) : Option SaePassword :=
  match idTag.isPrefixOf? field with
  | some passwordId => some { saePassword with passwordId := some passwordId }
  | none =>
      match macTag.isPrefixOf? field with
      | some peerMacAddress => some { saePassword with peerMacAddress := some peerMacAddress }
      | none =>
          match vlanIdTag.isPrefixOf? field with
          | some vlanId =>
              let (value, complete) := fromCharsInt vlanId 0
              if complete then some { saePassword with vlanId := some (Int32.ofInt value) }
              else none
          | none => none

def readSaePassword (value : ByteString) : Option SaePassword :=
  match value.splitOn 124 with
  | [] => none
  | credential :: fields => fields.foldlM readField { credential := credential }

structure SeparatorFree (saePassword : SaePassword) : Prop where
  credential : 124 ∉ saePassword.credential
  passwordId : ∀ passwordId ∈ saePassword.passwordId, 124 ∉ passwordId
  peerMacAddress : ∀ peerMacAddress ∈ saePassword.peerMacAddress, 124 ∉ peerMacAddress

section Read

-- Whatever is read is made of the parts between separators.
theorem separatorFree_readField {saePassword next : SaePassword} {field : ByteString}
    (hfree : SeparatorFree saePassword) (hfield : 124 ∉ field)
    (hread : readField saePassword field = some next) : SeparatorFree next := by
  have hvalue {key value : ByteString} (h : key.isPrefixOf? field = some value) :
      124 ∉ value := by
    have happend := List.isPrefixOf?_eq_some_iff_append_eq.mp h
    intro hmem
    apply hfield
    rw [← happend]
    exact List.mem_append_right _ hmem
  unfold readField at hread
  cases hid : idTag.isPrefixOf? field with
  | some passwordId =>
      rw [hid] at hread
      obtain rfl := Option.some.inj hread
      refine ⟨hfree.credential, ?_, hfree.peerMacAddress⟩
      rintro _ ⟨⟩
      exact hvalue hid
  | none =>
      rw [hid] at hread
      cases hmac : macTag.isPrefixOf? field with
      | some peerMacAddress =>
          rw [hmac] at hread
          obtain rfl := Option.some.inj hread
          refine ⟨hfree.credential, hfree.passwordId, ?_⟩
          rintro _ ⟨⟩
          exact hvalue hmac
      | none =>
          rw [hmac] at hread
          cases hvlan : vlanIdTag.isPrefixOf? field with
          | none => simp [hvlan] at hread
          | some vlanId =>
              simp only [hvlan, Option.ite_none_right_eq_some, Option.some.injEq] at hread
              obtain ⟨_, rfl⟩ := hread
              exact ⟨hfree.credential, hfree.passwordId, hfree.peerMacAddress⟩

theorem separatorFree_foldlM {fields : List ByteString} {saePassword final : SaePassword}
    (hfree : SeparatorFree saePassword) (hfields : ∀ field ∈ fields, 124 ∉ field)
    (hread : fields.foldlM readField saePassword = some final) : SeparatorFree final := by
  induction fields generalizing saePassword with
  | nil =>
      obtain rfl : saePassword = final := by simpa using hread
      exact hfree
  | cons field fields ih =>
      rw [List.foldlM_cons] at hread
      obtain ⟨next, hnext, hrest⟩ := Option.bind_eq_some_iff.mp hread
      have hfreeNext :=
        separatorFree_readField hfree (hfields field List.mem_cons_self) hnext
      exact ih hfreeNext (fun other hother => hfields other (List.mem_cons_of_mem _ hother)) hrest

theorem separatorFree_readSaePassword {value : ByteString} {saePassword : SaePassword}
    (hread : readSaePassword value = some saePassword) : SeparatorFree saePassword := by
  unfold readSaePassword at hread
  cases hsplit : value.splitOn 124 with
  | nil => exact absurd hsplit (List.splitOn_ne_nil 124 value)
  | cons credential fields =>
      rw [hsplit] at hread
      have hparts : ∀ part ∈ credential :: fields, 124 ∉ part := by
        intro part hpart
        rw [← hsplit] at hpart
        exact not_mem_of_mem_splitOn hpart
      have hstart : SeparatorFree { credential := credential } :=
        ⟨hparts credential List.mem_cons_self, nofun, nofun⟩
      exact separatorFree_foldlM hstart
        (fun field hfield => hparts field (List.mem_cons_of_mem _ hfield)) hread

end Read

section Value

variable {saePassword : SaePassword}

def fieldsOf (saePassword : SaePassword) : List ByteString :=
  (saePassword.passwordId.toList.map fun passwordId => idTag ++ passwordId) ++
    (saePassword.peerMacAddress.toList.map fun peerMacAddress => macTag ++ peerMacAddress) ++
      saePassword.vlanId.toList.map fun vlanId => vlanIdTag ++ signedDecimal vlanId.toInt

theorem saePasswordValue_eq (saePassword : SaePassword) :
    saePasswordValue saePassword =
      [124].intercalate (saePassword.credential :: fieldsOf saePassword) := by
  have hseparator : ProtocolHostapd.PropertyValueSaeKeyValueSeparator = [124] := rfl
  obtain ⟨credential, passwordId, peerMacAddress, vlanId⟩ := saePassword
  cases passwordId <;> cases peerMacAddress <;> cases vlanId <;>
    simp [saePasswordValue, fieldsOf, List.intercalate, List.intersperse, hseparator, idTag,
      macTag, vlanIdTag, fieldTag]

theorem not_mem_signedDecimal (n : Int) : 124 ∉ signedDecimal n := by
  have hdecimal : 124 ∉ decimal n.natAbs := by
    intro hmem
    have hdigit := isDigit_decimal hmem
    revert hdigit
    decide
  unfold signedDecimal
  by_cases hnegative : n < 0
  · rw [if_pos hnegative]
    intro hmem
    rcases List.mem_append.mp hmem with hsign | hmem
    · revert hsign
      decide
    · exact hdecimal hmem
  · rw [if_neg hnegative]
    exact hdecimal

theorem not_mem_fieldsOf (hfree : SeparatorFree saePassword) :
    ∀ field ∈ fieldsOf saePassword, 124 ∉ field := by
  have htag {tag value : ByteString} (h : 124 ∉ tag) (hvalue : 124 ∉ value) :
      124 ∉ tag ++ value := by
    intro hmem
    exact (List.mem_append.mp hmem).elim h hvalue
  simp only [fieldsOf, List.forall_mem_append, List.forall_mem_map, Option.mem_toList]
  refine ⟨⟨?_, ?_⟩, ?_⟩
  · intro passwordId hmem
    exact htag (by decide) (hfree.passwordId passwordId hmem)
  · intro peerMacAddress hmem
    exact htag (by decide) (hfree.peerMacAddress peerMacAddress hmem)
  · intro vlanId _
    exact htag (by decide) (not_mem_signedDecimal vlanId.toInt)

theorem readField_id (entry : SaePassword) (passwordId : ByteString) :
    readField entry (idTag ++ passwordId) = some { entry with passwordId := some passwordId } := by
  rfl

theorem readField_mac (entry : SaePassword) (peerMacAddress : ByteString) :
    readField entry (macTag ++ peerMacAddress) =
      some { entry with peerMacAddress := some peerMacAddress } := by
  rfl

theorem readField_vlanId (entry : SaePassword) (vlanId : Int32) :
    readField entry (vlanIdTag ++ signedDecimal vlanId.toInt) =
      some { entry with vlanId := some vlanId } := by
  have hread := fromCharsInt_signedDecimal vlanId.toInt 0 vlanId.minValue_le_toInt vlanId.toInt_lt
  have hfield : readField entry (vlanIdTag ++ signedDecimal vlanId.toInt) =
      if (fromCharsInt (signedDecimal vlanId.toInt) 0).2 then
        some { entry with
          vlanId := some (Int32.ofInt (fromCharsInt (signedDecimal vlanId.toInt) 0).1) }
      else none := rfl
  rw [hfield, hread, if_pos rfl, Int32.ofInt_toInt]

theorem foldlM_fieldsOf (saePassword : SaePassword) :
    (fieldsOf saePassword).foldlM readField { credential := saePassword.credential } =
      some saePassword := by
  obtain ⟨credential, passwordId, peerMacAddress, vlanId⟩ := saePassword
  cases passwordId <;> cases peerMacAddress <;> cases vlanId <;>
    simp [fieldsOf, readField_id, readField_mac, readField_vlanId]

theorem readSaePassword_value (hfree : SeparatorFree saePassword) :
    readSaePassword (saePasswordValue saePassword) = some saePassword := by
  have hparts : ∀ part ∈ saePassword.credential :: fieldsOf saePassword, 124 ∉ part := by
    rw [List.forall_mem_cons]
    exact ⟨hfree.credential, not_mem_fieldsOf hfree⟩
  have hsplit := List.splitOn_intercalate 124 hparts (List.cons_ne_nil _ _)
  rw [← saePasswordValue_eq] at hsplit
  rw [readSaePassword, hsplit]
  exact foldlM_fieldsOf saePassword

-- What is sent for an entry is read as the entry exactly when there is no separator
-- in its texts, and then no other such entry is sent in the same way.
theorem addSaePassword_unambiguous_iff (saePassword : SaePassword) :
    (readSaePassword (saePasswordValue saePassword) = some saePassword ↔
      SeparatorFree saePassword) ∧
    (SeparatorFree saePassword → ∀ other, SeparatorFree other →
      saePasswordValue saePassword = saePasswordValue other → saePassword = other) := by
  constructor
  · exact ⟨separatorFree_readSaePassword, readSaePassword_value⟩
  · intro hfree other hother hsame
    have hread := readSaePassword_value hfree
    rw [hsame, readSaePassword_value hother] at hread
    exact (Option.some.inj hread).symm

def injecting : SaePassword := { credential := str "secret|id=guest" }

def identified : SaePassword := { credential := str "secret", passwordId := some (str "guest") }

-- A credential that adds a password identifier.
theorem addSaePassword_confuses_guest :
    saePasswordValue injecting = saePasswordValue identified ∧ injecting ≠ identified ∧
      readSaePassword (saePasswordValue injecting) = some identified := by
  decide

end Value

end NetRemote.Wpa.Hostapd
