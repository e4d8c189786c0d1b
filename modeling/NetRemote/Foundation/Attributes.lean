import NetRemote.Foundation.Bytes

namespace Foundation.Attributes

open Bytes

-- What can be wrong with a read: the attribute is absent, or its payload too short.
inductive BadRead where
  | Absent
  | PastEnd
  deriving DecidableEq, Repr

abbrev Read := Except BadRead

-- The attributes of a message by their types.
abbrev AttributeTable := Nat → Option ByteString

def littleEndian (bytes : ByteString) : Nat :=
  bytes.foldr (fun byte value => byte.toNat + 256 * value) 0

section Reads

variable (nla : Option ByteString)

def getBytes (count : Nat) : Read ByteString :=
  match nla with
  | none => .error .Absent
  | some payload => if payload.length < count then .error .PastEnd else .ok (payload.take count)

def getU16 : Read UInt16 := do
  return UInt16.ofNat (littleEndian (← getBytes nla 2))

def getU32 : Read UInt32 := do
  return UInt32.ofNat (littleEndian (← getBytes nla 4))

-- A C string is read up to its terminator, which has to be in the payload.
def getString : Read ByteString :=
  match nla with
  | none => .error .Absent
  | some payload => if 0 ∈ payload then .ok (payload.takeWhile (· ≠ 0)) else .error .PastEnd

def ifPresent {α : Type} (absent : α) (read : Option ByteString → Read α) : Read α :=
  if nla.isSome then read nla else .ok absent

end Reads

-- As many whole words as the payload has; what is left over is not read.
def words : ByteString → List UInt32
  | first :: second :: third :: fourth :: rest =>
      UInt32.ofNat (littleEndian [first, second, third, fourth]) :: words rest
  | _ => []

def InBounds {α : Type} (read : Read α) : Prop := ∃ value, read = .ok value

def HasBytes (nla : Option ByteString) (count : Nat) : Prop :=
  ∃ payload, nla = some payload ∧ count ≤ payload.length

def HasString (nla : Option ByteString) : Prop :=
  ∃ payload, nla = some payload ∧ 0 ∈ payload

theorem HasBytes.isSome {nla : Option ByteString} {count : Nat} (h : HasBytes nla count) :
    nla.isSome := by
  obtain ⟨payload, rfl, -⟩ := h
  rfl

theorem HasString.isSome {nla : Option ByteString} (h : HasString nla) : nla.isSome := by
  obtain ⟨payload, rfl, -⟩ := h
  rfl

section InBounds

variable {α β : Type} {nla : Option ByteString}

theorem inBounds_ok (value : α) : InBounds (.ok value : Read α) := ⟨value, rfl⟩

theorem inBounds_error (badRead : BadRead) : ¬InBounds (.error badRead : Read α) := nofun

theorem inBounds_bind_iff {read : Read α} {next : α → Read β} :
    InBounds (read >>= next) ↔ ∃ value, read = .ok value ∧ InBounds (next value) := by
  cases read with
  | error badRead =>
      constructor
      · intro h
        exact absurd h (inBounds_error badRead)
      · rintro ⟨_, hvalue, -⟩
        cases hvalue
  | ok value =>
      constructor
      · intro h
        exact ⟨value, rfl, h⟩
      · rintro ⟨_, hvalue, h⟩
        cases hvalue
        exact h

-- The value that is read has no say in what is read next.
theorem inBounds_bind {read : Read α} {next : α → Read β} {P : Prop}
    (hnext : ∀ value, InBounds (next value) ↔ P) :
    InBounds (read >>= next) ↔ InBounds read ∧ P := by
  rw [inBounds_bind_iff]
  constructor
  · rintro ⟨value, hvalue, h⟩
    exact ⟨⟨value, hvalue⟩, (hnext value).mp h⟩
  · rintro ⟨⟨value, hvalue⟩, h⟩
    exact ⟨value, hvalue, (hnext value).mpr h⟩

theorem inBounds_last {read : Read α} {last : α → β} :
    InBounds (read >>= fun value => pure (last value)) ↔ InBounds read := by
  rw [inBounds_bind (P := True), and_true]
  intro value
  exact iff_of_true (inBounds_ok _) trivial

theorem inBounds_getBytes {count : Nat} :
    InBounds (getBytes nla count) ↔ HasBytes nla count := by
  cases nla with
  | none => exact iff_of_false (inBounds_error _) nofun
  | some payload =>
      by_cases hshort : payload.length < count
      · rw [getBytes, if_pos hshort]
        refine iff_of_false (inBounds_error _) ?_
        rintro ⟨_, hsame, hlength⟩
        obtain rfl := Option.some.inj hsame
        omega
      · rw [getBytes, if_neg hshort]
        exact iff_of_true (inBounds_ok _) ⟨payload, rfl, by omega⟩

theorem inBounds_getU16 : InBounds (getU16 nla) ↔ HasBytes nla 2 :=
  inBounds_last.trans inBounds_getBytes

theorem inBounds_getU32 : InBounds (getU32 nla) ↔ HasBytes nla 4 :=
  inBounds_last.trans inBounds_getBytes

theorem inBounds_getString : InBounds (getString nla) ↔ HasString nla := by
  cases nla with
  | none => exact iff_of_false (inBounds_error _) nofun
  | some payload =>
      by_cases hend : 0 ∈ payload
      · rw [getString, if_pos hend]
        exact iff_of_true (inBounds_ok _) ⟨payload, rfl, hend⟩
      · rw [getString, if_neg hend]
        refine iff_of_false (inBounds_error _) ?_
        rintro ⟨_, hsame, h⟩
        obtain rfl := Option.some.inj hsame
        exact hend h

theorem inBounds_ifPresent {absent : α} {read : Option ByteString → Read α} :
    InBounds (ifPresent nla absent read) ↔
      (nla.isSome → InBounds (read nla)) := by
  by_cases hpresent : nla.isSome
  · rw [ifPresent, if_pos hpresent]
    exact ⟨fun h _ => h, fun h => h hpresent⟩
  · rw [ifPresent, if_neg hpresent]
    exact iff_of_true (inBounds_ok _) fun h => absurd h hpresent

-- Reading is given up, for want of a table or because of what it lacks.
theorem inBounds_table {table : Option AttributeTable} {value : β}
    {read : AttributeTable → Read β} {P : AttributeTable → Prop}
    (h : ∀ attributes, InBounds (read attributes) ↔ P attributes) :
    InBounds (table.elim (.ok value) read) ↔
      ∀ attributes, table = some attributes → P attributes := by
  cases table with
  | none => exact iff_of_true (inBounds_ok _) nofun
  | some attributes =>
      rw [Option.elim_some, h]
      constructor
      · intro hattributes other hother
        obtain rfl := Option.some.inj hother
        exact hattributes
      · intro hall
        exact hall attributes rfl

theorem inBounds_unless {condition : Prop} [Decidable condition] {value : β} {read : Read β} :
    InBounds (if condition then .ok value else read) ↔ (¬condition → InBounds read) := by
  by_cases hcondition : condition
  · rw [if_pos hcondition]
    exact iff_of_true (inBounds_ok _) fun h => absurd hcondition h
  · rw [if_neg hcondition]
    exact ⟨fun h _ => h, fun h => h hcondition⟩

theorem inBounds_unless_absent {value : β} {read : Read β} :
    InBounds (if nla.isNone then .ok value else read) ↔ (nla.isSome → InBounds read) := by
  rw [inBounds_unless, Bool.not_eq_true, Option.isNone_eq_false_iff]

theorem inBounds_mapM {read : α → Read β} {elements : List α} :
    InBounds (elements.mapM read) ↔ ∀ element ∈ elements, InBounds (read element) := by
  induction elements with
  | nil => exact iff_of_true (inBounds_ok _) nofun
  | cons element elements ih =>
      rw [List.mapM_cons, List.forall_mem_cons, ← ih]
      exact inBounds_bind fun _ => inBounds_last

end InBounds

end Foundation.Attributes
