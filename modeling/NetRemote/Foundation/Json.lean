import NetRemote.Foundation.Bytes
import NetRemote.Foundation.Table

namespace Foundation

open Bytes

-- No conversion below looks into a number.
inductive Json where
  | Null
  | Boolean (value : Bool)
  | Number
  | String (text : ByteString)
  | Array (elements : List Json)
  | Object (members : List (ByteString × Json))

namespace Json

inductive Exception where
  | ParseError
  | TypeError (id : Nat)
  | OutOfRange (id : Nat)
  deriving DecidableEq, Repr

def Exception.mustBeOfType : Exception := .TypeError 302
def Exception.cannotUseAt : Exception := .TypeError 304
def Exception.keyNotFound : Exception := .OutOfRange 403

abbrev Parser := ByteString → Except Exception Json

abbrev Conversion (ν : Type) := Json → Except Exception ν

section Conversions

variable {ν : Type}

-- The member under a key, which has to be there.
def valueAt (key : ByteString) : Conversion Json
  | .Object members => (members.lookup key).elim (.error .keyNotFound) .ok
  | _ => .error .cannotUseAt

def getString : Conversion ByteString
  | .String text => .ok text
  | _ => .error .mustBeOfType

-- Every member is converted and put under its key, unless the key is taken.
def insertMembers (convert : Conversion ν) (table : Table ByteString ν) :
    List (ByteString × Json) → Except Exception (Table ByteString ν)
  | [] => .ok table
  | (key, json) :: members => do
      let value ← convert json
      insertMembers convert (table.emplace key value) members

def getObject (convert : Conversion ν) : Conversion (Table ByteString ν)
  | .Object members => insertMembers convert ∅ members
  | _ => .error .mustBeOfType

def getAt (key : ByteString) (convert : Conversion ν) : Conversion ν := fun json => do
  convert (← json.valueAt key)

end Conversions

-- What a document stands for, whatever the code makes of it.
section Denotations

variable {ν : Type} (denotes : Json → ν → Prop)

def StringIs (json : Json) (text : ByteString) : Prop := json = .String text

def MemberIs (key : ByteString) (json : Json) (value : ν) : Prop :=
  ∃ members member, json = .Object members ∧ members.lookup key = some member ∧
    denotes member value

def ObjectIs (json : Json) (table : Table ByteString ν) : Prop :=
  ∃ members, json = .Object members ∧
    (∀ member ∈ members, ∃ value, denotes member.2 value) ∧
    ∀ key, Option.Rel denotes (members.lookup key) (table.lookup key)

end Denotations

-- A conversion yields what the document stands for, whenever it stands for something. It
-- finds fault with the shape of a document, never with a text.
structure Conversion.Reads {ν : Type} (convert : Conversion ν) (denotes : Json → ν → Prop) :
    Prop where
  sound : ∀ json value, convert json = .ok value → denotes json value
  complete : ∀ json value, denotes json value → ∃ read, convert json = .ok read
  structural : ∀ json, convert json ≠ .error .ParseError

section Reads

variable {ν : Type} {convert : Conversion ν} {denotes : Json → ν → Prop}

theorem Conversion.Reads.accepts_iff (h : convert.Reads denotes) (json : Json) :
    (∃ value, convert json = .ok value) ↔ ∃ value, denotes json value := by
  constructor
  · rintro ⟨value, hvalue⟩
    exact ⟨value, h.sound json value hvalue⟩
  · rintro ⟨value, hvalue⟩
    exact h.complete json value hvalue

-- A value wrapped in another stands for what that one does.
theorem Conversion.Reads.map {μ : Type} {wrapped : Json → μ → Prop} (h : convert.Reads denotes)
    (wrap : ν → μ) (hwrap : ∀ json value, denotes json value → wrapped json (wrap value))
    (hunwrap : ∀ json outer, wrapped json outer → ∃ value, denotes json value) :
    Conversion.Reads (fun json => (convert json).map wrap) wrapped where
  sound := by
    intro json outer houter
    cases hvalue : convert json with
    | error exception =>
        rw [hvalue] at houter
        cases houter
    | ok value =>
        rw [hvalue] at houter
        obtain rfl := Except.ok.inj houter
        exact hwrap json value (h.sound json value hvalue)
  complete := by
    intro json outer houter
    obtain ⟨value, hvalue⟩ := hunwrap json outer houter
    obtain ⟨read, hread⟩ := h.complete json value hvalue
    exact ⟨wrap read, congrArg (Except.map wrap) hread⟩
  structural := by
    intro json herror
    cases hvalue : convert json with
    | error exception =>
        rw [hvalue] at herror
        exact h.structural json (hvalue.trans (congrArg _ (Except.error.inj herror)))
    | ok value =>
        rw [hvalue] at herror
        cases herror

theorem getString_reads : getString.Reads StringIs where
  sound := by
    intro json text htext
    cases json with
    | String => exact congrArg String (Except.ok.inj htext)
    | _ => cases htext
  complete := by
    rintro json text rfl
    exact ⟨text, rfl⟩
  structural := by
    intro json
    cases json <;> nofun

section At

variable {members : List (ByteString × Json)} {key : ByteString} (convert)

theorem getAt_of_lookup {member : Json} (h : members.lookup key = some member) :
    getAt key convert (.Object members) = convert member := by
  simp only [getAt, valueAt, h, Option.elim, bind, Except.bind]

theorem getAt_of_not_member (h : members.lookup key = none) :
    getAt key convert (.Object members) = .error .keyNotFound := by
  simp only [getAt, valueAt, h, Option.elim, bind, Except.bind]

end At

theorem getAt_reads (key : ByteString) (h : convert.Reads denotes) :
    (getAt key convert).Reads (MemberIs denotes key) where
  sound := by
    intro json value hvalue
    cases json with
    | Object members =>
        cases hmember : members.lookup key with
        | none =>
            rw [getAt_of_not_member convert hmember] at hvalue
            cases hvalue
        | some member =>
            rw [getAt_of_lookup convert hmember] at hvalue
            exact ⟨members, member, rfl, hmember, h.sound member value hvalue⟩
    | _ => cases hvalue
  complete := by
    rintro json value ⟨members, member, rfl, hmember, hdenotes⟩
    rw [getAt_of_lookup convert hmember]
    exact h.complete member value hdenotes
  structural := by
    intro json
    cases json with
    | Object members =>
        cases hmember : members.lookup key with
        | none =>
            rw [getAt_of_not_member convert hmember]
            nofun
        | some member =>
            rw [getAt_of_lookup convert hmember]
            exact h.structural member
    | _ => nofun

section Insert

variable {table result : Table ByteString ν} {key : ByteString} {json : Json}
  {members : List (ByteString × Json)}

theorem insertMembers_cons {value : ν} (h : convert json = .ok value) :
    insertMembers convert table ((key, json) :: members) =
      insertMembers convert (table.emplace key value) members := by
  simp only [insertMembers, h, bind, Except.bind]

theorem insertMembers_cons_error {exception : Exception} (h : convert json = .error exception) :
    insertMembers convert table ((key, json) :: members) = .error exception := by
  simp only [insertMembers, h, bind, Except.bind]

-- A key of the table keeps its value. The others get that of their first member.
theorem lookup_insertMembers (h : convert.Reads denotes)
    (hresult : insertMembers convert table members = .ok result) (key : ByteString) :
    (table.lookup key = none ∧
        Option.Rel denotes (members.lookup key) (result.lookup key)) ∨
      ((table.lookup key).isSome ∧ result.lookup key = table.lookup key) := by
  induction members generalizing table with
  | nil =>
      obtain rfl := Except.ok.inj hresult
      cases hlookup : table.lookup key with
      | none => exact .inl ⟨rfl, .none⟩
      | some value => exact .inr ⟨rfl, rfl⟩
  | cons member members ih =>
      obtain ⟨other, json⟩ := member
      cases hconvert : convert json with
      | error exception =>
          rw [insertMembers_cons_error hconvert] at hresult
          cases hresult
      | ok value =>
          rw [insertMembers_cons hconvert] at hresult
          have hrest := ih hresult
          rw [Table.lookup_emplace] at hrest
          by_cases hkey : key = other
          · subst hkey
            rcases hrest with ⟨hnone, -⟩ | ⟨-, hkept⟩
            · simp at hnone
            · rw [if_pos rfl] at hkept
              cases hlookup : table.lookup key with
              | none =>
                  rw [hlookup] at hkept
                  refine .inl ⟨rfl, ?_⟩
                  rw [hkept, List.lookup_cons_self]
                  exact .some (h.sound json value hconvert)
              | some existing =>
                  rw [hlookup] at hkept
                  exact .inr ⟨rfl, hkept⟩
          · rw [if_neg hkey] at hrest
            rwa [List.lookup_cons, beq_eq_false_iff_ne.mpr hkey]

theorem insertMembers_ok_iff (table : Table ByteString ν) :
    (∃ result, insertMembers convert table members = .ok result) ↔
      ∀ member ∈ members, ∃ value, convert member.2 = .ok value := by
  induction members generalizing table with
  | nil => simp [insertMembers]
  | cons member members ih =>
      obtain ⟨key, json⟩ := member
      rw [List.forall_mem_cons]
      cases hconvert : convert json with
      | error exception => simp [insertMembers_cons_error hconvert]
      | ok value =>
          rw [insertMembers_cons hconvert, ih]
          simp

theorem insertMembers_structural (h : convert.Reads denotes) (table : Table ByteString ν) :
    insertMembers convert table members ≠ .error .ParseError := by
  induction members generalizing table with
  | nil => nofun
  | cons member members ih =>
      obtain ⟨key, json⟩ := member
      cases hconvert : convert json with
      | error exception =>
          have hjson := h.structural json
          rw [hconvert] at hjson
          rw [insertMembers_cons_error hconvert]
          exact fun herror => hjson (congrArg _ (Except.error.inj herror))
      | ok value =>
          rw [insertMembers_cons hconvert]
          exact ih _

end Insert

theorem getObject_reads (h : convert.Reads denotes) :
    (getObject convert).Reads (ObjectIs denotes) where
  sound := by
    intro json table htable
    cases json with
    | Object members =>
        refine ⟨members, rfl, ?_, ?_⟩
        · intro member hmember
          obtain ⟨value, hvalue⟩ := (insertMembers_ok_iff _).mp ⟨table, htable⟩ member hmember
          exact ⟨value, h.sound member.2 value hvalue⟩
        · intro key
          rcases lookup_insertMembers h htable key with ⟨-, hrel⟩ | ⟨hsome, -⟩
          · exact hrel
          · simp at hsome
    | _ => cases htable
  complete := by
    rintro json table ⟨members, rfl, hmembers, -⟩
    apply (insertMembers_ok_iff ∅).mpr
    intro member hmember
    obtain ⟨value, hvalue⟩ := hmembers member hmember
    exact h.complete member.2 value hvalue
  structural := by
    intro json
    cases json with
    | Object members => exact insertMembers_structural h ∅
    | _ => nofun

-- An object stands for something if and only if each of its members does.
theorem exists_objectIs_iff (h : convert.Reads denotes) (json : Json) :
    (∃ table, ObjectIs denotes json table) ↔
      ∃ members, json = .Object members ∧
        ∀ member ∈ members, ∃ value, denotes member.2 value := by
  constructor
  · rintro ⟨table, members, hjson, hmembers, -⟩
    exact ⟨members, hjson, hmembers⟩
  · rintro ⟨members, rfl, hmembers⟩
    apply ((getObject_reads h).accepts_iff _).mp
    apply (insertMembers_ok_iff ∅).mpr
    intro member hmember
    exact (h.accepts_iff _).mpr (hmembers member hmember)

end Reads

section Write

variable {ν : Type} (traversal : Table.Traversal ByteString ν) {encode : ν → Json}
  {denotes : Json → ν → Prop}

def ofTable (encode : ν → Json) (table : Table ByteString ν) : Json :=
  .Object ((traversal.visit table).map fun entry => (entry.1, encode entry.2))

theorem of_lookup_map {table : Table ByteString ν} {key : ByteString} {json : Json}
    (h : ((traversal.visit table).map fun entry => (entry.1, encode entry.2)).lookup key =
      some json) :
    ∃ value, table.lookup key = some value ∧ json = encode value := by
  obtain ⟨before, after, hsplit, -⟩ := List.lookup_eq_some_iff.mp h
  have hmem : (key, json) ∈
      (traversal.visit table).map fun entry => (entry.1, encode entry.2) := by
    rw [hsplit]
    simp
  obtain ⟨⟨other, value⟩, hentry, heq⟩ := List.mem_map.mp hmem
  obtain ⟨rfl, rfl⟩ := Prod.mk.inj heq
  exact ⟨value, traversal.mem_visit.mp hentry, rfl⟩

-- What is written out stands for the table again, in whichever order it is written.
theorem ofTable_objectIs (hencode : ∀ value, denotes (encode value) value)
    (table : Table ByteString ν) : ObjectIs denotes (ofTable traversal encode table) table := by
  refine ⟨_, rfl, ?_, ?_⟩
  · intro member hmember
    obtain ⟨⟨key, value⟩, -, rfl⟩ := List.mem_map.mp hmember
    exact ⟨value, hencode value⟩
  · intro key
    cases hlookup : ((traversal.visit table).map fun entry =>
        (entry.1, encode entry.2)).lookup key with
    | some json =>
        obtain ⟨value, hvalue, rfl⟩ := of_lookup_map traversal hlookup
        rw [hvalue]
        exact .some (hencode value)
    | none =>
        cases hvalue : table.lookup key with
        | none => exact .none
        | some value =>
            have hentry := traversal.mem_visit.mpr hvalue
            have hne := List.lookup_eq_none_iff.mp hlookup (key, encode value)
              (List.mem_map.mpr ⟨(key, value), hentry, rfl⟩)
            simp at hne

end Write

section Unique

variable {ν : Type} {denotes : Json → ν → Prop}
  (hunique : ∀ json value other, denotes json value → denotes json other → value = other)

include hunique

theorem rel_unique {member : Option Json} {value other : Option ν}
    (h : Option.Rel denotes member value) (hother : Option.Rel denotes member other) :
    value = other := by
  cases h with
  | none =>
      cases hother
      rfl
  | some hvalue =>
      cases hother with
      | some hvalueOther => exact congrArg _ (hunique _ _ _ hvalue hvalueOther)

-- Two tables that one document stands for agree on every key, if the values do.
theorem ObjectIs.lookup_eq {json : Json} {table other : Table ByteString ν}
    (h : ObjectIs denotes json table) (hother : ObjectIs denotes json other) (key : ByteString) :
    table.lookup key = other.lookup key := by
  obtain ⟨members, rfl, -, hrel⟩ := h
  obtain ⟨others, hmembers, -, hrelOther⟩ := hother
  obtain rfl := Json.Object.inj hmembers
  exact rel_unique hunique (hrel key) (hrelOther key)

end Unique

end Json

end Foundation
