import NetRemote.Foundation.Resources

namespace Foundation.UniquePointer

variable {E : Environment} {ε : Type}

section Object

variable (free : Nat → Program E ε Unit)

def reset : Option Nat → Program E ε (Option Nat)
  | none => return none
  | some address => do
      free address
      return none

-- The new object and the one that it was moved from.
def moveConstruct (other : Option Nat) : Option Nat × Option Nat := (other, none)

-- The two objects after an assignment of one to another.
def moveAssign (this other : Option Nat) : Program E ε (Option Nat × Option Nat) := do
  let _ ← reset free this
  return (other, none)

-- What was owned, and the object.
def release (this : Option Nat) : Option Nat × Option Nat := (this, none)

end Object

-- The objects that there are, each with its pointer, and the pointers that were released
-- and that belong to a caller.
structure Objects where
  pointers : Nat → Option (Option Nat)
  loose : Finset Nat

namespace Objects

def initial : Objects := ⟨fun _ => none, ∅⟩

def set (objects : Objects) (name : Nat) (pointer : Option (Option Nat)) : Objects :=
  { objects with pointers := Function.update objects.pointers name pointer }

theorem set_set (objects : Objects) (name : Nat) (pointer later : Option (Option Nat)) :
    (objects.set name pointer).set name later = objects.set name later := by
  rw [set, set, Function.update_idem]
  rfl

end Objects

inductive Operation where
  | Construct (name : Nat)
  | Allocate (name : Nat)
  | Adopt (name address : Nat)
  | MoveConstruct (name other : Nat)
  | MoveAssign (name other : Nat)
  | Reset (name : Nat)
  | Release (name : Nat)
  | Destroy (name : Nat)
  deriving DecidableEq, Repr

variable (allocate : Program E ε (Option Nat)) (free : Nat → Program E ε Unit)

-- What a caller may not do is left out: only a name without an object is constructed, only
-- an object is operated on, and only a pointer that belongs to the caller is adopted.
def perform (objects : Objects) : Operation → Program E ε Objects
  | .Construct name =>
      match objects.pointers name with
      | none => return objects.set name (some none)
      | some _ => return objects
  | .Allocate name =>
      match objects.pointers name with
      | none => allocate.attempt (fun pointer => return objects.set name (some pointer))
          fun _ => return objects
      | some _ => return objects
  | .Adopt name address =>
      match objects.pointers name with
      | none =>
          if address ∈ objects.loose then
            return { objects.set name (some (some address)) with
              loose := objects.loose.erase address }
          else return objects
      | some _ => return objects
  | .MoveConstruct name other =>
      match objects.pointers name, objects.pointers other with
      | none, some pointer =>
          let moved := moveConstruct pointer
          return (objects.set name (some moved.1)).set other (some moved.2)
      | _, _ => return objects
  | .MoveAssign name other =>
      match objects.pointers name, objects.pointers other with
      | some this, some pointer =>
          if name = other then return objects
          else do
            let moved ← moveAssign free this pointer
            return (objects.set name (some moved.1)).set other (some moved.2)
      | _, _ => return objects
  | .Reset name =>
      match objects.pointers name with
      | none => return objects
      | some this => do
          let this ← reset free this
          return objects.set name (some this)
  | .Release name =>
      match objects.pointers name with
      | none => return objects
      | some this =>
          let released := release this
          return { objects.set name (some released.2) with
            loose := objects.loose ∪ released.1.toFinset }
  | .Destroy name =>
      match objects.pointers name with
      | none => return objects
      | some this => do
          let _ ← reset free this
          return objects.set name none

def performAll (objects : Objects) : List Operation → Program E ε Objects
  | [] => return objects
  | operation :: rest => do
      let objects ← perform allocate free objects operation
      performAll objects rest

section Ownership

open Resources

variable {Handle : Type} [DecidableEq Handle] {resources : Resources E Handle}
  {handle : Nat → Handle}

-- An object owns by its pointer, and the callers own together.
def owned (handle : Nat → Handle) (objects : Objects) : Option Nat → Finset Handle
  | some name => (((objects.pointers name).bind id).map handle).toFinset
  | none => objects.loose.image handle

theorem owned_some {objects : Objects} {name : Nat} {this : Option Nat}
    (h : objects.pointers name = some this) :
    owned handle objects (some name) = (this.map handle).toFinset := by
  rw [owned, h]
  rfl

theorem owned_absent {objects : Objects} {name : Nat} (h : objects.pointers name = none) :
    owned handle objects (some name) = ∅ := by
  rw [owned, h]
  rfl

theorem owned_initial (who : Option Nat) : owned handle .initial who = ∅ := by
  cases who <;> rfl

theorem owned_set_self (objects : Objects) (name : Nat) (pointer : Option (Option Nat)) :
    owned handle (objects.set name pointer) (some name) =
      ((pointer.bind id).map handle).toFinset := by
  simp [owned, Objects.set]

theorem owned_set_ne (objects : Objects) {name : Nat} (pointer : Option (Option Nat))
    {who : Option Nat} (h : who ≠ some name) :
    owned handle (objects.set name pointer) who = owned handle objects who := by
  cases who with
  | none => rfl
  | some other =>
      have hne : other ≠ name := fun heq => h (congrArg some heq)
      simp [owned, Objects.set, hne]

section Shared

variable {free : Nat → Program E ε Unit} {held : Finset Handle} {objects : Objects}

theorem leaves_reset (hfree : ∀ address, resources.Frees (some (handle address)) (free address))
    {this : Option Nat} (hheld : (this.map handle).toFinset ⊆ held) :
    resources.Leaves (fun pointer now => pointer = none ∧ now = held \ (this.map handle).toFinset)
      (fun _ _ => False) (reset free this) held := by
  cases this with
  | none => exact ⟨rfl, by simp⟩
  | some address =>
      apply leaves_bind
      apply leaves_mono (hfree address held hheld)
      · exact fun _ now hnow => ⟨rfl, hnow⟩
      · exact fun _ _ => id

-- The object stays without its pointer or ends.
theorem shared_reset {name : Nat} {this : Option Nat} (hname : objects.pointers name = some this)
    (pointer : Option (Option Nat)) (hpointer : pointer.bind id = none)
    (hshared : Shared held (owned handle objects)) :
    Shared (held \ (this.map handle).toFinset) (owned handle (objects.set name pointer)) := by
  apply shared_free hshared (owned_some hname).ge
  · rw [owned_set_self, hpointer, owned_some hname, Finset.sdiff_self]
    rfl
  · exact fun who hwho => owned_set_ne _ _ hwho

theorem shared_moved {name other : Nat} {pointer : Option Nat} (hne : other ≠ name)
    (hempty : owned handle objects (some name) = ∅) (hother : objects.pointers other = some pointer)
    (hshared : Shared held (owned handle objects)) :
    Shared held (owned handle ((objects.set name (some pointer)).set other (some none))) := by
  have hdifferent : (some other : Option Nat) ≠ some name := fun heq => hne (Option.some.inj heq)
  apply shared_transfer hshared hdifferent (owned_some hother).ge
  · rw [owned_set_self, owned_some hother, Finset.sdiff_self]
    rfl
  · rw [owned_set_ne _ _ hdifferent.symm, owned_set_self, hempty, Finset.empty_union]
    rfl
  · intro who hgiver htaker
    rw [owned_set_ne _ _ hgiver, owned_set_ne _ _ htaker]

theorem shared_constructed {name : Nat} (hname : objects.pointers name = none)
    (pointer : Option Nat)
    (hfresh : ∀ new ∈ pointer.map handle, new ∉ held)
    (hshared : Shared held (owned handle objects)) :
    Shared (held ∪ (pointer.map handle).toFinset)
      (owned handle (objects.set name (some pointer))) := by
  apply shared_acquire hshared
  · exact fun new hnew => hfresh new (Option.mem_toFinset.mp hnew)
  · rw [owned_set_self, owned_absent hname, Finset.empty_union]
    rfl
  · exact fun who hwho => owned_set_ne _ _ hwho

-- The pointer goes from the callers to the object.
theorem shared_adopted (hhandle : Function.Injective handle) {name address : Nat}
    (hname : objects.pointers name = none) (haddress : address ∈ objects.loose)
    (hshared : Shared held (owned handle objects)) :
    Shared held (owned handle { objects.set name (some (some address)) with
      loose := objects.loose.erase address }) := by
  have hpart : {handle address} ⊆ owned handle objects none :=
    Finset.singleton_subset_iff.mpr (Finset.mem_image_of_mem handle haddress)
  apply shared_transfer hshared (Option.some_ne_none name).symm hpart
  · rw [Finset.sdiff_singleton_eq_erase]
    exact Finset.image_erase hhandle ..
  · rw [owned_absent hname, Finset.empty_union]
    exact owned_set_self ..
  · intro who hgiver htaker
    cases who with
    | none => exact absurd rfl hgiver
    | some other => exact owned_set_ne _ _ htaker

theorem shared_released {name : Nat} {this : Option Nat} (hname : objects.pointers name = some this)
    (hshared : Shared held (owned handle objects)) :
    Shared held (owned handle { objects.set name (some none) with
      loose := objects.loose ∪ this.toFinset }) := by
  apply shared_transfer hshared (Option.some_ne_none name) (owned_some hname).ge
  · rw [owned_some hname, Finset.sdiff_self]
    exact owned_set_self ..
  · rw [owned, owned, Finset.image_union]
    cases this <;> simp
  · intro who hgiver htaker
    cases who with
    | none => exact absurd rfl htaker
    | some other => exact owned_set_ne _ _ hgiver

end Shared

section Run

variable {allocate : Program E ε (Option Nat)} {free : Nat → Program E ε Unit}
  {held : Finset Handle} {objects : Objects}

-- Each operation leaves what is held with one owner for each handle.
theorem leaves_perform (hhandle : Function.Injective handle)
    (hallocate : resources.Gives ∅ (fun pointer => pointer.map handle) allocate)
    (hfree : ∀ address, resources.Frees (some (handle address)) (free address))
    (hshared : Shared held (owned handle objects)) (operation : Operation) :
    resources.Leaves (fun objects now => Shared now (owned handle objects)) (fun _ _ => False)
      (perform allocate free objects operation) held := by
  have hheld {name : Nat} {this : Option Nat} (h : objects.pointers name = some this) :
      (this.map handle).toFinset ⊆ held := by
    rw [← owned_some h]
    exact fun other hother => (hshared.owner other).mpr ⟨some name, hother⟩
  cases operation with
  | Construct name =>
      rw [perform]
      cases hname : objects.pointers name with
      | some this => exact hshared
      | none =>
          have hconstructed := shared_constructed hname none nofun hshared
          rwa [Option.map_none, Option.toFinset_none, Finset.union_empty] at hconstructed
  | Allocate name =>
      rw [perform]
      cases hname : objects.pointers name with
      | some this => exact hshared
      | none =>
          apply leaves_attempt
          apply leaves_mono (hallocate held (Finset.empty_subset _))
          · rintro pointer now ⟨hfresh, rfl⟩
            exact shared_constructed hname pointer hfresh hshared
          · rintro error now rfl
            exact hshared
  | Adopt name address =>
      rw [perform]
      cases hname : objects.pointers name with
      | some this => exact hshared
      | none =>
          dsimp only
          split_ifs with haddress
          · exact shared_adopted hhandle hname haddress hshared
          · exact hshared
  | MoveConstruct name other =>
      rw [perform]
      cases hname : objects.pointers name with
      | some this => exact hshared
      | none =>
          cases hother : objects.pointers other with
          | none => exact hshared
          | some pointer =>
              have hne : other ≠ name := by
                rintro rfl
                rw [hname] at hother
                cases hother
              exact shared_moved hne (owned_absent hname) hother hshared
  | MoveAssign name other =>
      rw [perform]
      cases hname : objects.pointers name with
      | none => exact hshared
      | some this =>
          cases hother : objects.pointers other with
          | none => exact hshared
          | some pointer =>
              dsimp only
              split_ifs with heq
              · exact hshared
              · have hreset := shared_reset hname (some none) rfl hshared
                have hstays : (objects.set name (some none)).pointers other = some pointer :=
                  (Function.update_of_ne (Ne.symm heq) ..).trans hother
                have hmoved := shared_moved (Ne.symm heq) (owned_set_self ..) hstays hreset
                rw [Objects.set_set] at hmoved
                apply leaves_bind
                apply leaves_bind
                apply leaves_mono (leaves_reset hfree (hheld hname))
                · rintro _ now ⟨-, rfl⟩
                  exact hmoved
                · exact fun _ _ => id
  | Reset name =>
      rw [perform]
      cases hname : objects.pointers name with
      | none => exact hshared
      | some this =>
          apply leaves_bind
          apply leaves_mono (leaves_reset hfree (hheld hname))
          · rintro pointer now ⟨rfl, rfl⟩
            exact shared_reset hname _ rfl hshared
          · exact fun _ _ => id
  | Release name =>
      rw [perform]
      cases hname : objects.pointers name with
      | none => exact hshared
      | some this => exact shared_released hname hshared
  | Destroy name =>
      rw [perform]
      cases hname : objects.pointers name with
      | none => exact hshared
      | some this =>
          apply leaves_bind
          apply leaves_mono (leaves_reset hfree (hheld hname))
          · rintro pointer now ⟨-, rfl⟩
            exact shared_reset hname _ rfl hshared
          · exact fun _ _ => id

theorem leaves_performAll (hhandle : Function.Injective handle)
    (hallocate : resources.Gives ∅ (fun pointer => pointer.map handle) allocate)
    (hfree : ∀ address, resources.Frees (some (handle address)) (free address))
    (hshared : Shared held (owned handle objects)) (operations : List Operation) :
    resources.Leaves (fun objects now => Shared now (owned handle objects)) (fun _ _ => False)
      (performAll allocate free objects operations) held := by
  induction operations generalizing objects held with
  | nil => exact hshared
  | cons operation rest ih =>
      apply leaves_bind
      apply leaves_mono (leaves_perform hhandle hallocate hfree hshared operation)
      · exact fun _ now hnow => ih hnow
      · exact fun _ _ => id

end Run

end Ownership

end Foundation.UniquePointer
