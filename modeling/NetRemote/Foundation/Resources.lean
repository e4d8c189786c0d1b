import Mathlib.Data.Finset.Option
import Mathlib.Data.Finset.SDiff
import NetRemote.Foundation.Interleaving
import NetRemote.Foundation.Program

namespace Foundation

namespace Program

variable {E : Environment} {ε α β : Type}

-- A block in a scope with a local object: its destructor runs when the block returns and
-- when it throws.
def enclosed (destructor : Program E ε Unit) (block : Program E ε α) : Program E ε α :=
  block.attempt (fun value => destructor >>= fun _ => .Return value)
    fun error => destructor >>= fun _ => .Throw error

-- The object is moved out of the scope by a block that returns.
def guarded (destructor : Program E ε Unit) (block : Program E ε α) : Program E ε α :=
  block.attempt .Return fun error => destructor >>= fun _ => .Throw error

-- Whatever the first block returns.
theorem returns_last {described : β → Prop} {block : Program E ε α} {next : α → Program E ε β}
    (hnext : ∀ value, (next value).Returns described) : (block >>= next).Returns described := by
  have hany : block.Returns fun _ => True := returns_of_forall fun _ => trivial
  exact returns_bind hany fun value _ => hnext value

theorem returns_guarded {described : α → Prop} (destructor : Program E ε Unit)
    {block : Program E ε α} (hblock : block.Returns described) :
    (guarded destructor block).Returns described :=
  returns_attempt hblock (fun _ hvalue => hvalue) fun _ => returns_last fun _ => trivial

end Program

-- What the exchanges with an environment do with the handles that it hands out. What is
-- used is a pointer, which can be null, and what is released is used by that.
structure Resources (E : Environment) (Handle : Type) where
  acquired : E.Exchange → Option Handle
  released : E.Request → Option Handle
  used : E.Request → List (Option Handle)
  used_of_released : ∀ request handle, released request = some handle → some handle ∈ used request

namespace Resources

variable {E : Environment} {Handle : Type} [DecidableEq Handle] {ε α β : Type}
  (resources : Resources E Handle)

def after (held : Finset Handle) (exchange : E.Exchange) : Finset Handle :=
  held \ (resources.released exchange.1).toFinset ∪ (resources.acquired exchange).toFinset

def heldAfter (held : Finset Handle) (trace : List E.Exchange) : Finset Handle :=
  trace.foldl resources.after held

@[simp] theorem mem_after {held : Finset Handle} {exchange : E.Exchange} {handle : Handle} :
    handle ∈ resources.after held exchange ↔
      handle ∈ held ∧ resources.released exchange.1 ≠ some handle ∨
        resources.acquired exchange = some handle := by
  simp [after]

-- No pointer is null and none dangles.
def Points (held : Finset Handle) (request : E.Request) : Prop :=
  ∀ pointer ∈ resources.used request, ∃ handle ∈ held, pointer = some handle

def Valid (held : Finset Handle) : List E.Exchange → Prop
  | [] => True
  | exchange :: later =>
      resources.Points held exchange.1 ∧ Valid (resources.after held exchange) later

-- What is handed out is nothing that is held.
def Fresh (held : Finset Handle) : List E.Exchange → Prop
  | [] => True
  | exchange :: later =>
      (∀ handle ∈ resources.acquired exchange, handle ∉ held) ∧
        Fresh (resources.after held exchange) later

instance Fresh.decidable : ∀ held trace, Decidable (resources.Fresh held trace)
  | _, [] => .isTrue trivial
  | held, exchange :: later =>
      have := Fresh.decidable (resources.after held exchange) later
      inferInstanceAs (Decidable ((∀ handle ∈ resources.acquired exchange, handle ∉ held) ∧
        resources.Fresh (resources.after held exchange) later))

-- Whatever it is answered, the program uses only what is held, and ends with what is
-- required to be held then.
def Leaves (returns : α → Finset Handle → Prop) (throws : ε → Finset Handle → Prop) :
    Program E ε α → Finset Handle → Prop
  | .Return value, held => returns value held
  | .Throw error, held => throws error held
  | .Ask request resume, held => resources.Points held request ∧
      ∀ reply, (∀ handle ∈ resources.acquired ⟨request, reply⟩, handle ∉ held) →
        Leaves returns throws (resume reply) (resources.after held ⟨request, reply⟩)

def Ended (returns : α → Finset Handle → Prop) (throws : ε → Finset Handle → Prop)
    (held : Finset Handle) : Except ε α → Prop
  | .ok value => returns value held
  | .error error => throws error held

section Leaves

variable {resources} {returns : α → Finset Handle → Prop} {throws : ε → Finset Handle → Prop}
  {held : Finset Handle}

theorem leaves_mono {returns' : α → Finset Handle → Prop} {throws' : ε → Finset Handle → Prop}
    {program : Program E ε α} (h : resources.Leaves returns throws program held)
    (hreturns : ∀ value now, returns value now → returns' value now)
    (hthrows : ∀ error now, throws error now → throws' error now) :
    resources.Leaves returns' throws' program held := by
  induction program generalizing held with
  | Return value => exact hreturns value held h
  | Throw error => exact hthrows error held h
  | Ask request resume ih => exact ⟨h.1, fun reply hfresh => ih reply (h.2 reply hfresh)⟩

theorem leaves_returns {described : α → Prop} {program : Program E ε α}
    (h : resources.Leaves returns throws program held) (hreturns : program.Returns described) :
    resources.Leaves (fun value now => returns value now ∧ described value)
      throws program held := by
  induction program generalizing held with
  | Return value => exact ⟨h, hreturns⟩
  | Throw error => exact h
  | Ask request resume ih =>
      exact ⟨h.1, fun reply hfresh => ih reply (h.2 reply hfresh) (hreturns reply)⟩

theorem leaves_attempt {returns' : β → Finset Handle → Prop} {throws' : ε → Finset Handle → Prop}
    {block : Program E ε α} {next : α → Program E ε β} {handler : ε → Program E ε β}
    (hblock : resources.Leaves (fun value => resources.Leaves returns' throws' (next value))
      (fun error => resources.Leaves returns' throws' (handler error)) block held) :
    resources.Leaves returns' throws' (block.attempt next handler) held := by
  induction block generalizing held with
  | Return value => exact hblock
  | Throw error => exact hblock
  | Ask request resume ih =>
      exact ⟨hblock.1, fun reply hfresh => ih reply (hblock.2 reply hfresh)⟩

theorem leaves_bind {returns' : β → Finset Handle → Prop} {block : Program E ε α}
    {next : α → Program E ε β}
    (hblock : resources.Leaves (fun value => resources.Leaves returns' throws (next value))
      throws block held) :
    resources.Leaves returns' throws (block >>= next) held :=
  leaves_attempt hblock

theorem ended_of_leaves {program : Program E ε α} {outcome : Except ε α}
    (h : resources.Leaves returns throws program held) (hruns : program.Runs [] outcome) :
    Ended returns throws held outcome := by
  cases hruns with
  | Return value => exact h
  | Throw error => exact h

theorem leaves_step {program : Program E ε α} {exchange : E.Exchange} {later : List E.Exchange}
    {outcome : Except ε α} (h : resources.Leaves returns throws program held)
    (hruns : program.Runs (exchange :: later) outcome)
    (hfresh : ∀ handle ∈ resources.acquired exchange, handle ∉ held) :
    resources.Points held exchange.1 ∧ ∃ rest,
      resources.Leaves returns throws rest (resources.after held exchange) ∧
        rest.Runs later outcome := by
  cases hruns with
  | Ask reply hrest => exact ⟨h.1, _, h.2 reply hfresh, hrest⟩

end Leaves

section Turns

variable {ι : Type} [DecidableEq ι] {resources} {held : Finset Handle} {owned : ι → Finset Handle}

-- Every handle that is held is owned by one of those who take turns.
structure Shared (held : Finset Handle) (owned : ι → Finset Handle) : Prop where
  owner : ∀ handle, handle ∈ held ↔ ∃ who, handle ∈ owned who
  sole : ∀ who other handle, handle ∈ owned who → handle ∈ owned other → who = other

omit [DecidableEq Handle] [DecidableEq ι] in
theorem Points.shared {request : E.Request} {who : ι} (hshared : Shared held owned)
    (h : resources.Points (owned who) request) : resources.Points held request := by
  intro pointer hpointer
  obtain ⟨handle, hhandle, heq⟩ := h pointer hpointer
  exact ⟨handle, (hshared.owner handle).mpr ⟨who, hhandle⟩, heq⟩

variable {part : Finset Handle} {owned' : ι → Finset Handle}

-- A part of what one owns goes to another.
theorem shared_transfer {giver taker : ι} (hshared : Shared held owned) (hne : giver ≠ taker)
    (hpart : part ⊆ owned giver) (hgiver : owned' giver = owned giver \ part)
    (htaker : owned' taker = owned taker ∪ part)
    (hothers : ∀ who, who ≠ giver → who ≠ taker → owned' who = owned who) :
    Shared held owned' := by
  have hmem (who : ι) (handle : Handle) : handle ∈ owned' who ↔
      (handle ∈ owned who ∧ ¬ (who = giver ∧ handle ∈ part)) ∨ who = taker ∧ handle ∈ part := by
    by_cases hg : who = giver
    · subst hg
      simp [hgiver, hne]
    · by_cases ht : who = taker
      · subst ht
        simp [htaker, hg]
      · simp [hothers who hg ht, hg, ht]
  constructor
  · intro handle
    rw [hshared.owner]
    constructor
    · rintro ⟨who, hwho⟩
      by_cases hmoved : who = giver ∧ handle ∈ part
      · exact ⟨taker, (hmem _ _).mpr (.inr ⟨rfl, hmoved.2⟩)⟩
      · exact ⟨who, (hmem _ _).mpr (.inl ⟨hwho, hmoved⟩)⟩
    · rintro ⟨who, hwho⟩
      rcases (hmem _ _).mp hwho with ⟨hold, -⟩ | ⟨-, hmoved⟩
      · exact ⟨who, hold⟩
      · exact ⟨giver, hpart hmoved⟩
  · intro who other handle hwho hother
    rcases (hmem _ _).mp hwho with ⟨hold, hstays⟩ | ⟨rfl, hmoved⟩ <;>
      rcases (hmem _ _).mp hother with ⟨hold', hstays'⟩ | ⟨rfl, hmoved'⟩
    · exact hshared.sole who other handle hold hold'
    · exact absurd ⟨hshared.sole who giver handle hold (hpart hmoved'), hmoved'⟩ hstays
    · exact absurd ⟨hshared.sole other giver handle hold' (hpart hmoved), hmoved⟩ hstays'
    · rfl

theorem shared_acquire {taker : ι} (hshared : Shared held owned)
    (hfresh : ∀ handle ∈ part, handle ∉ held) (htaker : owned' taker = owned taker ∪ part)
    (hothers : ∀ who, who ≠ taker → owned' who = owned who) : Shared (held ∪ part) owned' := by
  have hmem (who : ι) (handle : Handle) : handle ∈ owned' who ↔
      handle ∈ owned who ∨ who = taker ∧ handle ∈ part := by
    by_cases ht : who = taker
    · subst ht
      simp [htaker]
    · simp [hothers who ht, ht]
  have hnew {handle : Handle} {who : ι} (hpart : handle ∈ part) : handle ∉ owned who :=
    fun hold => hfresh handle hpart ((hshared.owner handle).mpr ⟨who, hold⟩)
  constructor
  · intro handle
    rw [Finset.mem_union, hshared.owner]
    constructor
    · rintro (⟨who, hwho⟩ | hpart)
      · exact ⟨who, (hmem _ _).mpr (.inl hwho)⟩
      · exact ⟨taker, (hmem _ _).mpr (.inr ⟨rfl, hpart⟩)⟩
    · rintro ⟨who, hwho⟩
      exact ((hmem _ _).mp hwho).imp (fun hold => ⟨who, hold⟩) And.right
  · intro who other handle hwho hother
    rcases (hmem _ _).mp hwho with hold | ⟨rfl, hpart⟩ <;>
      rcases (hmem _ _).mp hother with hold' | ⟨rfl, hpart'⟩
    · exact hshared.sole who other handle hold hold'
    · exact absurd hold (hnew hpart')
    · exact absurd hold' (hnew hpart)
    · rfl

theorem shared_free {loser : ι} (hshared : Shared held owned) (hpart : part ⊆ owned loser)
    (hloser : owned' loser = owned loser \ part)
    (hothers : ∀ who, who ≠ loser → owned' who = owned who) : Shared (held \ part) owned' := by
  have hmem (who : ι) (handle : Handle) :
      handle ∈ owned' who ↔ handle ∈ owned who ∧ handle ∉ part := by
    by_cases hl : who = loser
    · subst hl
      simp [hloser]
    · rw [hothers who hl, iff_self_and]
      exact fun hold hmoved => hl (hshared.sole who loser handle hold (hpart hmoved))
  constructor
  · intro handle
    simp only [Finset.mem_sdiff, hshared.owner, hmem, exists_and_right]
  · intro who other handle hwho hother
    exact hshared.sole who other handle ((hmem _ _).mp hwho).1 ((hmem _ _).mp hother).1

omit [DecidableEq Handle] [DecidableEq ι] in
-- Each of them shares what it owns among its own.
theorem shared_nested {κ : Type} {parts : ι → κ → Finset Handle} (hshared : Shared held owned)
    (hparts : ∀ who, Shared (owned who) (parts who)) :
    Shared held fun who : ι × κ => parts who.1 who.2 := by
  constructor
  · intro handle
    rw [hshared.owner]
    constructor
    · rintro ⟨who, hwho⟩
      obtain ⟨inner, hinner⟩ := ((hparts who).owner handle).mp hwho
      exact ⟨(who, inner), hinner⟩
    · rintro ⟨⟨who, inner⟩, hinner⟩
      exact ⟨who, ((hparts who).owner handle).mpr ⟨inner, hinner⟩⟩
  · rintro ⟨who, inner⟩ ⟨other, inner'⟩ handle hinner hinner'
    have hwho : who = other := hshared.sole who other handle
      (((hparts who).owner handle).mpr ⟨inner, hinner⟩)
      (((hparts other).owner handle).mpr ⟨inner', hinner'⟩)
    subst hwho
    rw [(hparts who).sole inner inner' handle hinner hinner']

omit [DecidableEq Handle] [DecidableEq ι] in
-- Each handle that is held has its owner, and there is none.
theorem Shared.eq_empty (hshared : Shared held owned) (hnone : ∀ who, owned who = ∅) :
    held = ∅ := by
  apply Finset.eq_empty_of_forall_notMem
  intro handle hhandle
  obtain ⟨who, hwho⟩ := (hshared.owner handle).mp hhandle
  rw [hnone who] at hwho
  cases hwho

-- What one of them releases is its own, and what it acquires is nobody's.
theorem Shared.after {exchange : E.Exchange} {who : ι} (hshared : Shared held owned)
    (hpoints : resources.Points (owned who) exchange.1)
    (hfresh : ∀ handle ∈ resources.acquired exchange, handle ∉ held) :
    Shared (resources.after held exchange)
      (Function.update owned who (resources.after (owned who) exchange)) := by
  have hreleased : (resources.released exchange.1).toFinset ⊆ owned who := by
    intro handle hhandle
    have hused := resources.used_of_released _ _ (Option.mem_toFinset.mp hhandle)
    obtain ⟨other, hother, heq⟩ := hpoints _ hused
    rwa [Option.some.inj heq]
  have hfreed : Shared (held \ (resources.released exchange.1).toFinset)
      (Function.update owned who (owned who \ (resources.released exchange.1).toFinset)) :=
    shared_free hshared hreleased (Function.update_self ..) fun _ h => Function.update_of_ne h ..
  apply shared_acquire hfreed
  · intro handle hhandle hheld
    exact hfresh handle (Option.mem_toFinset.mp hhandle) (Finset.mem_sdiff.mp hheld).1
  · rw [Function.update_self, Function.update_self]
    rfl
  · intro other h
    rw [Function.update_of_ne h, Function.update_of_ne h]

-- Several programs take turns. None can reach what another one holds, so that each goes on
-- as if it were alone.
theorem valid_interleaving {programs : ι → Program E ε α}
    {returns : ι → α → Finset Handle → Prop} {throws : ι → ε → Finset Handle → Prop}
    {steps : ι → List E.Exchange} {outcomes : ι → Except ε α} {merged : List (ι × E.Exchange)}
    (hleaves : ∀ who, resources.Leaves (returns who) (throws who) (programs who) (owned who))
    (hruns : ∀ who, (programs who).Runs (steps who) (outcomes who))
    (hmerged : Interleaving steps merged) (hshared : Shared held owned)
    (hfresh : resources.Fresh held (merged.map Prod.snd)) :
    resources.Valid held (merged.map Prod.snd) ∧ ∃ left : ι → Finset Handle,
      Shared (resources.heldAfter held (merged.map Prod.snd)) left ∧
      ∀ who, Ended (returns who) (throws who) (left who) (outcomes who) := by
  induction merged generalizing programs owned steps held with
  | nil =>
      refine ⟨trivial, owned, hshared, fun who => ?_⟩
      have hended := hruns who
      rw [← hmerged who] at hended
      exact ended_of_leaves (hleaves who) hended
  | cons entry merged ih =>
      obtain ⟨who, exchange⟩ := entry
      have hown : steps who = exchange :: ownSteps who merged := by
        rw [← hmerged who, ownSteps_cons_self]
      have hnow := hruns who
      rw [hown] at hnow
      have hfreshOwn : ∀ handle ∈ resources.acquired exchange, handle ∉ owned who :=
        fun handle hhandle hmem =>
          hfresh.1 handle hhandle ((hshared.owner handle).mpr ⟨who, hmem⟩)
      obtain ⟨hpoints, rest, hrest, hlater⟩ := leaves_step (hleaves who) hnow hfreshOwn
      have hleavesNext (other : ι) : resources.Leaves (returns other) (throws other)
          (Function.update programs who rest other)
          (Function.update owned who (resources.after (owned who) exchange) other) := by
        by_cases h : other = who
        · subst h
          rwa [Function.update_self, Function.update_self]
        · rw [Function.update_of_ne h, Function.update_of_ne h]
          exact hleaves other
      have hrunsNext (other : ι) :
          (Function.update programs who rest other).Runs (ownSteps other merged)
            (outcomes other) := by
        by_cases h : other = who
        · subst h
          rwa [Function.update_self]
        · rw [Function.update_of_ne h, ← ownSteps_cons_ne (Ne.symm h) exchange, hmerged other]
          exact hruns other
      have hnext :=
        ih hleavesNext hrunsNext (fun _ => rfl) (hshared.after hpoints hfresh.1) hfresh.2
      exact ⟨⟨hpoints.shared hshared, hnext.1⟩, hnext.2⟩

end Turns

section Tidy

-- All that is acquired on the way is released again, however the program ends.
def Tidy (needed : Finset Handle) (program : Program E ε α) : Prop :=
  ∀ held, needed ⊆ held →
    resources.Leaves (fun _ now => now = held) (fun _ now => now = held) program held

-- What the program returns comes with a handle that is the caller's from then on.
def Gives (needed : Finset Handle) (handleOf : α → Option Handle) (program : Program E ε α) :
    Prop :=
  ∀ held, needed ⊆ held → resources.Leaves
    (fun value now =>
      (∀ handle ∈ handleOf value, handle ∉ held) ∧ now = held ∪ (handleOf value).toFinset)
    (fun _ now => now = held) program held

-- The program is handed what it has to release.
def Takes (needed : Finset Handle) (handle : Option Handle) (program : Program E ε α) : Prop :=
  ∀ held, needed ∪ handle.toFinset ⊆ held → resources.Leaves
    (fun _ now => now = held \ handle.toFinset) (fun _ now => now = held \ handle.toFinset)
    program held

def Frees (handle : Option Handle) (destructor : Program E ε Unit) : Prop :=
  ∀ held, handle.toFinset ⊆ held → resources.Leaves
    (fun _ now => now = held \ handle.toFinset) (fun _ _ => False) destructor held

variable {resources} {needed : Finset Handle}

theorem tidy_return (value : α) : resources.Tidy needed (.Return value : Program E ε α) :=
  fun _ _ => rfl

theorem tidy_throw (error : ε) : resources.Tidy needed (.Throw error : Program E ε α) :=
  fun _ _ => rfl

theorem tidy_attempt {block : Program E ε α} {next : α → Program E ε β}
    {handler : ε → Program E ε β} (hblock : resources.Tidy needed block)
    (hnext : ∀ value, resources.Tidy needed (next value))
    (hhandler : ∀ error, resources.Tidy needed (handler error)) :
    resources.Tidy needed (block.attempt next handler) := by
  intro held hheld
  apply leaves_attempt
  apply leaves_mono (hblock held hheld)
  · rintro value now rfl
    exact hnext value now hheld
  · rintro error now rfl
    exact hhandler error now hheld

theorem tidy_bind {block : Program E ε α} {next : α → Program E ε β}
    (hblock : resources.Tidy needed block) (hnext : ∀ value, resources.Tidy needed (next value)) :
    resources.Tidy needed (block >>= next) :=
  tidy_attempt hblock hnext tidy_throw

theorem tidy_ite {c : Prop} [Decidable c] {program other : Program E ε α}
    (hthen : c → resources.Tidy needed program) (helse : ¬ c → resources.Tidy needed other) :
    resources.Tidy needed (if c then program else other) := by
  split_ifs with h
  · exact hthen h
  · exact helse h

theorem tidy_onlyIf (condition : Bool) {block : Program E ε Unit}
    (hblock : resources.Tidy needed block) :
    resources.Tidy needed (Program.onlyIf condition block) :=
  tidy_ite (fun _ => hblock) fun _ => tidy_return ()

theorem tidy_forM {items : List β} {body : β → Program E ε Unit}
    (hbody : ∀ item ∈ items, resources.Tidy needed (body item)) :
    resources.Tidy needed (items.forM body) := by
  induction items with
  | nil => exact tidy_return ()
  | cons item items ih =>
      rw [List.forall_mem_cons] at hbody
      exact tidy_bind hbody.1 fun _ => ih hbody.2

-- A request that only uses handles.
theorem tidy_ask {request : E.Request}
    (hacquired : ∀ reply, resources.acquired ⟨request, reply⟩ = none)
    (hreleased : resources.released request = none) (hused : resources.Points needed request) :
    resources.Tidy needed (Program.ask request : Program E ε _) := by
  intro held hheld
  refine ⟨fun pointer hpointer => ?_, fun reply _ => ?_⟩
  · obtain ⟨handle, hhandle, heq⟩ := hused pointer hpointer
    exact ⟨handle, hheld hhandle, heq⟩
  · simp [Leaves, after, hacquired, hreleased]

theorem gives_ask {request : E.Request} {handleOf : E.Reply request → Option Handle}
    (hacquired : ∀ reply, resources.acquired ⟨request, reply⟩ = handleOf reply)
    (hreleased : resources.released request = none) (hused : resources.Points needed request) :
    resources.Gives needed handleOf (Program.ask request : Program E ε _) := by
  intro held hheld
  refine ⟨fun pointer hpointer => ?_, fun reply hfresh => ?_⟩
  · obtain ⟨handle, hhandle, heq⟩ := hused pointer hpointer
    exact ⟨handle, hheld hhandle, heq⟩
  · refine ⟨fun handle hhandle => hfresh handle ?_, ?_⟩
    · rwa [hacquired]
    · simp [after, hacquired, hreleased]

-- A request that releases, and no more.
theorem frees_ask {request : E.Request} {resume : E.Reply request → Program E ε Unit}
    (hacquired : ∀ reply, resources.acquired ⟨request, reply⟩ = none)
    (hused : resources.Points (resources.released request).toFinset request)
    (hresume : ∀ reply, resume reply = .Return ()) :
    resources.Frees (resources.released request) (.Ask request resume) := by
  intro held hheld
  refine ⟨fun pointer hpointer => ?_, fun reply _ => ?_⟩
  · obtain ⟨handle, hhandle, heq⟩ := hused pointer hpointer
    exact ⟨handle, hheld hhandle, heq⟩
  · simp [hresume, Leaves, after, hacquired]

theorem frees_none : resources.Frees none (.Return () : Program E ε Unit) := by
  intro held _
  simp [Leaves]

theorem union_sdiff_of_fresh {held : Finset Handle} {acquired : Option Handle}
    (hfresh : ∀ handle ∈ acquired, handle ∉ held) :
    (held ∪ acquired.toFinset) \ acquired.toFinset = held := by
  apply Finset.union_sdiff_cancel_right
  rw [Finset.disjoint_right]
  exact fun handle hhandle => hfresh handle (Option.mem_toFinset.mp hhandle)

theorem takes_none {program : Program E ε α} (h : resources.Tidy needed program) :
    resources.Takes needed none program := by
  intro held hheld
  simpa using h held (Finset.union_subset_left hheld)

-- The local object of a scope owns the handle.
theorem takes_enclosed {handle : Option Handle} {destructor : Program E ε Unit}
    {block : Program E ε α} (hfrees : resources.Frees handle destructor)
    (hblock : resources.Tidy (needed ∪ handle.toFinset) block) :
    resources.Takes needed handle (Program.enclosed destructor block) := by
  intro held hheld
  have hfree := hfrees held (Finset.union_subset_right hheld)
  apply leaves_attempt
  apply leaves_mono (hblock held hheld)
  · rintro value now rfl
    exact leaves_bind (leaves_mono hfree (fun _ _ hnow => hnow) fun _ _ => False.elim)
  · rintro error now rfl
    exact leaves_bind (leaves_mono hfree (fun _ _ hnow => hnow) fun _ _ => False.elim)

-- What one program gives, the next one takes.
theorem tidy_passed {handleOf : α → Option Handle} {described : α → Prop} {block : Program E ε α}
    {next : α → Program E ε β} (hgives : resources.Gives needed handleOf block)
    (hreturns : block.Returns described)
    (hnext : ∀ value, described value → resources.Takes needed (handleOf value) (next value)) :
    resources.Tidy needed (block >>= next) := by
  intro held hheld
  apply leaves_bind
  apply leaves_mono (leaves_returns (hgives held hheld) hreturns)
  · rintro value now ⟨⟨hfresh, rfl⟩, hvalue⟩
    have htakes := hnext value hvalue _ (Finset.union_subset_union_left hheld)
    rwa [union_sdiff_of_fresh hfresh] at htakes
  · exact fun _ _ hnow => hnow

-- The result of what gives a handle is looked at, and a fault is thrown where it came
-- without.
theorem gives_checked {handleOf : α → Option Handle} {handleOf' : β → Option Handle}
    {block : Program E ε α} {next : α → Program E ε β}
    (hgives : resources.Gives needed handleOf block)
    (hnext : ∀ value, (∃ result, next value = .Return result ∧ handleOf' result = handleOf value) ∨
      ∃ error, next value = .Throw error ∧ handleOf value = none) :
    resources.Gives needed handleOf' (block >>= next) := by
  intro held hheld
  apply leaves_bind
  apply leaves_mono (hgives held hheld)
  · rintro value now ⟨hfresh, rfl⟩
    rcases hnext value with ⟨result, hresult, hhandle⟩ | ⟨error, herror, hnone⟩
    · rw [hresult, Leaves, hhandle]
      exact ⟨hfresh, rfl⟩
    · rw [herror, Leaves, hnone]
      simp
  · exact fun _ _ hnow => hnow

-- What is moved out of the scope is the caller's, unless the block throws.
theorem gives_guarded {handleOf : α → Option Handle} {described : α → Prop}
    {initializer : Program E ε α} {destructor : α → Program E ε Unit} {block : α → Program E ε α}
    (hgives : resources.Gives needed handleOf initializer)
    (hdescribed : initializer.Returns described)
    (hfrees : ∀ value, resources.Frees (handleOf value) (destructor value))
    (hblock : ∀ value, described value →
      resources.Tidy (needed ∪ (handleOf value).toFinset) (block value))
    (hreturns : ∀ value, (block value).Returns fun result => result = value) :
    resources.Gives needed handleOf (initializer >>= fun value =>
      Program.guarded (destructor value) (block value)) := by
  intro held hheld
  apply leaves_bind
  apply leaves_mono (leaves_returns (hgives held hheld) hdescribed)
  · rintro value now ⟨⟨hfresh, rfl⟩, hvalue⟩
    have hfree := hfrees value (held ∪ (handleOf value).toFinset) Finset.subset_union_right
    rw [union_sdiff_of_fresh hfresh] at hfree
    apply leaves_attempt
    apply leaves_mono (leaves_returns (hblock value hvalue _ (Finset.union_subset_union_left hheld))
      (hreturns value))
    · rintro result now ⟨rfl, rfl⟩
      exact ⟨hfresh, rfl⟩
    · rintro error now rfl
      exact leaves_bind (leaves_mono hfree (fun _ _ hnow => hnow) fun _ _ => False.elim)
  · exact fun _ _ hnow => hnow

end Tidy

end Resources

end Foundation
