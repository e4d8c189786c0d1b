import Mathlib.Data.List.Basic

namespace Foundation

-- What a program can ask the world outside, and what the world can reply.
structure Environment where
  Request : Type
  Reply : Request → Type

abbrev Environment.Exchange (E : Environment) := (request : E.Request) × E.Reply request

-- A sequential program that asks its environment and that can throw.
inductive Program (E : Environment) (ε α : Type) where
  | Return (value : α)
  | Throw (error : ε)
  | Ask (request : E.Request) (resume : E.Reply request → Program E ε α)

namespace Program

variable {E F : Environment} {ε α β γ : Type}

-- Runs a block under an exception handler. What follows the block is not under
-- the handler, and the handler decides how the whole goes on.
def attempt (block : Program E ε α) (next : α → Program E ε β) (handler : ε → Program E ε β) :
    Program E ε β :=
  match block with
  | .Return value => next value
  | .Throw error => handler error
  | .Ask request resume => .Ask request fun reply => (resume reply).attempt next handler

instance : Monad (Program E ε) where
  pure := .Return
  bind block next := block.attempt next .Throw

def ask (request : E.Request) : Program E ε (E.Reply request) := .Ask request .Return

def onlyIf (condition : Bool) (block : Program E ε Unit) : Program E ε Unit :=
  if condition then block else .Return ()

def ofExcept : Except ε α → Program E ε α
  | .ok value => .Return value
  | .error error => .Throw error

-- Carries out the requests of a program by programs over another environment.
def interpret (implement : (request : E.Request) → Program F ε (E.Reply request)) :
    Program E ε α → Program F ε α
  | .Return value => .Return value
  | .Throw error => .Throw error
  | .Ask request resume =>
      (implement request).attempt (fun reply => (resume reply).interpret implement) .Throw

-- The runs of a program, each with the exchanges it makes and how it ends.
inductive Runs : Program E ε α → List E.Exchange → Except ε α → Prop where
  | Return (value : α) : Runs (.Return value) [] (.ok value)
  | Throw (error : ε) : Runs (.Throw error) [] (.error error)
  | Ask {request : E.Request} {resume : E.Reply request → Program E ε α} (reply : E.Reply request)
      {trace : List E.Exchange} {outcome : Except ε α} :
      Runs (resume reply) trace outcome →
        Runs (.Ask request resume) (⟨request, reply⟩ :: trace) outcome

-- The run against an environment that answers by what was exchanged before.
def run (answer : List E.Exchange → (request : E.Request) → E.Reply request)
    (past : List E.Exchange) : Program E ε α → List E.Exchange × Except ε α
  | .Return value => (past, .ok value)
  | .Throw error => (past, .error error)
  | .Ask request resume =>
      (resume (answer past request)).run answer (past ++ [⟨request, answer past request⟩])

-- What is required of a run that returns and of one that throws.
def Ends (returns : List E.Exchange → α → Prop) (throws : List E.Exchange → ε → Prop)
    (trace : List E.Exchange) : Except ε α → Prop
  | .ok value => returns trace value
  | .error error => throws trace error

-- What has to hold for every run to end as required, after the exchanges that
-- were made before.
def wp (program : Program E ε α) (past : List E.Exchange) (returns : List E.Exchange → α → Prop)
    (throws : List E.Exchange → ε → Prop) : Prop :=
  match program with
  | .Return value => returns past value
  | .Throw error => throws past error
  | .Ask request resume =>
      ∀ reply, (resume reply).wp (past ++ [⟨request, reply⟩]) returns throws

-- Whatever it is answered, the program makes no request but those allowed.
def Within (allowed : E.Request → Prop) : Program E ε α → Prop
  | .Return _ => True
  | .Throw _ => True
  | .Ask request resume => allowed request ∧ ∀ reply, (resume reply).Within allowed

-- Whatever it is answered, the program returns no value but those described.
def Returns (described : α → Prop) : Program E ε α → Prop
  | .Return value => described value
  | .Throw _ => True
  | .Ask _ resume => ∀ reply, (resume reply).Returns described

variable {past : List E.Exchange} {returns : List E.Exchange → β → Prop}
  {throws : List E.Exchange → ε → Prop}

@[simp] theorem pure_eq (value : α) : (pure value : Program E ε α) = .Return value := rfl

@[simp] theorem return_bind (value : α) (next : α → Program E ε β) :
    (Return value >>= next) = next value := rfl

@[simp] theorem throw_bind (error : ε) (next : α → Program E ε β) :
    (Throw error >>= next) = Throw error := rfl

@[simp] theorem ofExcept_ok (value : α) :
    (ofExcept (.ok value) : Program E ε α) = Return value := rfl

@[simp] theorem ofExcept_error (error : ε) :
    (ofExcept (.error error) : Program E ε α) = Throw error := rfl

@[simp] theorem wp_return (value : β) :
    (Return value).wp past returns throws ↔ returns past value := Iff.rfl

@[simp] theorem wp_throw (error : ε) :
    (Throw error : Program E ε β).wp past returns throws ↔ throws past error := Iff.rfl

theorem wp_attempt (block : Program E ε α) (next : α → Program E ε β)
    (handler : ε → Program E ε β) :
    (block.attempt next handler).wp past returns throws ↔
      block.wp past (fun past value => (next value).wp past returns throws)
        (fun past error => (handler error).wp past returns throws) := by
  induction block generalizing past with
  | Return value => rfl
  | Throw error => rfl
  | Ask request resume ih => exact forall_congr' fun reply => ih reply

theorem wp_bind (block : Program E ε α) (next : α → Program E ε β) :
    (block >>= next).wp past returns throws ↔
      block.wp past (fun past value => (next value).wp past returns throws) throws :=
  wp_attempt block next .Throw

@[simp] theorem wp_ask {request : E.Request}
    {returns : List E.Exchange → E.Reply request → Prop} :
    (ask request : Program E ε _).wp past returns throws ↔
      ∀ reply, returns (past ++ [⟨request, reply⟩]) reply := Iff.rfl

theorem wp_mono {program : Program E ε β} {returns' : List E.Exchange → β → Prop}
    {throws' : List E.Exchange → ε → Prop} (h : program.wp past returns throws)
    (hreturns : ∀ past value, returns past value → returns' past value)
    (hthrows : ∀ past error, throws past error → throws' past error) :
    program.wp past returns' throws' := by
  induction program generalizing past with
  | Return value => exact hreturns past value h
  | Throw error => exact hthrows past error h
  | Ask request resume ih =>
      intro reply
      exact ih reply (h reply)

theorem wp_and {program : Program E ε β} {returns' : List E.Exchange → β → Prop}
    {throws' : List E.Exchange → ε → Prop} (h : program.wp past returns throws)
    (h' : program.wp past returns' throws') :
    program.wp past (fun past value => returns past value ∧ returns' past value)
      (fun past error => throws past error ∧ throws' past error) := by
  induction program generalizing past with
  | Return value => exact ⟨h, h'⟩
  | Throw error => exact ⟨h, h'⟩
  | Ask request resume ih =>
      intro reply
      exact ih reply (h reply) (h' reply)

-- A program only adds to what was exchanged before.
theorem wp_extends (program : Program E ε β) (past : List E.Exchange) :
    program.wp past (fun now _ => past <+: now) (fun now _ => past <+: now) := by
  induction program generalizing past with
  | Return value => exact List.prefix_refl past
  | Throw error => exact List.prefix_refl past
  | Ask request resume ih =>
      intro reply
      have hpast := List.prefix_append past [(⟨request, reply⟩ : E.Exchange)]
      exact wp_mono (ih reply _) (fun _ _ hnow => hpast.trans hnow)
        (fun _ _ hnow => hpast.trans hnow)

theorem ends_of_wp {program : Program E ε β} (past : List E.Exchange)
    (h : program.wp past returns throws) {trace : List E.Exchange} {outcome : Except ε β}
    (hruns : Runs program trace outcome) : Ends returns throws (past ++ trace) outcome := by
  induction hruns generalizing past with
  | Return value => simpa [Ends] using h
  | Throw error => simpa [Ends] using h
  | @Ask request resume reply trace outcome hruns ih =>
      have hrest := ih (past ++ [⟨request, reply⟩]) (h reply)
      rwa [List.append_assoc] at hrest

-- A run of a block under a handler is a run of the block and then of what follows
-- it, or of the handler.
theorem runs_attempt {block : Program E ε α} {next : α → Program E ε β}
    {handler : ε → Program E ε β} {trace : List E.Exchange} {outcome : Except ε β}
    (hruns : Runs (block.attempt next handler) trace outcome) :
    (∃ past now value, trace = past ++ now ∧ Runs block past (.ok value) ∧
      Runs (next value) now outcome) ∨
    ∃ past now error, trace = past ++ now ∧ Runs block past (.error error) ∧
      Runs (handler error) now outcome := by
  induction block generalizing trace with
  | Return value => exact .inl ⟨[], trace, value, rfl, .Return value, hruns⟩
  | Throw error => exact .inr ⟨[], trace, error, rfl, .Throw error, hruns⟩
  | Ask request resume ih =>
      cases hruns with
      | Ask reply hrest =>
          rcases ih reply hrest with ⟨past, now, value, rfl, hblock, hnext⟩ |
            ⟨past, now, error, rfl, hblock, hhandler⟩
          · exact .inl ⟨_ :: past, now, value, rfl, .Ask reply hblock, hnext⟩
          · exact .inr ⟨_ :: past, now, error, rfl, .Ask reply hblock, hhandler⟩

theorem runs_bind {block : Program E ε α} {next : α → Program E ε β}
    {trace : List E.Exchange} {outcome : Except ε β} (hruns : Runs (block >>= next) trace outcome) :
    (∃ past now value, trace = past ++ now ∧ Runs block past (.ok value) ∧
      Runs (next value) now outcome) ∨
    ∃ error, outcome = .error error ∧ Runs block trace (.error error) := by
  rcases runs_attempt hruns with hnext | ⟨past, now, error, rfl, hblock, hthrow⟩
  · exact .inl hnext
  · cases hthrow
    exact .inr ⟨error, rfl, by rwa [List.append_nil]⟩

theorem Runs.bind {block : Program E ε α} {next : α → Program E ε β}
    {past now : List E.Exchange} {value : α} {outcome : Except ε β}
    (hblock : Runs block past (.ok value)) (hnext : Runs (next value) now outcome) :
    Runs (block >>= next) (past ++ now) outcome := by
  induction block generalizing past with
  | Return result =>
      cases hblock
      exact hnext
  | Throw error => cases hblock
  | Ask request resume ih =>
      cases hblock with
      | Ask reply hrest => exact .Ask reply (ih reply hrest)

theorem run_append (answer : List E.Exchange → (request : E.Request) → E.Reply request)
    (program : Program E ε α) (past : List E.Exchange) :
    ∃ trace, (program.run answer past).1 = past ++ trace ∧
      Runs program trace (program.run answer past).2 := by
  induction program generalizing past with
  | Return value => exact ⟨[], by simp [run], .Return value⟩
  | Throw error => exact ⟨[], by simp [run], .Throw error⟩
  | Ask request resume ih =>
      obtain ⟨trace, htrace, hruns⟩ := ih (answer past request)
        (past ++ [⟨request, answer past request⟩])
      exact ⟨⟨request, answer past request⟩ :: trace, by simp [run, htrace],
        .Ask (answer past request) hruns⟩

theorem mem_run {P : E.Exchange → Prop}
    {answer : List E.Exchange → (request : E.Request) → E.Reply request}
    (hanswer : ∀ past request, P ⟨request, answer past request⟩) (program : Program E ε α)
    (past : List E.Exchange) (hpast : ∀ exchange ∈ past, P exchange) :
    ∀ exchange ∈ (program.run answer past).1, P exchange := by
  induction program generalizing past with
  | Return value => exact hpast
  | Throw error => exact hpast
  | Ask request resume ih =>
      apply ih
      rw [List.forall_mem_append, List.forall_mem_singleton]
      exact ⟨hpast, hanswer past request⟩

theorem runs_run (answer : List E.Exchange → (request : E.Request) → E.Reply request)
    (program : Program E ε α) :
    Runs program (program.run answer []).1 (program.run answer []).2 := by
  obtain ⟨trace, htrace, hruns⟩ := run_append answer program []
  rwa [htrace, List.nil_append]

section Within

variable {allowed : E.Request → Prop}

theorem within_attempt {block : Program E ε α} {next : α → Program E ε β}
    {handler : ε → Program E ε β} (hblock : block.Within allowed)
    (hnext : ∀ value, (next value).Within allowed)
    (hhandler : ∀ error, (handler error).Within allowed) :
    (block.attempt next handler).Within allowed := by
  induction block with
  | Return value => exact hnext value
  | Throw error => exact hhandler error
  | Ask request resume ih => exact ⟨hblock.1, fun reply => ih reply (hblock.2 reply)⟩

theorem within_bind {block : Program E ε α} {next : α → Program E ε β}
    (hblock : block.Within allowed) (hnext : ∀ value, (next value).Within allowed) :
    (block >>= next).Within allowed :=
  within_attempt hblock hnext fun _ => trivial

theorem within_map {block : Program E ε α} (f : α → β) (hblock : block.Within allowed) :
    (f <$> block).Within allowed :=
  within_bind hblock fun _ => trivial

theorem within_forM {items : List β} {body : β → Program E ε Unit}
    (hbody : ∀ item ∈ items, (body item).Within allowed) : (items.forM body).Within allowed := by
  induction items with
  | nil => trivial
  | cons item items ih =>
      apply within_bind (hbody item List.mem_cons_self)
      intro _
      exact ih fun item hitem => hbody item (List.mem_cons_of_mem _ hitem)

theorem within_onlyIf {block : Program E ε Unit} (condition : Bool)
    (hblock : block.Within allowed) : (onlyIf condition block).Within allowed := by
  unfold onlyIf
  by_cases h : condition
  · rw [if_pos h]
    exact hblock
  · rw [if_neg h]
    trivial

theorem within_ofExcept (result : Except ε α) :
    (ofExcept result : Program E ε α).Within allowed := by
  cases result <;> trivial

theorem within_mono {wider : E.Request → Prop} (h : ∀ request, allowed request → wider request)
    {program : Program E ε α} (hprogram : program.Within allowed) : program.Within wider := by
  induction program with
  | Return value => trivial
  | Throw error => trivial
  | Ask request resume ih => exact ⟨h request hprogram.1, fun reply => ih reply (hprogram.2 reply)⟩

theorem allowed_of_within {program : Program E ε α} (h : program.Within allowed)
    {trace : List E.Exchange} {outcome : Except ε α} (hruns : Runs program trace outcome) :
    ∀ exchange ∈ trace, allowed exchange.1 := by
  induction hruns with
  | Return value => exact nofun
  | Throw error => exact nofun
  | @Ask request resume reply trace outcome _ ih =>
      rw [List.forall_mem_cons]
      exact ⟨h.1, ih (h.2 reply)⟩

theorem exists_runs [∀ request, Nonempty (E.Reply request)] (program : Program E ε α) :
    ∃ trace outcome, Runs program trace outcome := by
  induction program with
  | Return value => exact ⟨[], _, .Return value⟩
  | Throw error => exact ⟨[], _, .Throw error⟩
  | Ask request resume ih =>
      obtain ⟨reply⟩ : Nonempty (E.Reply request) := inferInstance
      obtain ⟨trace, outcome, hruns⟩ := ih reply
      exact ⟨_, outcome, .Ask reply hruns⟩

-- What a program can ask for is what it asks for in its runs.
theorem within_iff_runs [∀ request, Nonempty (E.Reply request)] {program : Program E ε α} :
    program.Within allowed ↔
      ∀ trace outcome, Runs program trace outcome → ∀ exchange ∈ trace, allowed exchange.1 := by
  constructor
  · exact fun h _ _ hruns => allowed_of_within h hruns
  · intro h
    induction program with
    | Return value => trivial
    | Throw error => trivial
    | Ask request resume ih =>
        refine ⟨?_, fun reply => ih reply fun trace outcome hruns exchange hmem => ?_⟩
        · obtain ⟨reply⟩ : Nonempty (E.Reply request) := inferInstance
          obtain ⟨trace, outcome, hruns⟩ := exists_runs (resume reply)
          exact h _ outcome (.Ask reply hruns) ⟨request, reply⟩ List.mem_cons_self
        · exact h _ outcome (.Ask reply hruns) exchange (List.mem_cons_of_mem _ hmem)

-- What is built up from the exchanges, and that no allowed request changes, is in
-- the end what it was before.
theorem wp_of_within {γ : Type} (measure : List E.Exchange → γ)
    (hmeasure : ∀ past request reply, allowed request →
      measure (past ++ [⟨request, reply⟩]) = measure past)
    {program : Program E ε β} (past : List E.Exchange) (h : program.Within allowed) :
    program.wp past (fun now _ => measure now = measure past)
      (fun now _ => measure now = measure past) := by
  induction program generalizing past with
  | Return value => rfl
  | Throw error => rfl
  | Ask request resume ih =>
      intro reply
      have hnow := ih reply (past ++ [⟨request, reply⟩]) (h.2 reply)
      rwa [hmeasure past request reply h.1] at hnow

end Within

section Returns

variable {described : α → Prop} {described' : β → Prop}

theorem returns_of_forall {program : Program E ε α} (h : ∀ value, described value) :
    program.Returns described := by
  induction program with
  | Return value => exact h value
  | Throw error => trivial
  | Ask request resume ih => exact ih

theorem returns_mono {program : Program E ε α} {wider : α → Prop}
    (hprogram : program.Returns described) (h : ∀ value, described value → wider value) :
    program.Returns wider := by
  induction program with
  | Return value => exact h value hprogram
  | Throw error => trivial
  | Ask request resume ih => exact fun reply => ih reply (hprogram reply)

theorem returns_attempt {block : Program E ε α} {next : α → Program E ε β}
    {handler : ε → Program E ε β} (hblock : block.Returns described)
    (hnext : ∀ value, described value → (next value).Returns described')
    (hhandler : ∀ error, (handler error).Returns described') :
    (block.attempt next handler).Returns described' := by
  induction block with
  | Return value => exact hnext value hblock
  | Throw error => exact hhandler error
  | Ask request resume ih => exact fun reply => ih reply (hblock reply)

theorem returns_bind {block : Program E ε α} {next : α → Program E ε β}
    (hblock : block.Returns described)
    (hnext : ∀ value, described value → (next value).Returns described') :
    (block >>= next).Returns described' :=
  returns_attempt hblock hnext fun _ => trivial

theorem returns_map {block : Program E ε α} (f : α → β) (hblock : block.Returns described) :
    (f <$> block).Returns fun result => ∃ value, described value ∧ f value = result :=
  returns_bind hblock fun value hvalue => ⟨value, hvalue, rfl⟩

-- A block that returns has done so for each of the items.
theorem returns_forM {items : List β} {body : β → Program E ε Unit}
    (hbody : ∀ item ∈ items, (body item).Returns fun _ => described' item) :
    (items.forM body).Returns fun _ => ∀ item ∈ items, described' item := by
  induction items with
  | nil => exact fun _ => nofun
  | cons item items ih =>
      apply returns_bind (hbody item List.mem_cons_self)
      intro _ hitem
      have hitems := ih fun other hother => hbody other (List.mem_cons_of_mem _ hother)
      simp only [List.forall_mem_cons]
      apply returns_mono hitems
      exact fun _ hrest => ⟨hitem, hrest⟩

theorem of_returns {program : Program E ε α} (h : program.Returns described)
    {trace : List E.Exchange} {value : α} (hruns : Runs program trace (.ok value)) :
    described value := by
  induction program generalizing trace with
  | Return result =>
      cases hruns
      exact h
  | Throw error => cases hruns
  | Ask request resume ih =>
      cases hruns with
      | Ask reply hrest => exact ih reply (h reply) hrest

theorem returns_of_runs {program : Program E ε α}
    (h : ∀ trace value, Runs program trace (.ok value) → described value) :
    program.Returns described := by
  induction program with
  | Return value => exact h [] value (.Return value)
  | Throw error => trivial
  | Ask request resume ih =>
      exact fun reply => ih reply fun trace value hruns => h _ value (.Ask reply hruns)

end Returns

end Program

end Foundation
