import NetRemote.Foundation.Resources

namespace Foundation

namespace Program

variable {E : Environment} {ε ε' α : Type}

-- No exception leaves the block: one that would ends the process.
def noexcept (terminated : ε') : Program E ε α → Program E ε' α
  | .Return value => .Return value
  | .Throw _ => .Throw terminated
  | .Ask request resume => .Ask request fun reply => (resume reply).noexcept terminated

theorem runs_noexcept {terminated : ε'} {program : Program E ε α} {trace : List E.Exchange}
    {outcome : Except ε' α} (hruns : Runs (program.noexcept terminated) trace outcome) :
    (∃ value, outcome = .ok value ∧ Runs program trace (.ok value)) ∨
      ∃ error, outcome = .error terminated ∧ Runs program trace (.error error) := by
  induction program generalizing trace with
  | Return value =>
      cases hruns
      exact .inl ⟨value, rfl, .Return value⟩
  | Throw error =>
      cases hruns
      exact .inr ⟨error, rfl, .Throw error⟩
  | Ask request resume ih =>
      cases hruns with
      | Ask reply hrest =>
          rcases ih reply hrest with ⟨value, rfl, hvalue⟩ | ⟨error, rfl, herror⟩
          · exact .inl ⟨value, rfl, .Ask reply hvalue⟩
          · exact .inr ⟨error, rfl, .Ask reply herror⟩

end Program

-- What a program can rely on in the replies it gets, and which of the exchanges it takes
-- for a failure.
structure Reliance (E : Environment) where
  relied : E.Exchange → Prop
  failed : E.Exchange → Prop

namespace Reliance

open Program

variable {E : Environment} {ε α β : Type} (reliance : Reliance E)

def Relied (trace : List E.Exchange) : Prop := ∀ exchange ∈ trace, reliance.relied exchange

def Unfailed (trace : List E.Exchange) : Prop := ∀ exchange ∈ trace, ¬ reliance.failed exchange

-- A run returns what is described when nothing failed, and throws when something did.
def Concludes (described : α → Prop) (trace : List E.Exchange) : Except ε α → Prop
  | .ok value => described value ∧ reliance.Unfailed trace
  | .error _ => ¬ reliance.Unfailed trace

def Delivers (described : α → Prop) (program : Program E ε α) : Prop :=
  ∀ trace outcome, Runs program trace outcome → reliance.Relied trace →
    reliance.Concludes described trace outcome

variable {reliance} {described : α → Prop} {described' : β → Prop}

theorem relied_append {past now : List E.Exchange} :
    reliance.Relied (past ++ now) ↔ reliance.Relied past ∧ reliance.Relied now :=
  List.forall_mem_append

theorem unfailed_append {past now : List E.Exchange} :
    reliance.Unfailed (past ++ now) ↔ reliance.Unfailed past ∧ reliance.Unfailed now :=
  List.forall_mem_append

theorem delivers_return {value : α} (h : described value) :
    reliance.Delivers described (.Return value : Program E ε α) := by
  rintro trace outcome hruns -
  cases hruns
  exact ⟨h, nofun⟩

theorem delivers_mono {described' : α → Prop} {program : Program E ε α}
    (h : reliance.Delivers described program)
    (hdescribed : ∀ value, described value → described' value) :
    reliance.Delivers described' program := by
  intro trace outcome hruns hrelied
  have hconcludes := h trace outcome hruns hrelied
  cases outcome with
  | ok value => exact ⟨hdescribed value hconcludes.1, hconcludes.2⟩
  | error error => exact hconcludes

-- What a handler ends in is an error again.
theorem delivers_attempt {block : Program E ε α} {next : α → Program E ε β}
    {handler : ε → Program E ε β} (hblock : reliance.Delivers described block)
    (hnext : ∀ value, described value → reliance.Delivers described' (next value))
    (hhandler : ∀ error trace outcome, Runs (handler error) trace outcome →
      ∃ error', outcome = .error error') :
    reliance.Delivers described' (block.attempt next handler) := by
  intro trace outcome hruns hrelied
  rcases runs_attempt hruns with ⟨past, now, value, rfl, hpast, hnow⟩ |
    ⟨past, now, error, rfl, hpast, hnow⟩
  · obtain ⟨hearly, hlate⟩ := relied_append.mp hrelied
    obtain ⟨hvalue, hunfailed⟩ := hblock past _ hpast hearly
    have hconcludes := hnext value hvalue now outcome hnow hlate
    cases outcome with
    | ok result => exact ⟨hconcludes.1, unfailed_append.mpr ⟨hunfailed, hconcludes.2⟩⟩
    | error error => exact fun hall => hconcludes (unfailed_append.mp hall).2
  · have hfailed := hblock past _ hpast (relied_append.mp hrelied).1
    obtain ⟨error', rfl⟩ := hhandler error now outcome hnow
    exact fun hall => hfailed (unfailed_append.mp hall).1

theorem delivers_bind {block : Program E ε α} {next : α → Program E ε β}
    (hblock : reliance.Delivers described block)
    (hnext : ∀ value, described value → reliance.Delivers described' (next value)) :
    reliance.Delivers described' (block >>= next) := by
  apply delivers_attempt hblock hnext
  intro error trace outcome hruns
  cases hruns
  exact ⟨error, rfl⟩

-- A reply is looked at, and a failure is thrown at once.
theorem delivers_checked {request : E.Request} {next : E.Reply request → Program E ε β}
    (hfailed : ∀ reply, reliance.failed ⟨request, reply⟩ → ∃ error, next reply = .Throw error)
    (hnext : ∀ reply, reliance.relied ⟨request, reply⟩ → ¬ reliance.failed ⟨request, reply⟩ →
      reliance.Delivers described' (next reply)) :
    reliance.Delivers described' (ask request >>= next) := by
  intro trace outcome hruns hrelied
  cases hruns with
  | @Ask _ _ reply now _ hrest =>
      change Runs (next reply) now outcome at hrest
      obtain ⟨hfirst, hlate⟩ := List.forall_mem_cons.mp hrelied
      by_cases hfail : reliance.failed ⟨request, reply⟩
      · obtain ⟨error, herror⟩ := hfailed reply hfail
        rw [herror] at hrest
        cases hrest
        exact fun hall => hall _ List.mem_cons_self hfail
      · have hconcludes := hnext reply hfirst hfail now outcome hrest hlate
        cases outcome with
        | ok result => exact ⟨hconcludes.1, List.forall_mem_cons.mpr ⟨hfail, hconcludes.2⟩⟩
        | error error => exact fun hall => hconcludes (List.forall_mem_cons.mp hall).2

theorem ends_in_error {destructor : Program E ε Unit} {error : ε} {trace : List E.Exchange}
    {outcome : Except ε α} (hruns : Runs (destructor >>= fun _ => .Throw error) trace outcome) :
    ∃ error', outcome = .error error' := by
  rcases runs_bind hruns with ⟨_, _, _, -, -, hthrow⟩ | ⟨error', rfl, -⟩
  · cases hthrow
    exact ⟨error, rfl⟩
  · exact ⟨error', rfl⟩

theorem delivers_enclosed {destructor : Program E ε Unit} {block : Program E ε α}
    (hdestructor : reliance.Delivers (fun _ => True) destructor)
    (hblock : reliance.Delivers described block) :
    reliance.Delivers described (enclosed destructor block) := by
  apply delivers_attempt hblock
  · exact fun value hvalue => delivers_bind hdestructor fun _ _ => delivers_return hvalue
  · exact fun error trace outcome hruns => ends_in_error hruns

theorem delivers_guarded (destructor : Program E ε Unit) {block : Program E ε α}
    (hblock : reliance.Delivers described block) :
    reliance.Delivers described (guarded destructor block) := by
  apply delivers_attempt hblock
  · exact fun value hvalue => delivers_return hvalue
  · exact fun error trace outcome hruns => ends_in_error hruns

theorem delivers_noexcept {ε' : Type} {terminated : ε'} {program : Program E ε α}
    (h : reliance.Delivers described program) :
    reliance.Delivers described (program.noexcept terminated) := by
  intro trace outcome hruns hrelied
  rcases runs_noexcept hruns with ⟨value, rfl, hvalue⟩ | ⟨error, rfl, herror⟩
  · exact h trace _ hvalue hrelied
  · exact h trace _ herror hrelied

end Reliance

end Foundation
