import NetRemote.Foundation.Program

namespace Foundation

variable {E : Environment} {ε α β : Type} {refused : E.Exchange → Bool} {failure : ε → Prop}
  {script rest : List E.Request} {trace now : List E.Exchange}

-- The requests of a script are made one after the other, up to the first whose reply
-- is a refusal.
inductive Scripted (refused : E.Exchange → Bool) (failure : ε → Prop) :
    List E.Request → List E.Exchange → Except ε α → Prop where
  | Done (value : α) : Scripted refused failure [] [] (.ok value)
  | Refused {request : E.Request} (script : List E.Request) (reply : E.Reply request) {error : ε} :
      refused ⟨request, reply⟩ = true → failure error →
        Scripted refused failure (request :: script) [⟨request, reply⟩] (.error error)
  | Accepted {request : E.Request} {script : List E.Request} (reply : E.Reply request)
      {trace : List E.Exchange} {outcome : Except ε α} :
      refused ⟨request, reply⟩ = false → Scripted refused failure script trace outcome →
        Scripted refused failure (request :: script) (⟨request, reply⟩ :: trace) outcome

namespace Scripted

theorem append {value : α} {outcome : Except ε β}
    (hpast : Scripted refused failure script trace (.ok value : Except ε α))
    (hnow : Scripted refused failure rest now outcome) :
    Scripted refused failure (script ++ rest) (trace ++ now) outcome := by
  generalize hvalue : (.ok value : Except ε α) = ended at hpast
  induction hpast with
  | Done _ => exact hnow
  | Refused _ _ _ _ => cases hvalue
  | Accepted reply haccepted _ ih => exact .Accepted reply haccepted (ih hvalue)

-- What was refused is not followed by anything.
theorem append_of_error {error error' : ε} (rest : List E.Request)
    (h : Scripted refused failure script trace (.error error : Except ε α))
    (herror : failure error → failure error') :
    Scripted refused failure (script ++ rest) trace (.error error' : Except ε β) := by
  generalize hended : (.error error : Except ε α) = ended at h
  induction h with
  | Done _ => cases hended
  | Refused script reply hrefused hfailure =>
      cases hended
      exact .Refused _ reply hrefused (herror hfailure)
  | Accepted reply haccepted _ ih => exact .Accepted reply haccepted (ih hended)

variable {outcome : Except ε α}

theorem of_cons {request : E.Request}
    (h : Scripted refused failure (request :: script) trace outcome) :
    (∃ reply error, trace = [⟨request, reply⟩] ∧ outcome = .error error ∧
      refused ⟨request, reply⟩ = true ∧ failure error) ∨
    ∃ reply later, trace = ⟨request, reply⟩ :: later ∧ refused ⟨request, reply⟩ = false ∧
      Scripted refused failure script later outcome := by
  cases h with
  | Refused _ reply hrefused hfailure => exact .inl ⟨reply, _, rfl, rfl, hrefused, hfailure⟩
  | Accepted reply haccepted hlater => exact .inr ⟨reply, _, rfl, haccepted, hlater⟩

theorem isPrefix (h : Scripted refused failure script trace outcome) :
    trace.map (·.1) <+: script := by
  induction h with
  | Done _ => exact List.prefix_refl []
  | Refused script reply _ _ => exact List.prefix_append [_] script
  | Accepted reply _ _ ih => exact (List.prefix_cons_inj _).mpr ih

theorem of_ok {value : α} (h : Scripted refused failure script trace (.ok value : Except ε α)) :
    trace.map (·.1) = script ∧ ∀ exchange ∈ trace, refused exchange = false := by
  generalize hvalue : (.ok value : Except ε α) = ended at h
  induction h with
  | Done _ => exact ⟨rfl, nofun⟩
  | Refused _ _ _ _ => cases hvalue
  | Accepted reply haccepted _ ih =>
      obtain ⟨hscript, hall⟩ := ih hvalue
      exact ⟨congrArg (_ :: ·) hscript, List.forall_mem_cons.mpr ⟨haccepted, hall⟩⟩

-- The first refusal is also the last exchange.
theorem of_error {error : ε}
    (h : Scripted refused failure script trace (.error error : Except ε α)) :
    failure error ∧ ∃ past last, trace = past ++ [last] ∧
      (∀ exchange ∈ past, refused exchange = false) ∧ refused last = true := by
  generalize hended : (.error error : Except ε α) = ended at h
  induction h with
  | Done _ => cases hended
  | Refused _ reply hrefused hfailure =>
      cases hended
      exact ⟨hfailure, [], _, rfl, nofun, hrefused⟩
  | Accepted reply haccepted _ ih =>
      obtain ⟨hfailure, past, last, rfl, hpast, hlast⟩ := ih hended
      exact ⟨hfailure, _ :: past, last, rfl, List.forall_mem_cons.mpr ⟨haccepted, hpast⟩, hlast⟩

theorem isOk_iff (h : Scripted refused failure script trace outcome) :
    (∃ value, outcome = .ok value) ↔
      trace.map (·.1) = script ∧ ∀ exchange ∈ trace, refused exchange = false := by
  constructor
  · rintro ⟨value, rfl⟩
    exact h.of_ok
  · rintro ⟨_, hall⟩
    cases outcome with
    | ok value => exact ⟨value, rfl⟩
    | error error =>
        obtain ⟨-, past, last, rfl, -, hlast⟩ := h.of_error
        rw [hall last (by simp)] at hlast
        cases hlast

end Scripted

namespace Program

-- A program that follows a script whatever it is answered.
def Plays (refused : E.Exchange → Bool) (failure : ε → Prop) (script : List E.Request)
    (program : Program E ε α) : Prop :=
  ∀ trace outcome, Runs program trace outcome → Scripted refused failure script trace outcome

theorem plays_return (value : α) : Plays refused failure [] (.Return value) := by
  intro trace outcome hruns
  cases hruns
  exact .Done value

theorem plays_ask {request : E.Request} {resume : E.Reply request → Program E ε α}
    (hrefused : ∀ reply, refused ⟨request, reply⟩ = true →
      ∃ error, resume reply = .Throw error ∧ failure error)
    (haccepted : ∀ reply, refused ⟨request, reply⟩ = false →
      Plays refused failure script (resume reply)) :
    Plays refused failure (request :: script) (.Ask request resume) := by
  intro trace outcome hruns
  cases hruns with
  | Ask reply hrest =>
      cases hreply : refused ⟨request, reply⟩ with
      | true =>
          obtain ⟨error, hthrow, hfailure⟩ := hrefused reply hreply
          rw [hthrow] at hrest
          cases hrest
          exact .Refused script reply hreply hfailure
      | false => exact .Accepted reply hreply (haccepted reply hreply _ _ hrest)

theorem plays_bind {block : Program E ε α} {next : α → Program E ε β}
    (hblock : Plays refused failure script block)
    (hnext : ∀ value, Plays refused failure rest (next value)) :
    Plays refused failure (script ++ rest) (block >>= next) := by
  intro trace outcome hruns
  rcases runs_bind hruns with ⟨past, now, value, rfl, hpast, hnow⟩ | ⟨error, rfl, herror⟩
  · exact (hblock past _ hpast).append (hnext value now outcome hnow)
  · exact (hblock trace _ herror).append_of_error rest id

-- The handler may throw another error of the same kind.
theorem plays_rethrow {block : Program E ε α} {handler : ε → Program E ε α}
    (hblock : Plays refused failure script block)
    (hhandler : ∀ error, failure error → ∃ error', handler error = .Throw error' ∧
      failure error') :
    Plays refused failure script (block.attempt .Return handler) := by
  intro trace outcome hruns
  rcases runs_attempt hruns with ⟨past, now, value, rfl, hpast, hnow⟩ |
    ⟨past, now, error, rfl, hpast, hnow⟩
  · cases hnow
    rw [List.append_nil]
    exact hblock past _ hpast
  · have hscripted := hblock past _ hpast
    obtain ⟨error', hthrow, hfailure⟩ := hhandler error hscripted.of_error.1
    rw [hthrow] at hnow
    cases hnow
    have hended := hscripted.append_of_error (β := α) [] fun _ => hfailure
    rwa [List.append_nil] at hended ⊢

theorem plays_forM {items : List β} {body : β → Program E ε Unit}
    {scriptOf : β → List E.Request}
    (hbody : ∀ item ∈ items, Plays refused failure (scriptOf item) (body item)) :
    Plays refused failure (items.flatMap scriptOf) (items.forM body) := by
  induction items with
  | nil => exact plays_return ()
  | cons item items ih =>
      rw [List.flatMap_cons]
      apply plays_bind (hbody item List.mem_cons_self)
      intro _
      exact ih fun other hother => hbody other (List.mem_cons_of_mem _ hother)

theorem plays_onlyIf {block : Program E ε Unit} (condition : Bool)
    (hblock : Plays refused failure script block) :
    Plays refused failure (if condition then script else []) (onlyIf condition block) := by
  unfold onlyIf
  by_cases h : condition
  · rw [if_pos h, if_pos h]
    exact hblock
  · rw [if_neg h, if_neg h]
    exact plays_return ()

end Program

end Foundation
