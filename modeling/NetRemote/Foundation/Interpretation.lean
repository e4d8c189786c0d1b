import NetRemote.Foundation.Program

namespace Foundation.Program

variable {E F : Environment} {ε α β : Type}

theorem attempt_bind (block : Program E ε α) (next : α → Program E ε β)
    (handler : ε → Program E ε β) {γ : Type} (last : β → Program E ε γ) :
    block.attempt next handler >>= last =
      block.attempt (fun value => next value >>= last) fun error => handler error >>= last := by
  induction block with
  | Return value => rfl
  | Throw error => rfl
  | Ask request resume ih => exact congrArg (Ask request) (funext fun reply => ih reply)

section Interpret

variable (implement : (request : E.Request) → Program F ε (E.Reply request))

theorem interpret_bind (block : Program E ε α) (next : α → Program E ε β) :
    (block >>= next).interpret implement =
      block.interpret implement >>= fun value => (next value).interpret implement := by
  induction block with
  | Return value => rfl
  | Throw error => rfl
  | Ask request resume ih =>
      refine Eq.trans ?_ (attempt_bind (implement request) _ _ _).symm
      exact congrArg (fun later => (implement request).attempt later .Throw)
        (funext fun reply => ih reply)

-- The exchanges of one environment, each carried out by exchanges of the other.
inductive Implemented : List E.Exchange → List F.Exchange → Prop where
  | Done : Implemented [] []
  | Exchange {request : E.Request} {reply : E.Reply request} {trace : List F.Exchange}
      {exchanges : List E.Exchange} {later : List F.Exchange}
      (hruns : Runs (implement request) trace (.ok reply)) (hlater : Implemented exchanges later) :
      Implemented (⟨request, reply⟩ :: exchanges) (trace ++ later)

-- What a program asks for next, after some exchanges.
inductive Asks : Program E ε α → List E.Exchange → E.Request → Prop where
  | Now {request : E.Request} {resume : E.Reply request → Program E ε α} :
      Asks (.Ask request resume) [] request
  | Later {request last : E.Request} {resume : E.Reply request → Program E ε α}
      (reply : E.Reply request) {exchanges : List E.Exchange}
      (hlater : Asks (resume reply) exchanges last) :
      Asks (.Ask request resume) (⟨request, reply⟩ :: exchanges) last

variable {implement}

theorem within_interpret {allowed : F.Request → Prop}
    (h : ∀ request, (implement request).Within allowed) (program : Program E ε α) :
    (program.interpret implement).Within allowed := by
  induction program with
  | Return value => trivial
  | Throw error => trivial
  | Ask request resume ih => exact within_attempt (h request) ih fun _ => trivial

-- A run of what the interpreter makes of a program is a run of the program, or ends
-- with a request that fails.
theorem runs_interpret {program : Program E ε α} {trace : List F.Exchange}
    {outcome : Except ε α} (hruns : Runs (program.interpret implement) trace outcome) :
    (∃ exchanges, Runs program exchanges outcome ∧ Implemented implement exchanges trace) ∨
      ∃ exchanges past now request error, trace = past ++ now ∧ outcome = .error error ∧
        Asks program exchanges request ∧ Implemented implement exchanges past ∧
        Runs (implement request) now (.error error) := by
  induction program generalizing trace with
  | Return value =>
      cases hruns
      exact .inl ⟨[], .Return value, .Done⟩
  | Throw error =>
      cases hruns
      exact .inl ⟨[], .Throw error, .Done⟩
  | Ask request resume ih =>
      rcases runs_bind hruns with ⟨first, later, reply, rfl, hfirst, hlater⟩ |
        ⟨error, rfl, hfirst⟩
      · rcases ih reply hlater with ⟨exchanges, hprogram, himplemented⟩ |
          ⟨exchanges, past, now, last, error, rfl, rfl, hasks, himplemented, hfailed⟩
        · exact .inl ⟨_ :: exchanges, .Ask reply hprogram, .Exchange hfirst himplemented⟩
        · exact .inr ⟨_ :: exchanges, first ++ past, now, last, error,
            (List.append_assoc _ _ _).symm, rfl, .Later reply hasks,
            .Exchange hfirst himplemented, hfailed⟩
      · exact .inr ⟨[], [], trace, request, error, rfl, rfl, .Now, .Done, hfirst⟩

end Interpret

end Foundation.Program
