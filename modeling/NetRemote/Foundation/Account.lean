import NetRemote.Foundation.Resources

namespace Foundation

-- What the exchanges of a run account for, by how the run ends. The parts of a run account
-- for the whole, as long as the replies are credible, and what is silent adds nothing.
structure Account (E : Environment) (ε : Type) where
  credible : E.Exchange → Prop
  silent : E.Exchange → Prop
  accounts : List E.Exchange → Except ε Unit → Prop
  nil : accounts [] (.ok ())
  append : ∀ past now outcome, accounts past (.ok ()) → accounts now outcome →
    accounts (past ++ now) outcome
  after : ∀ past now outcome, accounts past outcome → (∀ exchange ∈ now, silent exchange) →
    accounts (past ++ now) outcome

namespace Account

open Program

variable {E : Environment} {ε α β γ : Type} (account : Account E ε)

def Credible (trace : List E.Exchange) : Prop := ∀ exchange ∈ trace, account.credible exchange

def Silent (trace : List E.Exchange) : Prop := ∀ exchange ∈ trace, account.silent exchange

-- Whatever becomes of the program, there is nothing to account for.
def Quiet (program : Program E ε α) : Prop :=
  ∀ trace outcome, Runs program trace outcome → account.Credible trace → account.Silent trace

def Obtains (described : α → Prop) (program : Program E ε α) : Prop :=
  ∀ trace value, Runs program trace (.ok value) → account.Credible trace → described value

-- Each run is accounted for, also one that throws.
def Accounted (program : Program E ε α) : Prop :=
  ∀ trace outcome, Runs program trace outcome → account.Credible trace →
    account.accounts trace (outcome.map fun _ => ())

def Noexcept (program : Program E ε α) : Prop := ∀ trace error, ¬ Runs program trace (.error error)

variable {account} {described : α → Prop}

theorem credible_append {past now : List E.Exchange} :
    account.Credible (past ++ now) ↔ account.Credible past ∧ account.Credible now :=
  List.forall_mem_append

theorem silent_append {past now : List E.Exchange} :
    account.Silent (past ++ now) ↔ account.Silent past ∧ account.Silent now :=
  List.forall_mem_append

theorem accounts_of_silent {trace : List E.Exchange} (h : account.Silent trace) :
    account.accounts trace (.ok ()) :=
  account.after [] trace (.ok ()) account.nil h

section Quiet

theorem quiet_of_within {program : Program E ε α}
    (h : program.Within fun request => ∀ reply, account.silent ⟨request, reply⟩) :
    account.Quiet program :=
  fun _ _ hruns _ exchange hmem => allowed_of_within h hruns exchange hmem exchange.2

theorem quiet_return (value : α) : account.Quiet (.Return value : Program E ε α) :=
  quiet_of_within trivial

theorem quiet_attempt {block : Program E ε α} {next : α → Program E ε β}
    {handler : ε → Program E ε β} (hblock : account.Quiet block)
    (hobtains : account.Obtains described block)
    (hnext : ∀ value, described value → account.Quiet (next value))
    (hhandler : ∀ error, account.Quiet (handler error)) :
    account.Quiet (block.attempt next handler) := by
  intro trace outcome hruns hcredible
  rcases runs_attempt hruns with ⟨past, now, value, rfl, hpast, hnow⟩ |
    ⟨past, now, error, rfl, hpast, hnow⟩
  · obtain ⟨hearly, hlate⟩ := credible_append.mp hcredible
    have hvalue := hobtains past value hpast hearly
    exact silent_append.mpr ⟨hblock past _ hpast hearly,
      hnext value hvalue now outcome hnow hlate⟩
  · obtain ⟨hearly, hlate⟩ := credible_append.mp hcredible
    exact silent_append.mpr ⟨hblock past _ hpast hearly, hhandler error now outcome hnow hlate⟩

theorem obtains_of_returns {program : Program E ε α} (h : program.Returns described) :
    account.Obtains described program :=
  fun _ _ hruns _ => of_returns h hruns

theorem obtains_bind {described' : β → Prop} {block : Program E ε α} {next : α → Program E ε β}
    (hblock : account.Obtains described block)
    (hnext : ∀ value, described value → account.Obtains described' (next value)) :
    account.Obtains described' (block >>= next) := by
  intro trace result hruns hcredible
  rcases runs_bind hruns with ⟨past, now, value, rfl, hpast, hnow⟩ | ⟨error, herror, -⟩
  · obtain ⟨hearly, hlate⟩ := credible_append.mp hcredible
    exact hnext value (hblock past value hpast hearly) now result hnow hlate
  · cases herror

theorem obtains_any (program : Program E ε α) : account.Obtains (fun _ => True) program :=
  fun _ _ _ _ => trivial

theorem quiet_bind {block : Program E ε α} {next : α → Program E ε β}
    (hblock : account.Quiet block) (hnext : ∀ value, account.Quiet (next value)) :
    account.Quiet (block >>= next) :=
  quiet_attempt hblock (obtains_any block) (fun value _ => hnext value)
    fun _ => quiet_of_within trivial

theorem quiet_passed {block : Program E ε α} {next : α → Program E ε β}
    (hblock : account.Quiet block) (hobtains : account.Obtains described block)
    (hnext : ∀ value, described value → account.Quiet (next value)) :
    account.Quiet (block >>= next) :=
  quiet_attempt hblock hobtains hnext fun _ => quiet_of_within trivial

theorem quiet_enclosed {destructor : Program E ε Unit} {block : Program E ε α}
    (hdestructor : account.Quiet destructor) (hblock : account.Quiet block) :
    account.Quiet (enclosed destructor block) :=
  quiet_attempt hblock (obtains_any block)
    (fun _ _ => quiet_bind hdestructor fun _ => quiet_return _)
    fun _ => quiet_bind hdestructor fun _ => quiet_of_within trivial

end Quiet

section Accounted

theorem noexcept_ask {request : E.Request} {resume : E.Reply request → Program E ε α}
    (h : ∀ reply, Noexcept (resume reply)) : Noexcept (.Ask request resume) := by
  intro trace error hruns
  cases hruns with
  | Ask reply hrest => exact h reply _ error hrest

theorem noexcept_return (value : α) : Noexcept (.Return value : Program E ε α) := nofun

theorem accounted_return (value : α) : account.Accounted (.Return value : Program E ε α) := by
  rintro _ _ ⟨⟩ _
  exact account.nil

theorem accounted_bind {block : Program E ε α} {next : α → Program E ε β}
    (hblock : account.Accounted block) (hnext : ∀ value, account.Accounted (next value)) :
    account.Accounted (block >>= next) := by
  intro trace outcome hruns hcredible
  rcases runs_bind hruns with ⟨past, now, value, rfl, hpast, hnow⟩ | ⟨error, rfl, hthrown⟩
  · obtain ⟨hearly, hlate⟩ := credible_append.mp hcredible
    exact account.append past now _ (hblock past _ hpast hearly)
      (hnext value now outcome hnow hlate)
  · exact hblock trace _ hthrown hcredible

theorem accounted_ask {request : E.Request} {resume : E.Reply request → Program E ε α}
    (hsilent : ∀ reply, account.silent ⟨request, reply⟩)
    (hresume : ∀ reply, account.Accounted (resume reply)) :
    account.Accounted (.Ask request resume) := by
  intro trace outcome hruns hcredible
  cases hruns with
  | @Ask _ _ reply trace _ hrest =>
      have hasked : account.accounts [⟨request, reply⟩] (.ok ()) :=
        accounts_of_silent (List.forall_mem_singleton.mpr (hsilent reply))
      exact account.append _ trace _ hasked
        (hresume reply trace outcome hrest (List.forall_mem_cons.mp hcredible).2)

theorem accounted_ite {c : Prop} [Decidable c] {program other : Program E ε α}
    (hthen : c → account.Accounted program) (helse : ¬ c → account.Accounted other) :
    account.Accounted (if c then program else other) := by
  split_ifs with h
  · exact hthen h
  · exact helse h

-- The block has ended before its destructor runs, and has thrown what is thrown.
theorem runs_enclosed {destructor : Program E ε Unit} {block : Program E ε α}
    (hdestructor : Noexcept destructor) {trace : List E.Exchange} {outcome : Except ε α}
    (hruns : Runs (enclosed destructor block) trace outcome) :
    ∃ past now, trace = past ++ now ∧ Runs block past outcome ∧ Runs destructor now (.ok ()) := by
  rcases runs_attempt hruns with ⟨past, now, value, rfl, hpast, hnow⟩ |
    ⟨past, now, error, rfl, hpast, hnow⟩
  · rcases runs_bind hnow with ⟨now, _, _, rfl, hdestroyed, ⟨⟩⟩ | ⟨error, rfl, hthrown⟩
    · exact ⟨past, now, by rw [List.append_nil], hpast, hdestroyed⟩
    · exact absurd hthrown (hdestructor now error)
  · rcases runs_bind hnow with ⟨now, _, _, rfl, hdestroyed, ⟨⟩⟩ | ⟨error, rfl, hthrown⟩
    · exact ⟨past, now, by rw [List.append_nil], hpast, hdestroyed⟩
    · exact absurd hthrown (hdestructor now error)

theorem accounted_enclosed {destructor : Program E ε Unit} {block : Program E ε α}
    (hquiet : account.Quiet destructor) (hdestructor : Noexcept destructor)
    (hblock : account.Accounted block) : account.Accounted (enclosed destructor block) := by
  intro trace outcome hruns hcredible
  obtain ⟨past, now, rfl, hpast, hnow⟩ := runs_enclosed hdestructor hruns
  obtain ⟨hearly, hlate⟩ := credible_append.mp hcredible
  exact account.after past now _ (hblock past outcome hpast hearly) (hquiet now _ hnow hlate)

end Accounted

end Account

end Foundation
