import NetRemote.Foundation.Program

namespace Foundation.Program

variable {E : Environment} {ε α β γ : Type}

-- What is seen of a program is a part of the output, from its start and in its
-- order, and all of it when the program succeeds.
def Outputs (emits : E.Exchange → Option γ) (succeeded : α → Prop) (output : List γ)
    (program : Program E ε α) : Prop :=
  ∀ trace outcome, Runs program trace outcome →
    trace.filterMap emits <+: output ∧
      ∀ value, outcome = .ok value → succeeded value → trace.filterMap emits = output

-- Nothing more is seen of the program, which does not succeed.
def Abandons (emits : E.Exchange → Option γ) (succeeded : α → Prop) (program : Program E ε α) :
    Prop :=
  ∀ trace outcome, Runs program trace outcome →
    trace.filterMap emits = [] ∧ ∀ value, outcome = .ok value → ¬ succeeded value

def Unseen (emits : E.Exchange → Option γ) (request : E.Request) : Prop :=
  ∀ reply, emits ⟨request, reply⟩ = none

section Rules

variable {emits : E.Exchange → Option γ} {succeeded : α → Prop} {succeeded' : β → Prop}
  {output rest : List γ}

theorem filterMap_unseen {trace : List E.Exchange}
    (h : ∀ exchange ∈ trace, Unseen emits exchange.1) : trace.filterMap emits = [] :=
  List.filterMap_eq_nil_iff.mpr fun exchange hmem => h exchange hmem exchange.2

theorem abandons_return {value : α} (h : ¬ succeeded value) :
    Abandons emits succeeded (.Return value : Program E ε α) := by
  rintro _ _ ⟨⟩
  refine ⟨rfl, ?_⟩
  rintro _ ⟨⟩
  exact h

theorem abandons_throw (error : ε) : Abandons emits succeeded (.Throw error) := by
  rintro _ _ ⟨⟩
  exact ⟨rfl, nofun⟩

theorem outputs_of_abandons {program : Program E ε α} (h : Abandons emits succeeded program) :
    Outputs emits succeeded output program := by
  intro trace outcome hruns
  obtain ⟨hnone, hfailed⟩ := h trace outcome hruns
  rw [hnone]
  exact ⟨List.nil_prefix, fun value houtcome hvalue => absurd hvalue (hfailed value houtcome)⟩

theorem outputs_of_within {program : Program E ε α} (h : program.Within (Unseen emits)) :
    Outputs emits succeeded [] program := by
  intro trace outcome hruns
  rw [filterMap_unseen (allowed_of_within h hruns)]
  exact ⟨List.nil_prefix, fun _ _ _ => rfl⟩

theorem outputs_return (value : α) : Outputs emits succeeded [] (.Return value : Program E ε α) :=
  outputs_of_within trivial

-- The reply decides whether something is seen and the program goes on.
theorem outputs_ask {request : E.Request} {resume : E.Reply request → Program E ε α} {seen : γ}
    (h : ∀ reply,
      emits ⟨request, reply⟩ = some seen ∧ Outputs emits succeeded rest (resume reply) ∨
        emits ⟨request, reply⟩ = none ∧ Abandons emits succeeded (resume reply)) :
    Outputs emits succeeded (seen :: rest) (.Ask request resume) := by
  intro trace outcome hruns
  cases hruns with
  | Ask reply hrest =>
      rcases h reply with ⟨hseen, hresume⟩ | ⟨hnone, habandons⟩
      · obtain ⟨hstart, hall⟩ := hresume _ _ hrest
        rw [List.filterMap_cons_some hseen]
        exact ⟨(List.prefix_cons_inj seen).mpr hstart,
          fun value houtcome hvalue => congrArg (seen :: ·) (hall value houtcome hvalue)⟩
      · rw [List.filterMap_cons_none hnone]
        exact outputs_of_abandons habandons _ _ hrest

-- What follows the block depends on its success, and so does the output.
theorem outputs_checked {block : Program E ε β} {next : β → Program E ε α}
    {handler : ε → Program E ε α} (hblock : Outputs emits succeeded' output block)
    (hnext : ∀ value, succeeded' value → Outputs emits succeeded rest (next value))
    (hfailed : ∀ value, ¬ succeeded' value → Abandons emits succeeded (next value))
    (hhandler : ∀ error, Abandons emits succeeded (handler error)) :
    Outputs emits succeeded (output ++ rest) (block.attempt next handler) := by
  have hcut {past now : List E.Exchange} {outcome : Except ε α} {program : Program E ε α}
      (hpast : past.filterMap emits <+: output) (hprogram : Abandons emits succeeded program)
      (hnow : Runs program now outcome) :
      (past ++ now).filterMap emits <+: output ++ rest ∧
        ∀ value, outcome = .ok value → succeeded value →
          (past ++ now).filterMap emits = output ++ rest := by
    obtain ⟨hnone, hnot⟩ := hprogram now outcome hnow
    rw [List.filterMap_append, hnone, List.append_nil]
    exact ⟨hpast.trans (List.prefix_append output rest),
      fun value houtcome hvalue => absurd hvalue (hnot value houtcome)⟩
  intro trace outcome hruns
  rcases runs_attempt hruns with ⟨past, now, value, rfl, hpast, hnow⟩ |
    ⟨past, now, error, rfl, hpast, hnow⟩
  · obtain ⟨hstart, hall⟩ := hblock past _ hpast
    by_cases hvalue : succeeded' value
    · obtain ⟨hlater, hrest⟩ := hnext value hvalue now outcome hnow
      rw [List.filterMap_append, hall value rfl hvalue]
      exact ⟨(List.prefix_append_right_inj output).mpr hlater,
        fun result houtcome hresult => congrArg (output ++ ·) (hrest result houtcome hresult)⟩
    · exact hcut hstart (hfailed value hvalue) hnow
  · exact hcut (hblock past _ hpast).1 (hhandler error) hnow

theorem outputs_attempt {block : Program E ε β} {next : β → Program E ε α}
    {handler : ε → Program E ε α} (hblock : Outputs emits (fun _ => True) output block)
    (hnext : ∀ value, Outputs emits succeeded rest (next value))
    (hhandler : ∀ error, Abandons emits succeeded (handler error)) :
    Outputs emits succeeded (output ++ rest) (block.attempt next handler) :=
  outputs_checked hblock (fun value _ => hnext value) (fun _ h => absurd trivial h) hhandler

theorem outputs_bind {block : Program E ε β} {next : β → Program E ε α}
    (hblock : Outputs emits (fun _ => True) output block)
    (hnext : ∀ value, Outputs emits succeeded rest (next value)) :
    Outputs emits succeeded (output ++ rest) (block >>= next) :=
  outputs_attempt hblock hnext abandons_throw

-- The block and what is done after it show nothing.
theorem outputs_after {block : Program E ε β} {next : β → Program E ε α}
    (hblock : block.Within (Unseen emits))
    (hnext : ∀ value, Outputs emits succeeded output (next value)) :
    Outputs emits succeeded output (block >>= next) :=
  outputs_bind (outputs_of_within hblock) hnext

theorem outputs_before {block : Program E ε β} {next : β → Program E ε α}
    {handler : ε → Program E ε α} (hblock : Outputs emits (fun _ => True) output block)
    (hnext : ∀ value, (next value).Within (Unseen emits))
    (hhandler : ∀ error, Abandons emits succeeded (handler error)) :
    Outputs emits succeeded output (block.attempt next handler) := by
  rw [← List.append_nil output]
  exact outputs_attempt hblock (fun value => outputs_of_within (hnext value)) hhandler

theorem outputs_handled {block : Program E ε α} {handler : ε → Program E ε α}
    (hblock : Outputs emits succeeded output block)
    (hhandler : ∀ error, Abandons emits succeeded (handler error)) :
    Outputs emits succeeded output (block.attempt .Return handler) := by
  rw [← List.append_nil output]
  exact outputs_checked hblock (fun value _ => outputs_return value)
    (fun _ hvalue => abandons_return hvalue) hhandler

theorem outputs_map {block : Program E ε β} {f : β → α}
    (hf : ∀ value, succeeded (f value) → succeeded' value)
    (hblock : Outputs emits succeeded' output block) :
    Outputs emits succeeded output (block >>= fun value => .Return (f value)) := by
  rw [← List.append_nil output]
  exact outputs_checked hblock (fun value _ => outputs_return (f value))
    (fun value hvalue => abandons_return fun h => hvalue (hf value h)) abandons_throw

theorem outputs_forM {items : List β} {body : β → Program E ε Unit} {outputOf : β → List γ}
    (hbody : ∀ item ∈ items, Outputs emits (fun _ => True) (outputOf item) (body item)) :
    Outputs emits (fun _ => True) (items.flatMap outputOf) (items.forM body) := by
  induction items with
  | nil => exact outputs_return ()
  | cons item items ih =>
      rw [List.flatMap_cons]
      apply outputs_bind (hbody item List.mem_cons_self)
      intro _
      exact ih fun other hother => hbody other (List.mem_cons_of_mem _ hother)

theorem outputs_onlyIf {block : Program E ε Unit} (condition : Bool)
    (hblock : Outputs emits (fun _ => True) output block) :
    Outputs emits (fun _ => True) (if condition then output else []) (onlyIf condition block) := by
  unfold onlyIf
  by_cases h : condition
  · rw [if_pos h, if_pos h]
    exact hblock
  · rw [if_neg h, if_neg h]
    exact outputs_return ()

end Rules

end Foundation.Program
