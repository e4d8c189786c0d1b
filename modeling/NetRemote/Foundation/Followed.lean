import NetRemote.Foundation.Program

namespace Foundation

section Lists

variable {α : Type} {opens closes : α → Bool} {trace : List α}

-- Everything that opens is followed by something that closes.
def Followed (opens closes : α → Bool) (trace : List α) : Prop :=
  ∀ past opening rest, trace = past ++ opening :: rest → opens opening →
    ∃ closing ∈ rest, closes closing

theorem followed_nil : Followed opens closes [] := by
  intro past opening rest hsplit
  simp at hsplit

theorem split_concat {past rest : List α} {last opening : α}
    (h : trace ++ [last] = past ++ opening :: rest) :
    (past = trace ∧ opening = last) ∨
      ∃ later, rest = later ++ [last] ∧ trace = past ++ opening :: later := by
  rcases List.eq_nil_or_concat rest with rfl | ⟨later, final, rfl⟩
  · obtain ⟨rfl, hlast⟩ := List.append_inj' h rfl
    exact .inl ⟨rfl, (List.head_eq_of_cons_eq hlast).symm⟩
  · have hconcat : trace ++ [last] = (past ++ opening :: later) ++ [final] := by
      simpa using h
    obtain ⟨rfl, hlast⟩ := List.append_inj' hconcat rfl
    obtain rfl : last = final := List.head_eq_of_cons_eq hlast
    exact .inr ⟨later, List.concat_eq_append, rfl⟩

theorem followed_concat_of_closes {last : α} (hopens : opens last = false)
    (hcloses : closes last = true) : Followed opens closes (trace ++ [last]) := by
  intro past opening rest hsplit hopening
  rcases split_concat hsplit with ⟨-, rfl⟩ | ⟨later, rfl, -⟩
  · rw [hopens] at hopening
    cases hopening
  · exact ⟨last, by simp, hcloses⟩

theorem followed_concat_of_followed {last : α} (htrace : Followed opens closes trace)
    (hopens : opens last = false) : Followed opens closes (trace ++ [last]) := by
  intro past opening rest hsplit hopening
  rcases split_concat hsplit with ⟨-, rfl⟩ | ⟨later, rfl, htrace'⟩
  · rw [hopens] at hopening
    cases hopening
  · obtain ⟨closing, hmem, hcloses⟩ := htrace past opening later htrace' hopening
    exact ⟨closing, by simp [hmem], hcloses⟩

theorem not_followed_concat {last : α} (hopens : opens last = true) :
    ¬ Followed opens closes (trace ++ [last]) := by
  intro hfollowed
  obtain ⟨closing, hmem, -⟩ := hfollowed trace last [] rfl hopens
  cases hmem

variable {P : α → Prop}

-- The first of a list that lacks a property.
theorem exists_first (h : ¬ ∀ item ∈ trace, P item) :
    ∃ done item later, trace = done ++ item :: later ∧ (∀ earlier ∈ done, P earlier) ∧
      ¬ P item := by
  classical
  push Not at h
  have hsome : (trace.find? fun item => ¬ P item).isSome := List.find?_isSome.mpr (by simpa using h)
  obtain ⟨item, hfound⟩ := Option.isSome_iff_exists.mp hsome
  obtain ⟨hitem, done, later, hsplit, hdone⟩ := List.find?_eq_some_iff_append.mp hfound
  exact ⟨done, item, later, hsplit, by simpa using hdone, by simpa using hitem⟩

theorem prefix_of_forall {made done later : List α} {item : α} (h : made <+: done ++ item :: later)
    (hmade : ∀ other ∈ made, P other) (hitem : ¬ P item) : made <+: done := by
  have hsplit : done ++ [item] <+: done ++ item :: later := ⟨later, by simp⟩
  rcases List.prefix_or_prefix_of_prefix h hsplit with hshort | hlong
  · rcases List.prefix_concat_iff.mp hshort with rfl | hdone
    · exact absurd (hmade item (by simp)) hitem
    · exact hdone
  · exact absurd (hmade item (hlong.subset (by simp))) hitem

end Lists

namespace Program

variable {E : Environment} {ε α β : Type} (opens closes : E.Exchange → Bool)

-- Where the program succeeds nothing is left open, if nothing was open before.
def Keeps (succeeded : α → Prop) (program : Program E ε α) : Prop :=
  ∀ past, Followed opens closes past →
    program.wp past (fun now value => succeeded value → Followed opens closes now)
      (fun _ _ => True)

-- Where the program succeeds nothing is left open, whatever was open before.
def Closes (succeeded : α → Prop) (program : Program E ε α) : Prop :=
  ∀ past, program.wp past (fun now value => succeeded value → Followed opens closes now)
    (fun _ _ => True)

variable {opens closes} {succeeded : α → Prop} {succeeded' : β → Prop}

theorem keeps_of_closes {program : Program E ε α} (h : Closes opens closes succeeded program) :
    Keeps opens closes succeeded program := fun past _ => h past

theorem closes_of_returns {program : Program E ε α}
    (h : program.Returns fun value => ¬ succeeded value) :
    Closes opens closes succeeded program := by
  intro past
  induction program generalizing past with
  | Return value => exact fun hsucceeded => absurd hsucceeded h
  | Throw error => trivial
  | Ask request resume ih => exact fun reply => ih reply (h reply) _

theorem keeps_return (value : α) :
    Keeps opens closes succeeded (Return value : Program E ε α) := fun _ hpast _ => hpast

theorem keeps_of_within {program : Program E ε α}
    (h : program.Within fun request => ∀ reply, opens ⟨request, reply⟩ = false) :
    Keeps opens closes succeeded program := by
  intro past hpast
  induction program generalizing past with
  | Return value => exact fun _ => hpast
  | Throw error => trivial
  | Ask request resume ih =>
      exact fun reply => ih reply (h.2 reply) _ (followed_concat_of_followed hpast (h.1 reply))

theorem keeps_attempt {block : Program E ε β} {next : β → Program E ε α}
    {handler : ε → Program E ε α} (hblock : Keeps opens closes (fun _ => True) block)
    (hnext : ∀ value, Keeps opens closes succeeded (next value))
    (hhandler : ∀ error, (handler error).Returns fun value => ¬ succeeded value) :
    Keeps opens closes succeeded (block.attempt next handler) := by
  intro past hpast
  rw [wp_attempt]
  apply wp_mono (hblock past hpast)
  · exact fun now value hnow => hnext value now (hnow trivial)
  · exact fun now error _ => closes_of_returns (hhandler error) now

-- Either the block closes what is open, and what follows opens nothing, or what
-- follows does it.
theorem closes_attempt {block : Program E ε β} {next : β → Program E ε α}
    {handler : ε → Program E ε α} (hblock : Closes opens closes (fun _ => True) block)
    (hnext : ∀ value, Keeps opens closes succeeded (next value))
    (hhandler : ∀ error, (handler error).Returns fun value => ¬ succeeded value) :
    Closes opens closes succeeded (block.attempt next handler) := by
  intro past
  rw [wp_attempt]
  apply wp_mono (hblock past)
  · exact fun now value hnow => hnext value now (hnow trivial)
  · exact fun now error _ => closes_of_returns (hhandler error) now

theorem closes_attempt_next {block : Program E ε β} {next : β → Program E ε α}
    {handler : ε → Program E ε α} (hnext : ∀ value, Closes opens closes succeeded (next value))
    (hhandler : ∀ error, (handler error).Returns fun value => ¬ succeeded value) :
    Closes opens closes succeeded (block.attempt next handler) := by
  intro past
  rw [wp_attempt]
  apply wp_mono (wp_extends block past)
  · exact fun now value _ => hnext value now
  · exact fun now error _ => closes_of_returns (hhandler error) now

theorem closes_bind_next {block : Program E ε β} {next : β → Program E ε α}
    (hnext : ∀ value, Closes opens closes succeeded (next value)) :
    Closes opens closes succeeded (block >>= next) :=
  closes_attempt_next hnext fun _ => trivial

theorem keeps_bind {block : Program E ε β} {next : β → Program E ε α}
    (hblock : Keeps opens closes (fun _ => True) block)
    (hnext : ∀ value, Keeps opens closes succeeded (next value)) :
    Keeps opens closes succeeded (block >>= next) :=
  keeps_attempt hblock hnext fun _ => trivial

theorem keeps_forM {items : List β} {body : β → Program E ε Unit}
    (hbody : ∀ item, Keeps opens closes (fun _ => True) (body item)) :
    Keeps opens closes (fun _ => True) (items.forM body) := by
  induction items with
  | nil => exact keeps_return ()
  | cons item items ih => exact keeps_bind (hbody item) fun _ => ih

-- A result that is handed on in another form.
theorem keeps_map {program : Program E ε β} {f : β → α}
    (h : Keeps opens closes (fun value => succeeded (f value)) program) :
    Keeps opens closes succeeded (f <$> program) :=
  fun past hpast => (wp_bind _ _).mpr (h past hpast)

theorem followed_of_keeps {program : Program E ε α} (h : Keeps opens closes succeeded program)
    {trace : List E.Exchange} {value : α} (hruns : Runs program trace (.ok value))
    (hsucceeded : succeeded value) : Followed opens closes trace :=
  ends_of_wp [] (h [] followed_nil) hruns hsucceeded

end Program

end Foundation
