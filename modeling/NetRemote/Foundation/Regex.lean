import Mathlib.Computability.RegularExpressions

namespace Foundation.Regex

variable {α : Type}

-- The forms of a pattern that regular expressions can be written with.
def oneOf (symbols : List α) : RegularExpression α :=
  (symbols.map .char).foldr (· + ·) 0

def literal (text : List α) : RegularExpression α :=
  (text.map .char).foldr (· * ·) 1

def optional (pattern : RegularExpression α) : RegularExpression α := 1 + pattern

def oneOrMore (pattern : RegularExpression α) : RegularExpression α := pattern * pattern.star

def repeated (pattern : RegularExpression α) (least most : Nat) : RegularExpression α :=
  pattern ^ least * optional pattern ^ (most - least)

-- `std::regex_match`: the whole text has to match.
def regexMatch [DecidableEq α] (text : List α) (pattern : RegularExpression α) : Bool :=
  pattern.rmatch text

theorem regexMatch_iff [DecidableEq α] {text : List α} {pattern : RegularExpression α} :
    regexMatch text pattern ↔ text ∈ pattern.matches' :=
  RegularExpression.rmatch_iff_matches' pattern text

theorem mem_oneOf {symbols text : List α} :
    text ∈ (oneOf symbols).matches' ↔ ∃ symbol ∈ symbols, text = [symbol] := by
  induction symbols with
  | nil => simp [oneOf, Language.notMem_zero]
  | cons first symbols ih =>
      change text ∈ RegularExpression.matches' (.char first + oneOf symbols) ↔ _
      rw [RegularExpression.matches'_add, Language.mem_add, ih, RegularExpression.matches'_char]
      simp only [List.mem_cons, exists_eq_or_imp]
      rfl

theorem mem_literal {text' text : List α} : text ∈ (literal text').matches' ↔ text = text' := by
  induction text' generalizing text with
  | nil => exact Language.mem_one text
  | cons first text' ih =>
      change text ∈ RegularExpression.matches' (.char first * literal text') ↔ _
      rw [RegularExpression.matches'_mul, Language.mem_mul]
      constructor
      · rintro ⟨_, rfl, rest, hrest, rfl⟩
        rw [ih.mp hrest]
        rfl
      · rintro rfl
        exact ⟨[first], rfl, text', ih.mpr rfl, rfl⟩

theorem mem_mul_of_mem {pattern pattern' : RegularExpression α} {text text' : List α}
    (h : text ∈ pattern.matches') (h' : text' ∈ pattern'.matches') :
    text ++ text' ∈ (pattern * pattern').matches' :=
  Language.append_mem_mul h h'

theorem nil_mem_optional (pattern : RegularExpression α) : [] ∈ (optional pattern).matches' :=
  .inl Language.nil_mem_one

theorem mem_optional_of_mem {pattern : RegularExpression α} {text : List α}
    (h : text ∈ pattern.matches') : text ∈ (optional pattern).matches' :=
  .inr h

theorem mem_add_left {pattern pattern' : RegularExpression α} {text : List α}
    (h : text ∈ pattern.matches') : text ∈ (pattern + pattern').matches' :=
  .inl h

theorem mem_add_right {pattern pattern' : RegularExpression α} {text : List α}
    (h : text ∈ pattern'.matches') : text ∈ (pattern + pattern').matches' :=
  .inr h

section Repeated

variable {symbols text : List α}

theorem mem_oneOf_pow (h : ∀ symbol ∈ text, symbol ∈ symbols) :
    text ∈ (oneOf symbols ^ text.length).matches' := by
  induction text using List.reverseRecOn with
  | nil => exact Language.nil_mem_one
  | append_singleton text last ih =>
      rw [List.length_append, List.length_singleton]
      have hlast : [last] ∈ (oneOf symbols).matches' :=
        mem_oneOf.mpr ⟨last, h last (by simp), rfl⟩
      exact mem_mul_of_mem (ih fun symbol hsymbol => h symbol (by simp [hsymbol])) hlast

theorem mem_optional_oneOf_pow {most : Nat} (hlength : text.length ≤ most)
    (h : ∀ symbol ∈ text, symbol ∈ symbols) :
    text ∈ (optional (oneOf symbols) ^ most).matches' := by
  induction most generalizing text with
  | zero =>
      obtain rfl := List.length_eq_zero_iff.mp (Nat.le_zero.mp hlength)
      exact Language.nil_mem_one
  | succ most ih =>
      rcases List.eq_nil_or_concat text with rfl | ⟨text, last, rfl⟩
      · exact mem_mul_of_mem (ih (Nat.zero_le _) h) (nil_mem_optional _)
      · rw [List.concat_eq_append] at hlength h ⊢
        have hlast : [last] ∈ (optional (oneOf symbols)).matches' :=
          mem_optional_of_mem (mem_oneOf.mpr ⟨last, h last (by simp), rfl⟩)
        refine mem_mul_of_mem (ih ?_ fun symbol hsymbol => h symbol (by simp [hsymbol])) hlast
        simpa using hlength

theorem mem_repeated {least most : Nat} (hleast : least ≤ text.length) (hmost : text.length ≤ most)
    (h : ∀ symbol ∈ text, symbol ∈ symbols) :
    text ∈ (repeated (oneOf symbols) least most).matches' := by
  have hfirst : text.take least ∈ (oneOf symbols ^ least).matches' := by
    have hlength : (text.take least).length = least := List.length_take_of_le hleast
    have hall : ∀ symbol ∈ text.take least, symbol ∈ symbols :=
      fun symbol hsymbol => h symbol (List.mem_of_mem_take hsymbol)
    simpa only [hlength] using mem_oneOf_pow hall
  have hrest : text.drop least ∈ (optional (oneOf symbols) ^ (most - least)).matches' := by
    refine mem_optional_oneOf_pow ?_ fun symbol hsymbol => h symbol (List.mem_of_mem_drop hsymbol)
    rw [List.length_drop]
    omega
  rw [← List.take_append_drop least text]
  exact mem_mul_of_mem hfirst hrest

end Repeated

section Membership

variable {pattern pattern' : RegularExpression α} {symbols text : List α}

theorem mem_mul :
    text ∈ (pattern * pattern').matches' ↔
      ∃ front ∈ pattern.matches', ∃ back ∈ pattern'.matches', front ++ back = text := by
  rw [RegularExpression.matches'_mul, Language.mem_mul]

theorem mem_add :
    text ∈ (pattern + pattern').matches' ↔ text ∈ pattern.matches' ∨ text ∈ pattern'.matches' := by
  rw [RegularExpression.matches'_add, Language.mem_add]

theorem mem_optional :
    text ∈ (optional pattern).matches' ↔ text = [] ∨ text ∈ pattern.matches' := by
  rw [optional, mem_add, RegularExpression.matches'_epsilon, Language.mem_one]

theorem mem_literal_mul {front : List α} :
    text ∈ (literal front * pattern).matches' ↔
      ∃ back ∈ pattern.matches', front ++ back = text := by
  rw [mem_mul]
  simp only [mem_literal, exists_eq_left]

theorem mem_mul_literal {back : List α} :
    text ∈ (pattern * literal back).matches' ↔
      ∃ front ∈ pattern.matches', front ++ back = text := by
  rw [mem_mul]
  simp only [mem_literal, exists_eq_left]

theorem mem_oneOf_pow_iff {count : Nat} :
    text ∈ (oneOf symbols ^ count).matches' ↔
      text.length = count ∧ ∀ symbol ∈ text, symbol ∈ symbols := by
  constructor
  · intro h
    induction count generalizing text with
    | zero =>
        obtain rfl := (Language.mem_one text).mp h
        simp
    | succ count ih =>
        obtain ⟨front, hfront, back, hback, rfl⟩ := mem_mul.mp h
        obtain ⟨symbol, hsymbol, rfl⟩ := mem_oneOf.mp hback
        obtain ⟨hlength, hall⟩ := ih hfront
        refine ⟨by rw [List.length_append, hlength, List.length_singleton], ?_⟩
        rw [List.forall_mem_append]
        exact ⟨hall, by simpa using hsymbol⟩
  · rintro ⟨rfl, h⟩
    exact mem_oneOf_pow h

theorem mem_optional_oneOf_pow_iff {most : Nat} :
    text ∈ (optional (oneOf symbols) ^ most).matches' ↔
      text.length ≤ most ∧ ∀ symbol ∈ text, symbol ∈ symbols := by
  constructor
  · intro h
    induction most generalizing text with
    | zero =>
        obtain rfl := (Language.mem_one text).mp h
        simp
    | succ most ih =>
        obtain ⟨front, hfront, back, hback, rfl⟩ := mem_mul.mp h
        obtain ⟨hlength, hall⟩ := ih hfront
        rcases mem_optional.mp hback with rfl | hback
        · rw [List.append_nil]
          exact ⟨by omega, hall⟩
        · obtain ⟨symbol, hsymbol, rfl⟩ := mem_oneOf.mp hback
          rw [List.length_append, List.length_singleton, List.forall_mem_append]
          exact ⟨by omega, hall, by simpa using hsymbol⟩
  · rintro ⟨hlength, h⟩
    exact mem_optional_oneOf_pow hlength h

theorem mem_repeated_iff {least most : Nat} (h : least ≤ most) :
    text ∈ (repeated (oneOf symbols) least most).matches' ↔
      least ≤ text.length ∧ text.length ≤ most ∧ ∀ symbol ∈ text, symbol ∈ symbols := by
  constructor
  · intro hmem
    obtain ⟨front, hfront, back, hback, rfl⟩ := mem_mul.mp hmem
    obtain ⟨hfrontLength, hfrontAll⟩ := mem_oneOf_pow_iff.mp hfront
    obtain ⟨hbackLength, hbackAll⟩ := mem_optional_oneOf_pow_iff.mp hback
    rw [List.length_append, List.forall_mem_append]
    exact ⟨by omega, by omega, hfrontAll, hbackAll⟩
  · rintro ⟨hleast, hmost, hall⟩
    exact mem_repeated hleast hmost hall

theorem mem_oneOrMore_iff :
    text ∈ (oneOrMore (oneOf symbols)).matches' ↔
      text ≠ [] ∧ ∀ symbol ∈ text, symbol ∈ symbols := by
  have hstar : ∀ text : List α, text ∈ (oneOf symbols).star.matches' ↔
      ∀ symbol ∈ text, symbol ∈ symbols := by
    intro text
    rw [RegularExpression.matches'_star, Language.mem_kstar]
    constructor
    · rintro ⟨parts, rfl, hparts⟩ symbol hsymbol
      obtain ⟨part, hpart, hmem⟩ := List.mem_flatten.mp hsymbol
      obtain ⟨only, honly, rfl⟩ := mem_oneOf.mp (hparts part hpart)
      rwa [List.mem_singleton.mp hmem]
    · intro hall
      refine ⟨text.map fun symbol => [symbol], (List.flatMap_singleton' text).symm, ?_⟩
      rw [List.forall_mem_map]
      exact fun symbol hsymbol => mem_oneOf.mpr ⟨symbol, hall symbol hsymbol, rfl⟩
  rw [oneOrMore, mem_mul]
  constructor
  · rintro ⟨front, hfront, back, hback, rfl⟩
    obtain ⟨symbol, hsymbol, rfl⟩ := mem_oneOf.mp hfront
    refine ⟨by simp, ?_⟩
    rw [List.forall_mem_append]
    exact ⟨List.forall_mem_singleton.mpr hsymbol, (hstar back).mp hback⟩
  · rintro ⟨hne, hall⟩
    obtain ⟨first, rest, rfl⟩ := List.exists_cons_of_ne_nil hne
    rw [List.forall_mem_cons] at hall
    exact ⟨[first], mem_oneOf.mpr ⟨first, hall.1, rfl⟩, rest, (hstar rest).mpr hall.2, rfl⟩

end Membership

end Foundation.Regex
