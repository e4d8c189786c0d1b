import Mathlib.Data.List.Induction
import Mathlib.Data.Nat.ModEq
import NetRemote.Foundation.Table

namespace NetRemote.Wpa.Registrations

open Foundation

abbrev WpaEventListenerRegistrationToken := UInt32

-- What `m_eventListenerStateGate` protects. Whoever changes it holds the gate
-- exclusively, so each function is one step.
structure State (Listener : Type) where
  eventListeners : Table WpaEventListenerRegistrationToken Listener := ∅
  eventListenerRegistrationTokenNext : WpaEventListenerRegistrationToken := 0

variable {Listener : Type}

def registerEventListener (s : State Listener) (wpaEventListener : Listener) :
    State Listener × WpaEventListenerRegistrationToken :=
  ({ eventListeners := s.eventListeners.insert s.eventListenerRegistrationTokenNext wpaEventListener
     eventListenerRegistrationTokenNext := s.eventListenerRegistrationTokenNext + 1 },
    s.eventListenerRegistrationTokenNext)

def unregisterEventListener (s : State Listener) (token : WpaEventListenerRegistrationToken) :
    State Listener :=
  { s with eventListeners := s.eventListeners.erase token }

inductive Call (Listener : Type) where
  | RegisterEventListener (wpaEventListener : Listener)
  | UnregisterEventListener (token : WpaEventListenerRegistrationToken)
  deriving DecidableEq, Repr

def perform (s : State Listener) : Call Listener → State Listener
  | .RegisterEventListener wpaEventListener => (registerEventListener s wpaEventListener).1
  | .UnregisterEventListener token => unregisterEventListener s token

def performAll (calls : List (Call Listener)) : State Listener := calls.foldl perform {}

def Call.isRegistration : Call Listener → Bool
  | .RegisterEventListener _ => true
  | .UnregisterEventListener _ => false

def registrations (calls : List (Call Listener)) : Nat := calls.countP Call.isRegistration

-- The token of a registration after so many others.
def tokenAfter (count : Nat) : WpaEventListenerRegistrationToken := UInt32.ofNat count

def KeepsTokensUnique (calls : List (Call Listener)) : Prop :=
  ∀ before wpaEventListener after,
    calls = before ++ .RegisterEventListener wpaEventListener :: after →
    let registered := registerEventListener (performAll before) wpaEventListener
    registered.2 ∉ (performAll before).eventListeners ∧
      ∀ token other, (performAll before).eventListeners.lookup token = some other →
        registered.1.eventListeners.lookup token = some other

-- Of two registrations with a multiple of 2^32 registrations from one to the other, the
-- first is given up before the second comes.
def GivenUpInTime (calls : List (Call Listener)) : Prop :=
  ∀ before first between second after,
    calls = before ++ .RegisterEventListener first :: (between ++
      .RegisterEventListener second :: after) →
    2 ^ 32 ∣ registrations between + 1 →
    .UnregisterEventListener (tokenAfter (registrations before)) ∈ between

section Counter

theorem tokenAfter_eq_iff {count other : Nat} :
    tokenAfter count = tokenAfter other ↔ count % 2 ^ 32 = other % 2 ^ 32 := by
  unfold tokenAfter
  rw [UInt32.ofNat_eq_iff_mod_eq_toNat, UInt32.toNat_ofNat']

theorem registrations_append (calls later : List (Call Listener)) :
    registrations (calls ++ later) = registrations calls + registrations later :=
  List.countP_append

theorem performAll_concat (calls : List (Call Listener)) (call : Call Listener) :
    performAll (calls ++ [call]) = perform (performAll calls) call := by
  rw [performAll, List.foldl_concat]
  rfl

theorem next_performAll (calls : List (Call Listener)) :
    (performAll calls).eventListenerRegistrationTokenNext = tokenAfter (registrations calls) := by
  induction calls using List.reverseRecOn with
  | nil => rfl
  | append_singleton calls call ih =>
      rw [performAll_concat, registrations_append]
      cases call with
      | RegisterEventListener wpaEventListener =>
          have hnext : (perform (performAll calls) (.RegisterEventListener wpaEventListener)
              ).eventListenerRegistrationTokenNext = tokenAfter (registrations calls) + 1 :=
            congrArg (· + 1) ih
          rw [hnext]
          exact (UInt32.ofNat_add _ 1).symm
      | UnregisterEventListener token => exact ih

end Counter

-- A token is registered where a registration got it that nothing has removed since.
def Holds (calls : List (Call Listener)) (token : WpaEventListenerRegistrationToken) : Prop :=
  ∃ before wpaEventListener after,
    calls = before ++ .RegisterEventListener wpaEventListener :: after ∧
      tokenAfter (registrations before) = token ∧ .UnregisterEventListener token ∉ after

section Holds

variable {calls : List (Call Listener)} {token : WpaEventListenerRegistrationToken}

-- The last call gives out the token, or it leaves a token registered that was so before.
theorem holds_concat (call : Call Listener) :
    Holds (calls ++ [call]) token ↔
      (call.isRegistration ∧ token = tokenAfter (registrations calls)) ∨
        (call ≠ .UnregisterEventListener token ∧ Holds calls token) := by
  constructor
  · rintro ⟨before, first, after, hcalls, htoken, hkept⟩
    obtain rfl | ⟨after, last, rfl⟩ := List.eq_nil_or_concat' after
    · obtain ⟨rfl, hlast⟩ := List.append_inj' hcalls rfl
      obtain rfl := List.singleton_inj.mp hlast
      exact .inl ⟨rfl, htoken.symm⟩
    · rw [← List.cons_append, ← List.append_assoc] at hcalls
      obtain ⟨rfl, hlast⟩ := List.append_inj' hcalls rfl
      obtain rfl := List.singleton_inj.mp hlast
      rw [List.mem_append, not_or, List.mem_singleton] at hkept
      have hother : call ≠ .UnregisterEventListener token := fun heq => hkept.2 heq.symm
      exact .inr ⟨hother, before, first, after, rfl, htoken, hkept.1⟩
  · rintro (⟨hregistration, rfl⟩ | ⟨hother, before, first, after, rfl, htoken, hkept⟩)
    · cases call with
      | RegisterEventListener wpaEventListener =>
          exact ⟨calls, wpaEventListener, [], rfl, rfl, List.not_mem_nil⟩
      | UnregisterEventListener removed => cases hregistration
    · refine ⟨before, first, after ++ [call], ?_, htoken, ?_⟩
      · rw [List.append_assoc, List.cons_append]
      · rw [List.mem_append, not_or, List.mem_singleton]
        exact ⟨hkept, hother.symm⟩

theorem mem_performAll_iff :
    token ∈ (performAll calls).eventListeners ↔ Holds calls token := by
  induction calls using List.reverseRecOn generalizing token with
  | nil =>
      refine iff_of_false (AList.notMem_empty token) ?_
      rintro ⟨before, first, after, hcalls, -⟩
      simp at hcalls
  | append_singleton calls call ih =>
      rw [performAll_concat, holds_concat, ← ih]
      cases call with
      | RegisterEventListener wpaEventListener =>
          refine (AList.mem_insert _).trans ?_
          rw [next_performAll]
          simp [Call.isRegistration]
      | UnregisterEventListener removed =>
          refine AList.mem_erase.trans ?_
          simp [Call.isRegistration, eq_comm]

end Holds

section Reuse

variable {calls before between : List (Call Listener)} {first : Listener}

theorem registrations_between :
    registrations (before ++ .RegisterEventListener first :: between) =
      registrations before + (registrations between + 1) := by
  rw [registrations_append]
  exact congrArg _ (List.countP_cons_of_pos rfl)

-- The counter has come round to the token of an earlier registration.
theorem tokenAfter_between_iff :
    tokenAfter (registrations before) =
      tokenAfter (registrations (before ++ .RegisterEventListener first :: between)) ↔
      2 ^ 32 ∣ registrations between + 1 := by
  rw [tokenAfter_eq_iff, registrations_between]
  exact Nat.left_modEq_add_iff

theorem keepsTokensUnique_iff (calls : List (Call Listener)) :
    KeepsTokensUnique calls ↔ GivenUpInTime calls := by
  constructor
  · intro hunique before first between second after hcalls hround
    by_contra hkept
    rw [← List.cons_append, ← List.append_assoc] at hcalls
    obtain ⟨hfree, -⟩ := hunique _ second after hcalls
    apply hfree
    rw [registerEventListener, next_performAll, mem_performAll_iff]
    exact ⟨before, first, between, rfl, tokenAfter_between_iff.mpr hround,
      tokenAfter_between_iff.mpr hround ▸ hkept⟩
  · intro hintime before second after hcalls
    have hfree : (performAll before).eventListenerRegistrationTokenNext ∉
        (performAll before).eventListeners := by
      rw [mem_performAll_iff, next_performAll]
      rintro ⟨earlier, first, between, rfl, htoken, hkept⟩
      rw [List.append_assoc, List.cons_append] at hcalls
      have hround := tokenAfter_between_iff.mp htoken
      exact hkept (htoken ▸ hintime earlier first between second after hcalls hround)
    refine ⟨hfree, fun token other hother => ?_⟩
    have hne : token ≠ (performAll before).eventListenerRegistrationTokenNext := by
      rintro rfl
      exact hfree (AList.lookup_isSome.mp (Option.isSome_of_mem hother))
    exact (AList.lookup_insert_ne hne).trans hother

-- One listener stays registered while another comes and goes.
def comesAndGoes : Nat → List (Call Nat)
  | 0 => [.RegisterEventListener 0]
  | count + 1 =>
      comesAndGoes count ++ [.RegisterEventListener 1] ++
        [.UnregisterEventListener (tokenAfter (count + 1))]

theorem registrations_comesAndGoes (count : Nat) :
    registrations (comesAndGoes count) = count + 1 := by
  induction count with
  | zero => rfl
  | succ count ih =>
      rw [comesAndGoes, registrations_append, registrations_append, ih]
      rfl

theorem tokenAfter_ne_zero {count : Nat} (h : count + 1 < 2 ^ 32) : tokenAfter (count + 1) ≠ 0 := by
  intro heq
  have hmod := tokenAfter_eq_iff.mp (heq.trans (rfl : (0 : UInt32) = tokenAfter 0))
  rw [Nat.mod_eq_of_lt h] at hmod
  cases hmod

theorem next_comesAndGoes (count : Nat) :
    (performAll (comesAndGoes count)).eventListenerRegistrationTokenNext =
      tokenAfter (count + 1) := by
  rw [next_performAll, registrations_comesAndGoes]

theorem eventListeners_comesAndGoes {count : Nat} (h : count < 2 ^ 32) :
    (performAll (comesAndGoes count)).eventListeners = AList.singleton 0 0 := by
  induction count with
  | zero => rfl
  | succ count ih =>
      have hbefore := ih (by omega)
      have hfree : tokenAfter (count + 1) ∉ (performAll (comesAndGoes count)).eventListeners := by
        rw [hbefore, AList.mem_keys, AList.keys_singleton, List.mem_singleton]
        exact tokenAfter_ne_zero h
      rw [comesAndGoes, performAll_concat, performAll_concat, ← hbefore]
      have herase := Table.erase_insert hfree 1
      rw [← next_comesAndGoes] at herase
      rw [← next_comesAndGoes]
      exact herase

theorem length_keys_comesAndGoes {count : Nat} (h : count < 2 ^ 32) {before : List (Call Nat)}
    (hbefore : before <+: comesAndGoes count) :
    (performAll before).eventListeners.keys.length ≤ 2 := by
  induction count with
  | zero =>
      rw [comesAndGoes, List.prefix_cons_iff] at hbefore
      obtain rfl | ⟨rest, rfl, hrest⟩ := hbefore
      · decide
      · obtain rfl := List.prefix_nil.mp hrest
        decide
  | succ count ih =>
      rw [comesAndGoes, List.prefix_concat_iff, List.prefix_concat_iff] at hbefore
      obtain rfl | rfl | hearlier := hbefore
      · have hkeys := eventListeners_comesAndGoes h
        rw [comesAndGoes] at hkeys
        rw [hkeys]
        decide
      · have hkeys := eventListeners_comesAndGoes (Nat.lt_of_succ_lt h)
        have hmiddle : (perform (performAll (comesAndGoes count)) (.RegisterEventListener 1)
            ).eventListeners.keys = _ := AList.keys_insert (performAll _).eventListeners
        rw [performAll_concat, hmiddle, hkeys, List.length_cons]
        exact Nat.succ_le_succ List.length_erase_le
      · exact ih (Nat.lt_of_succ_lt h) hearlier

-- After 2^32 registrations, with never more than two listeners registered, a new
-- listener gets the token of the first one and takes its place.
theorem registerEventListener_replacesFirst :
    (∀ before, before <+: comesAndGoes (2 ^ 32 - 1) →
      (performAll before).eventListeners.keys.length ≤ 2) ∧
    ¬ KeepsTokensUnique (comesAndGoes (2 ^ 32 - 1) ++ [.RegisterEventListener 1]) ∧
    (performAll (comesAndGoes (2 ^ 32 - 1))).eventListeners.lookup 0 = some 0 ∧
    (performAll (comesAndGoes (2 ^ 32 - 1) ++ [.RegisterEventListener 1])
      ).eventListeners.lookup 0 = some 1 := by
  generalize hcount : 2 ^ 32 - 1 = count
  have hlisteners : (performAll (comesAndGoes count)).eventListeners = AList.singleton 0 0 :=
    eventListeners_comesAndGoes (by omega)
  have hnext : (performAll (comesAndGoes count)).eventListenerRegistrationTokenNext = 0 := by
    rw [next_comesAndGoes, ← hcount]
    rfl
  refine ⟨fun before => length_keys_comesAndGoes (by omega), ?_, ?_, ?_⟩
  · intro hunique
    obtain ⟨hfree, -⟩ := hunique (comesAndGoes count) 1 [] rfl
    rw [registerEventListener, hnext, hlisteners, AList.mem_keys] at hfree
    exact hfree List.mem_cons_self
  · rw [hlisteners]
    rfl
  · rw [performAll_concat, ← hnext]
    exact AList.lookup_insert _

end Reuse

end NetRemote.Wpa.Registrations
