import Mathlib.Data.List.AList
import NetRemote.Foundation.Fold

namespace Foundation

abbrev Table (κ ν : Type) := AList fun _ : κ => ν

namespace Table

variable {κ ν : Type}

def pairs (table : Table κ ν) : List (κ × ν) := table.entries.map fun entry => (entry.1, entry.2)

theorem nodup_pairs (table : Table κ ν) : (table.pairs.map Prod.fst).Nodup := by
  have hkeys := table.keys_nodup
  simpa [pairs, AList.keys, List.keys, Function.comp_def] using hkeys

section Lookup

variable [DecidableEq κ]

-- `emplace` leaves an entry that exists as it is.
def emplace (table : Table κ ν) (key : κ) (value : ν) : Table κ ν :=
  if key ∈ table then table else table.insert key value

theorem mem_pairs {table : Table κ ν} {key : κ} {value : ν} :
    (key, value) ∈ table.pairs ↔ table.lookup key = some value := by
  rw [← Option.mem_def, AList.mem_lookup_iff]
  simp only [pairs, List.mem_map, Prod.mk.injEq]
  constructor
  · rintro ⟨⟨_, _⟩, hentry, rfl, rfl⟩
    exact hentry
  · intro hentry
    exact ⟨⟨key, value⟩, hentry, rfl, rfl⟩

theorem eq_empty_iff {table : Table κ ν} : table = ∅ ↔ ∀ key, table.lookup key = none := by
  constructor
  · rintro rfl key
    exact AList.lookup_empty key
  · intro h
    apply AList.ext
    rw [AList.empty_entries, List.eq_nil_iff_forall_not_mem]
    intro entry hentry
    have hsome := AList.mem_lookup_iff.mpr hentry
    rw [h] at hsome
    cases hsome

theorem erase_insert {table : Table κ ν} {key : κ} (h : key ∉ table) (value : ν) :
    AList.erase key (table.insert key value) = table := by
  apply AList.ext
  have hentries : (table.insert key value).entries = ⟨key, value⟩ :: table.entries :=
    AList.entries_insert_of_notMem h
  change (table.insert key value).entries.kerase key = table.entries
  rw [hentries]
  exact List.kerase_cons_eq rfl

theorem lookup_foldl_erase (keys : List κ) (table : Table κ ν) (key : κ) :
    (keys.foldl (fun (table : Table κ ν) other => AList.erase other table) table).lookup key =
      if key ∈ keys then none else table.lookup key := by
  induction keys generalizing table with
  | nil => simp
  | cons other keys ih =>
      rw [List.foldl_cons, ih]
      by_cases hkey : key = other
      · subst hkey
        simp
      · simp [hkey]

-- The last insertion under a key wins.
theorem lookup_foldl_insert (entries : List (κ × ν)) (key : κ) :
    (entries.foldl (fun (table : Table κ ν) entry => table.insert entry.1 entry.2) ∅).lookup key =
      (entries.reverse.find? fun entry => entry.1 = key).map Prod.snd := by
  have hlast := foldl_last (fun (table : Table κ ν) (entry : κ × ν) => table.insert entry.1 entry.2)
    (fun table => table.lookup key) (fun entry => entry.1 = key) (fun entry => some entry.2)
    entries ∅
    (by
      intro table entry _ hkey
      obtain rfl : entry.1 = key := by simpa using hkey
      exact AList.lookup_insert table)
    (by
      intro table entry _ hkey
      exact AList.lookup_insert_ne fun heq => by simp [heq] at hkey)
  rw [hlast]
  cases entries.reverse.find? fun entry => entry.1 = key <;> rfl

theorem lookup_emplace (table : Table κ ν) (key : κ) (value : ν) (other : κ) :
    (table.emplace key value).lookup other =
      if other = key then some ((table.lookup key).getD value) else table.lookup other := by
  unfold emplace
  by_cases hmem : key ∈ table
  · obtain ⟨existing, hexisting⟩ := Option.isSome_iff_exists.mp (AList.lookup_isSome.mpr hmem)
    by_cases hother : other = key
    · subst hother
      simp [hmem, hexisting]
    · simp [hmem, hother]
  · have hnone := AList.lookup_eq_none.mpr hmem
    by_cases hother : other = key
    · subst hother
      simp [hmem, hnone]
    · simp [hmem, hother, AList.lookup_insert_ne hother]

-- The first `emplace` under a key wins.
theorem lookup_foldl_emplace (entries : List (κ × ν)) (table : Table κ ν) (key : κ) :
    (entries.foldl (fun (table : Table κ ν) entry => table.emplace entry.1 entry.2) table).lookup
        key =
      (table.lookup key).or ((entries.find? fun entry => entry.1 = key).map Prod.snd) := by
  induction entries generalizing table with
  | nil => simp
  | cons entry entries ih =>
      rw [List.foldl_cons, ih, lookup_emplace]
      by_cases hkey : key = entry.1
      · subst hkey
        cases table.lookup entry.1 <;> simp
      · rw [if_neg hkey, List.find?_cons_of_neg (by simpa using fun heq => hkey heq.symm)]

end Lookup

-- The order in which a container hands out its entries is its own choice.
structure Traversal (κ ν : Type) where
  visit : Table κ ν → List (κ × ν)
  visit_perm : ∀ table, (visit table).Perm table.pairs

instance : Inhabited (Traversal κ ν) := ⟨pairs, fun _ => .refl _⟩

theorem Traversal.nodup (traversal : Traversal κ ν) (table : Table κ ν) :
    ((traversal.visit table).map Prod.fst).Nodup :=
  ((traversal.visit_perm table).map _).nodup_iff.mpr (nodup_pairs table)

theorem Traversal.mem_visit [DecidableEq κ] (traversal : Traversal κ ν) {table : Table κ ν}
    {key : κ} {value : ν} :
    (key, value) ∈ traversal.visit table ↔ table.lookup key = some value :=
  (traversal.visit_perm table).mem_iff.trans mem_pairs

theorem Traversal.visit_empty (traversal : Traversal κ ν) : traversal.visit ∅ = [] :=
  List.perm_nil.mp (traversal.visit_perm ∅)

theorem Traversal.visit_eq_nil_iff [DecidableEq κ] (traversal : Traversal κ ν)
    {table : Table κ ν} : traversal.visit table = [] ↔ table = ∅ := by
  constructor
  · intro hnone
    apply eq_empty_iff.mpr
    intro key
    apply Option.eq_none_iff_forall_not_mem.mpr
    intro value hvalue
    have hmem := traversal.mem_visit.mpr hvalue
    rw [hnone] at hmem
    cases hmem
  · rintro rfl
    exact traversal.visit_empty

section Key

variable {γ : Type} [DecidableEq κ]

-- Of entries under distinct keys, one at most is under a given key.
theorem foldl_key {entries : List (κ × ν)} (hnodup : (entries.map Prod.fst).Nodup) (key : κ)
    (effect : γ → ν → γ) (start : γ) :
    entries.foldl (fun value entry => if entry.1 = key then effect value entry.2 else value) start =
      ((entries.find? fun entry => entry.1 = key).map Prod.snd).elim start (effect start) := by
  induction entries generalizing start with
  | nil => rfl
  | cons entry entries ih =>
      obtain ⟨hnotMem, hrest⟩ := List.nodup_cons.mp hnodup
      rw [List.foldl_cons]
      by_cases hkey : entry.1 = key
      · subst hkey
        rw [if_pos rfl, List.find?_cons_of_pos (by simp), ih hrest]
        have hnone : entries.find? (fun other => other.1 = entry.1) = none := by
          rw [List.find?_eq_none]
          intro other hother hsame
          exact hnotMem (List.mem_map.mpr ⟨other, hother, by simpa using hsame⟩)
        rw [hnone]
        rfl
      · rw [if_neg hkey, List.find?_cons_of_neg (by simpa using hkey), ih hrest]

theorem Traversal.find?_visit (traversal : Traversal κ ν) (table : Table κ ν) (key : κ) :
    ((traversal.visit table).find? fun entry => entry.1 = key).map Prod.snd =
      table.lookup key := by
  cases hfound : (traversal.visit table).find? fun entry => entry.1 = key with
  | some entry =>
      have hmem : (entry.1, entry.2) ∈ traversal.visit table := List.mem_of_find?_eq_some hfound
      obtain rfl : entry.1 = key := by simpa using List.find?_some hfound
      exact (traversal.mem_visit.mp hmem).symm
  | none =>
      cases hlookup : table.lookup key with
      | none => rfl
      | some value =>
          have hmem := traversal.mem_visit.mpr hlookup
          simpa using List.find?_eq_none.mp hfound _ hmem

theorem Traversal.foldl_key (traversal : Traversal κ ν) (table : Table κ ν) (key : κ)
    (effect : γ → ν → γ) (start : γ) :
    (traversal.visit table).foldl
        (fun value entry => if entry.1 = key then effect value entry.2 else value) start =
      (table.lookup key).elim start (effect start) := by
  rw [Table.foldl_key (traversal.nodup table), traversal.find?_visit]

end Key

section Rekey

variable {κ' ν' : Type} [DecidableEq κ'] (traversal : Traversal κ ν) (f : κ → κ') (g : ν → ν')

-- Every entry is put under a new key, as long as that is free.
def Traversal.rekey (table : Table κ ν) : Table κ' ν' :=
  (traversal.visit table).foldl (fun rekeyed entry => rekeyed.emplace (f entry.1) (g entry.2)) ∅

theorem Traversal.lookup_rekey (table : Table κ ν) (key : κ') :
    (traversal.rekey f g table).lookup key =
      ((traversal.visit table).find? fun entry => f entry.1 = key).map fun entry => g entry.2 := by
  have hfold : traversal.rekey f g table =
      ((traversal.visit table).map fun entry => (f entry.1, g entry.2)).foldl
        (fun (rekeyed : Table κ' ν') entry => rekeyed.emplace entry.1 entry.2) ∅ := by
    rw [List.foldl_map]
    rfl
  rw [hfold, lookup_foldl_emplace, List.find?_map, Option.map_map]
  rfl

variable {traversal f g} [DecidableEq κ] {table : Table κ ν}

theorem Traversal.of_lookup_rekey {key : κ'} {value : ν'}
    (h : (traversal.rekey f g table).lookup key = some value) :
    ∃ source, ∃ content, table.lookup source = some content ∧ f source = key ∧
      g content = value := by
  rw [lookup_rekey, Option.map_eq_some_iff] at h
  obtain ⟨⟨source, content⟩, hfound, hvalue⟩ := h
  have hsource : f source = key := by simpa using List.find?_some hfound
  exact ⟨source, content, traversal.mem_visit.mp (List.mem_of_find?_eq_some hfound), hsource,
    hvalue⟩

theorem Traversal.exists_lookup_rekey {source : κ} {content : ν}
    (h : table.lookup source = some content) :
    ∃ value, (traversal.rekey f g table).lookup (f source) = some value := by
  have hsome : ((traversal.visit table).find? fun entry => f entry.1 = f source).isSome :=
    List.find?_isSome.mpr ⟨(source, content), traversal.mem_visit.mpr h, by simp⟩
  obtain ⟨entry, hentry⟩ := Option.isSome_iff_exists.mp hsome
  exact ⟨g entry.2, by rw [lookup_rekey, hentry]; rfl⟩

-- A key that shares its new key with no other keeps its value.
theorem Traversal.lookup_rekey_of_unique {source : κ} {content : ν}
    (h : table.lookup source = some content)
    (hunique : ∀ other, other ∈ table → f other = f source → other = source) :
    (traversal.rekey f g table).lookup (f source) = some (g content) := by
  obtain ⟨value, hvalue⟩ := traversal.exists_lookup_rekey (f := f) (g := g) h
  obtain ⟨other, content', hother, hkey, rfl⟩ := traversal.of_lookup_rekey hvalue
  obtain rfl := hunique other (AList.lookup_isSome.mp (by rw [hother]; rfl)) hkey
  obtain rfl : content' = content := Option.some.inj (hother.symm.trans h)
  exact hvalue

-- A container that hands out one of the keys before all others.
def Traversal.preferring (key : κ) : Traversal κ ν where
  visit table :=
    (table.pairs.filter fun entry => entry.1 = key) ++
      table.pairs.filter fun entry => !(decide (entry.1 = key))
  visit_perm _ := List.filter_append_perm _ _

theorem Traversal.lookup_rekey_preferring {source : κ} {content : ν}
    (h : table.lookup source = some content) :
    ((preferring source).rekey f g table).lookup (f source) = some (g content) := by
  have hmem : (source, content) ∈ table.pairs.filter fun entry => entry.1 = source := by
    simpa using mem_pairs.mpr h
  have hsome : ((table.pairs.filter fun entry => entry.1 = source).find? fun entry =>
      f entry.1 = f source).isSome := List.find?_isSome.mpr ⟨_, hmem, by simp⟩
  obtain ⟨⟨other, content'⟩, hfound⟩ := Option.isSome_iff_exists.mp hsome
  have hother := List.mem_of_find?_eq_some hfound
  simp only [List.mem_filter, decide_eq_true_eq, mem_pairs] at hother
  obtain ⟨hlookup, rfl⟩ := hother
  obtain rfl : content' = content := Option.some.inj (hlookup.symm.trans h)
  rw [lookup_rekey, preferring, List.find?_append, hfound]
  rfl

section Back

variable {traversal' : Traversal κ' ν'} {f' : κ' → κ} {g' : ν' → ν}

-- Keys that come back from their new keys bring the whole table back.
theorem Traversal.lookup_rekey_back (hkeys : ∀ key, f' (f key) = key)
    (hvalues : ∀ key content, table.lookup key = some content → g' (g content) = content)
    (key : κ) : (traversal'.rekey f' g' (traversal.rekey f g table)).lookup key =
      table.lookup key := by
  have hinjective : ∀ {key other : κ}, f other = f key → other = key := by
    intro key other heq
    rw [← hkeys other, heq, hkeys]
  apply Option.ext
  intro content
  constructor
  · intro h
    obtain ⟨_, _, hmiddle, rfl, rfl⟩ := Traversal.of_lookup_rekey h
    obtain ⟨source, content', hsource, rfl, rfl⟩ := Traversal.of_lookup_rekey hmiddle
    rw [hkeys, hvalues source content' hsource]
    exact hsource
  · intro h
    have hmiddle : (traversal.rekey f g table).lookup (f key) = some (g content) :=
      Traversal.lookup_rekey_of_unique h fun _ _ => hinjective
    have hback : (traversal'.rekey f' g' (traversal.rekey f g table)).lookup (f' (f key)) =
        some (g' (g content)) := by
      refine Traversal.lookup_rekey_of_unique hmiddle fun other hother heq => ?_
      obtain ⟨_, hlookup⟩ := Option.isSome_iff_exists.mp (AList.lookup_isSome.mpr hother)
      obtain ⟨source, _, _, rfl, _⟩ := Traversal.of_lookup_rekey hlookup
      rw [hkeys, hkeys] at heq
      rw [heq]
    rwa [hkeys, hvalues key content h] at hback

end Back

end Rekey

end Table

end Foundation
