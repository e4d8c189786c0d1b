import Mathlib.Data.List.Sort
import NetRemote.Wifi.AccessPointControllerLinux

namespace NetRemote.Wifi

open Foundation Netlink

theorem Ieee80211PhyType.ctorIdx_injective {phyType other : Ieee80211PhyType}
    (h : phyType.ctorIdx = other.ctorIdx) : phyType = other := by
  cases phyType <;> cases other <;> first | rfl | cases h

-- Enumerators compare by their position.
def StrictlyIncreasing (phyTypes : List Ieee80211PhyType) : Prop :=
  phyTypes.Pairwise fun phyType other => phyType.ctorIdx < other.ctorIdx

-- A strictly increasing list has no choice but the one that its elements give it.
theorem StrictlyIncreasing.eq_of_mem_iff {phyTypes others : List Ieee80211PhyType}
    (h : StrictlyIncreasing phyTypes) (hothers : StrictlyIncreasing others)
    (hmem : ∀ phyType, phyType ∈ phyTypes ↔ phyType ∈ others) : phyTypes = others := by
  have hirrefl : Std.Irrefl fun phyType other : Ieee80211PhyType =>
      phyType.ctorIdx < other.ctorIdx := ⟨fun phyType => Nat.lt_irrefl _⟩
  have hasymm : Std.Antisymm fun phyType other : Ieee80211PhyType =>
      phyType.ctorIdx < other.ctorIdx := ⟨fun _ _ hlt hgt => absurd hgt (Nat.lt_asymm hlt)⟩
  exact List.Pairwise.eq_of_mem_iff h hothers hmem

namespace nl80211WiphyToIeee80211PhyTypes

section Unique

variable {phyTypes : List Ieee80211PhyType}

theorem mem_unique (phyType : Ieee80211PhyType) :
    phyType ∈ unique phyTypes ↔ phyType ∈ phyTypes := by
  fun_induction unique phyTypes with
  | case1 => rfl
  | case2 => rfl
  | case3 first rest ih => rw [ih]; simp
  | case4 first next rest hne ih => rw [List.mem_cons, ih, ← List.mem_cons]

-- Equal elements of a sorted list stand in one run.
theorem unique_strictlyIncreasing
    (h : phyTypes.Pairwise fun phyType other => phyType.ctorIdx ≤ other.ctorIdx) :
    StrictlyIncreasing (unique phyTypes) := by
  fun_induction unique phyTypes with
  | case1 => exact .nil
  | case2 phyType => exact List.pairwise_singleton _ _
  | case3 first rest ih => exact ih h.of_cons
  | case4 first next rest hne ih =>
      refine List.pairwise_cons.mpr ⟨?_, ih h.of_cons⟩
      intro phyType hmem
      have hnext : first.ctorIdx ≤ next.ctorIdx := List.rel_of_pairwise_cons h (.head _)
      have hlt : first.ctorIdx < next.ctorIdx :=
        Nat.lt_of_le_of_ne hnext fun heq => hne (Ieee80211PhyType.ctorIdx_injective heq)
      rcases List.mem_cons.mp ((mem_unique phyType).mp hmem) with rfl | hrest
      · exact hlt
      · exact Nat.lt_of_lt_of_le hlt (List.rel_of_pairwise_cons h.of_cons hrest)

end Unique

section Sorted

variable (phyTypes : List Ieee80211PhyType)

def sorted : List Ieee80211PhyType :=
  unique (phyTypes.mergeSort fun one other => one.ctorIdx ≤ other.ctorIdx)

theorem mem_sorted (phyType : Ieee80211PhyType) :
    phyType ∈ sorted phyTypes ↔ phyType ∈ phyTypes := by
  rw [sorted, mem_unique, List.mem_mergeSort]

theorem sorted_strictlyIncreasing : StrictlyIncreasing (sorted phyTypes) := by
  have hsorted : (phyTypes.mergeSort fun one other => one.ctorIdx ≤ other.ctorIdx).Pairwise
      fun one other => decide (one.ctorIdx ≤ other.ctorIdx) = true := by
    apply List.pairwise_mergeSort
    case trans =>
      intro one other another hone hother
      exact decide_eq_true (Nat.le_trans (of_decide_eq_true hone) (of_decide_eq_true hother))
    case total =>
      intro one other
      simpa using Nat.le_total one.ctorIdx other.ctorIdx
  exact unique_strictlyIncreasing (hsorted.imp of_decide_eq_true)

end Sorted

section Bands

variable (bands : List (Nl80211Band × Nl80211WiphyBand))

def pushed : List Ieee80211PhyType :=
  [.B, .G] ++ bands.flatMap fun entry =>
    (if entry.2.htCapabilities ≠ 0 then [.N] else []) ++
      (if entry.2.vhtCapabilities ≠ 0 then [.AC] else [])

theorem mem_pushed (phyType : Ieee80211PhyType) :
    phyType ∈ pushed bands ↔
      phyType ∈ [Ieee80211PhyType.B, .G] ∨
        (phyType = .N ∧ ∃ entry ∈ bands, entry.2.htCapabilities ≠ 0) ∨
        (phyType = .AC ∧ ∃ entry ∈ bands, entry.2.vhtCapabilities ≠ 0) := by
  rw [pushed, List.mem_append, List.mem_flatMap]
  apply or_congr_right
  constructor
  · rintro ⟨entry, hentry, hmem⟩
    rcases List.mem_append.mp hmem with hht | hvht
    · obtain ⟨hne, hN⟩ := List.mem_ite_nil_right.mp hht
      exact .inl ⟨List.mem_singleton.mp hN, entry, hentry, hne⟩
    · obtain ⟨hne, hAC⟩ := List.mem_ite_nil_right.mp hvht
      exact .inr ⟨List.mem_singleton.mp hAC, entry, hentry, hne⟩
  · rintro (⟨rfl, entry, hentry, hne⟩ | ⟨rfl, entry, hentry, hne⟩)
    · exact ⟨entry, hentry, List.mem_append_left _ (by simp [hne])⟩
    · exact ⟨entry, hentry, List.mem_append_right _ (by simp [hne])⟩

end Bands

end nl80211WiphyToIeee80211PhyTypes

section Canonical

variable (platform : Platform) (nl80211Wiphy : Nl80211Wiphy)

def HasBand (bandHas : Nl80211WiphyBand → Prop) : Prop :=
  ∃ nl80211Band band, nl80211Wiphy.bands.lookup nl80211Band = some band ∧ bandHas band

theorem exists_visited_iff (bandHas : Nl80211WiphyBand → Prop) :
    (∃ entry ∈ platform.bands.visit nl80211Wiphy.bands, bandHas entry.2) ↔
      HasBand nl80211Wiphy bandHas := by
  constructor
  · rintro ⟨⟨nl80211Band, band⟩, hentry, hband⟩
    exact ⟨nl80211Band, band, platform.bands.mem_visit.mp hentry, hband⟩
  · rintro ⟨nl80211Band, band, hlookup, hband⟩
    exact ⟨⟨nl80211Band, band⟩, platform.bands.mem_visit.mpr hlookup, hband⟩

theorem mem_nl80211WiphyToIeee80211PhyTypes (phyType : Ieee80211PhyType) :
    phyType ∈ nl80211WiphyToIeee80211PhyTypes platform nl80211Wiphy ↔
      phyType ∈ [Ieee80211PhyType.B, .G] ∨
        (phyType = .N ∧ HasBand nl80211Wiphy fun band => band.htCapabilities ≠ 0) ∨
        (phyType = .AC ∧ HasBand nl80211Wiphy fun band => band.vhtCapabilities ≠ 0) := by
  have hmem := nl80211WiphyToIeee80211PhyTypes.mem_pushed
    (platform.bands.visit nl80211Wiphy.bands) phyType
  rw [exists_visited_iff platform nl80211Wiphy fun band => band.htCapabilities ≠ 0,
    exists_visited_iff platform nl80211Wiphy fun band => band.vhtCapabilities ≠ 0] at hmem
  exact (nl80211WiphyToIeee80211PhyTypes.mem_sorted _ _).trans hmem

theorem nl80211WiphyToIeee80211PhyTypes_strictlyIncreasing :
    StrictlyIncreasing (nl80211WiphyToIeee80211PhyTypes platform nl80211Wiphy) :=
  nl80211WiphyToIeee80211PhyTypes.sorted_strictlyIncreasing _

theorem nl80211WiphyToIeee80211PhyTypes_platform (other : Platform) :
    nl80211WiphyToIeee80211PhyTypes platform nl80211Wiphy =
      nl80211WiphyToIeee80211PhyTypes other nl80211Wiphy := by
  apply (nl80211WiphyToIeee80211PhyTypes_strictlyIncreasing platform nl80211Wiphy).eq_of_mem_iff
    (nl80211WiphyToIeee80211PhyTypes_strictlyIncreasing other nl80211Wiphy)
  intro phyType
  rw [mem_nl80211WiphyToIeee80211PhyTypes, mem_nl80211WiphyToIeee80211PhyTypes]

-- The bands come in the platform's order, which leaves no trace in the result.
theorem nl80211WiphyToIeee80211PhyTypes_canonical :
    StrictlyIncreasing (nl80211WiphyToIeee80211PhyTypes platform nl80211Wiphy) ∧
      .B ∈ nl80211WiphyToIeee80211PhyTypes platform nl80211Wiphy ∧
      .G ∈ nl80211WiphyToIeee80211PhyTypes platform nl80211Wiphy ∧
      (.N ∈ nl80211WiphyToIeee80211PhyTypes platform nl80211Wiphy ↔
        HasBand nl80211Wiphy fun band => band.htCapabilities ≠ 0) ∧
      (.AC ∈ nl80211WiphyToIeee80211PhyTypes platform nl80211Wiphy ↔
        HasBand nl80211Wiphy fun band => band.vhtCapabilities ≠ 0) ∧
      (∀ phyType ∈ nl80211WiphyToIeee80211PhyTypes platform nl80211Wiphy,
        phyType ∈ [Ieee80211PhyType.B, .G, .N, .AC]) ∧
      ∀ other : Platform, nl80211WiphyToIeee80211PhyTypes platform nl80211Wiphy =
        nl80211WiphyToIeee80211PhyTypes other nl80211Wiphy := by
  refine ⟨nl80211WiphyToIeee80211PhyTypes_strictlyIncreasing _ _, ?_, ?_, ?_, ?_, ?_,
    nl80211WiphyToIeee80211PhyTypes_platform platform nl80211Wiphy⟩
  · rw [mem_nl80211WiphyToIeee80211PhyTypes]
    simp
  · rw [mem_nl80211WiphyToIeee80211PhyTypes]
    simp
  · rw [mem_nl80211WiphyToIeee80211PhyTypes]
    simp
  · rw [mem_nl80211WiphyToIeee80211PhyTypes]
    simp
  · intro phyType hmem
    rcases (mem_nl80211WiphyToIeee80211PhyTypes _ _ _).mp hmem with hmem | ⟨rfl, -⟩ | ⟨rfl, -⟩
    · exact List.mem_append_left [Ieee80211PhyType.N, .AC] hmem
    · decide
    · decide

end Canonical

end NetRemote.Wifi
