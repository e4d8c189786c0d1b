import NetRemote.Foundation.Fold
import NetRemote.Wifi.AccessPointManager
import Mathlib.Data.List.Nodup

namespace NetRemote.Wifi

open Foundation.Transition

theorem lastChange_append (first rest : List Change) (interfaceName : String) :
    lastChange (first ++ rest) interfaceName =
      (lastChange rest interfaceName).or (lastChange first interfaceName) := by
  simp [lastChange, List.find?_append]

theorem lastChange_cons (c : Change) (rest : List Change) (interfaceName : String) :
    lastChange (c :: rest) interfaceName =
      (lastChange rest interfaceName).or
        (if c.2.interfaceName = interfaceName then some c else none) := by
  unfold lastChange
  simp only [Foundation.find?_reverse_cons, decide_eq_true_eq]

theorem lastChange_concat_self (changes : List Change) (c : Change) :
    lastChange (changes ++ [c]) c.2.interfaceName = some c := by
  simp [lastChange]

theorem lastChange_concat_ne (changes : List Change) (c : Change) (interfaceName : String)
    (h : c.2.interfaceName ≠ interfaceName) :
    lastChange (changes ++ [c]) interfaceName = lastChange changes interfaceName := by
  simp [lastChange, h]

theorem lastChange_eq_none {changes : List Change} {interfaceName : String}
    (h : ∀ c ∈ changes, c.2.interfaceName ≠ interfaceName) :
    lastChange changes interfaceName = none := by
  simpa [lastChange, List.find?_eq_none] using h

-- A delivered event with no later one for its access point is the last change.
theorem lastChange_of_suffix {changes events : List Change} {c : Change}
    (hsuffix : c :: events <:+ changes)
    (hlast : ∀ e ∈ events, e.2.interfaceName ≠ c.2.interfaceName) :
    lastChange changes c.2.interfaceName = some c := by
  obtain ⟨handled, rfl⟩ := hsuffix
  rw [lastChange_append, lastChange_cons, lastChange_eq_none hlast]
  simp

theorem departed_concat_ne (changes : List Change) (c : Change) (interfaceName : String)
    (h : c.2.interfaceName ≠ interfaceName) :
    departed (changes ++ [c]) interfaceName = departed changes interfaceName := by
  simp [departed, lastChange_concat_ne changes c interfaceName h]

namespace AccessPointList

@[simp] theorem mem_names {list : AccessPointList} {interfaceName : String} :
    interfaceName ∈ list.names ↔ ∃ point ∈ list.points, point.interfaceName = interfaceName :=
  List.mem_map

@[simp] theorem points_pushBack (list : AccessPointList) (accessPoint : AccessPoint)
    (hnew : accessPoint.interfaceName ∉ list.names) :
    (list.pushBack accessPoint hnew).points = list.points ++ [accessPoint] := rfl

theorem eq_of_mem {list : AccessPointList} {point other : AccessPoint}
    (hpoint : point ∈ list.points) (hother : other ∈ list.points)
    (h : point.interfaceName = other.interfaceName) : point = other :=
  List.inj_on_of_nodup_map list.distinct hpoint hother h

-- With distinct names, erasing the first match erases all of them.
private theorem eraseP_distinct (points : List AccessPoint) (interfaceName : String)
    (h : (points.map AccessPoint.interfaceName).Nodup) :
    (points.eraseP fun existing => existing.interfaceName = interfaceName) =
      points.filter fun existing => existing.interfaceName ≠ interfaceName := by
  induction points with
  | nil => rfl
  | cons point rest ih =>
      obtain ⟨hpoint, hrest⟩ := List.nodup_cons.mp h
      by_cases hname : point.interfaceName = interfaceName
      · have hkept : ∀ other ∈ rest, other.interfaceName ≠ interfaceName := by
          intro other hother heq
          exact hpoint (List.mem_map.mpr ⟨other, hother, heq.trans hname.symm⟩)
        rw [List.eraseP_cons_of_pos (by simpa using hname),
          List.filter_cons_of_neg (by simpa using hname)]
        exact (List.filter_eq_self.mpr (by simpa using hkept)).symm
      · rw [List.eraseP_cons_of_neg (by simpa using hname),
          List.filter_cons_of_pos (by simpa using hname), ih hrest]

theorem points_erase (list : AccessPointList) (interfaceName : String) :
    (list.erase interfaceName).points =
      list.points.filter fun existing => existing.interfaceName ≠ interfaceName :=
  eraseP_distinct list.points interfaceName list.distinct

theorem mem_erase {list : AccessPointList} {interfaceName : String} {point : AccessPoint} :
    point ∈ (list.erase interfaceName).points ↔
      point ∈ list.points ∧ point.interfaceName ≠ interfaceName := by
  rw [points_erase]
  simp

end AccessPointList

namespace AccessPointManager

def holds (manager : AccessPointManager) (interfaceName : String) : Prop :=
  interfaceName ∈ manager.accessPoints.names

instance (manager : AccessPointManager) (interfaceName : String) :
    Decidable (manager.holds interfaceName) :=
  inferInstanceAs (Decidable (_ ∈ manager.accessPoints.names))

theorem mem_addAccessPoint {manager : AccessPointManager} {accessPoint point : AccessPoint} :
    point ∈ (manager.addAccessPoint accessPoint).accessPoints.points ↔
      point ∈ manager.accessPoints.points ∨
        point = accessPoint ∧ accessPoint.controllable ∧
          ¬ manager.holds accessPoint.interfaceName := by
  unfold addAccessPoint holds
  split
  · split
    · simp_all
    · simp_all
  · simp_all

theorem holds_addAccessPoint {manager : AccessPointManager} {accessPoint : AccessPoint}
    (hcontrollable : accessPoint.controllable) :
    (manager.addAccessPoint accessPoint).holds accessPoint.interfaceName := by
  by_cases hheld : manager.holds accessPoint.interfaceName
  · obtain ⟨point, hpoint, hname⟩ := AccessPointList.mem_names.mp hheld
    exact AccessPointList.mem_names.mpr ⟨point, mem_addAccessPoint.mpr (.inl hpoint), hname⟩
  · exact AccessPointList.mem_names.mpr
      ⟨accessPoint, mem_addAccessPoint.mpr (.inr ⟨rfl, hcontrollable, hheld⟩), rfl⟩

theorem holds_of_holds {manager : AccessPointManager} {accessPoint : AccessPoint}
    {interfaceName : String} (h : manager.holds interfaceName) :
    (manager.addAccessPoint accessPoint).holds interfaceName := by
  obtain ⟨point, hpoint, hname⟩ := AccessPointList.mem_names.mp h
  exact AccessPointList.mem_names.mpr ⟨point, mem_addAccessPoint.mpr (.inl hpoint), hname⟩

theorem holds_addAccessPoint_ne {manager : AccessPointManager} {accessPoint : AccessPoint}
    {interfaceName : String} (h : accessPoint.interfaceName ≠ interfaceName) :
    (manager.addAccessPoint accessPoint).holds interfaceName ↔ manager.holds interfaceName := by
  constructor
  · intro hheld
    obtain ⟨point, hpoint, hname⟩ := AccessPointList.mem_names.mp hheld
    rcases mem_addAccessPoint.mp hpoint with hpoint | ⟨rfl, -⟩
    · exact AccessPointList.mem_names.mpr ⟨point, hpoint, hname⟩
    · exact absurd hname h
  · exact holds_of_holds

theorem holds_removeAccessPoint {manager : AccessPointManager} {accessPoint : AccessPoint}
    {interfaceName : String} :
    (manager.removeAccessPoint accessPoint).holds interfaceName ↔
      manager.holds interfaceName ∧ accessPoint.interfaceName ≠ interfaceName := by
  unfold holds removeAccessPoint
  simp only [AccessPointList.mem_names, AccessPointList.mem_erase]
  constructor
  · rintro ⟨point, ⟨hpoint, hne⟩, hname⟩
    exact ⟨⟨point, hpoint, hname⟩, fun heq => hne (hname.trans heq.symm)⟩
  · rintro ⟨⟨point, hpoint, hname⟩, hne⟩
    exact ⟨point, ⟨hpoint, fun heq => hne (heq.symm.trans hname)⟩, hname⟩

end AccessPointManager

namespace Discovery

-- No event about the access point is on its way.
def Settled (s : Discovery) (interfaceName : String) : Prop :=
  ∀ c ∈ s.events, c.2.interfaceName ≠ interfaceName

-- What ties the agent's queue and the snapshot to the access points present.
structure Tracked (s : Discovery) : Prop where
  reported : s.events <:+ s.changes
  unstarted : s.started = false → s.events = [] ∧ s.progress = .Called
  latest : ∀ point ∈ s.present.points, ∀ c,
    lastChange s.changes point.interfaceName = some c → c = (.Arrived, point)
  covered : ∀ remaining, s.progress = .Inserting remaining → ∀ point ∈ s.present.points,
    point.controllable → s.manager.holds point.interfaceName ∨
      ¬ s.Settled point.interfaceName ∨ point ∈ remaining

-- A held access point whose last change is a departure has the event that
-- removes it on its way.
def Clean (s : Discovery) : Prop :=
  ∀ point ∈ s.manager.accessPoints.points, departed s.changes point.interfaceName →
    ¬ s.Settled point.interfaceName

instance (s : Discovery) (interfaceName : String) : Decidable (s.Settled interfaceName) :=
  inferInstanceAs (Decidable (∀ c ∈ s.events, _))

-- The insertion of a snapshot entry whose departure was already handled, and
-- the two ways in which the departure of a held access point goes unheard:
-- the agent does not run yet, or no callback is registered yet.
def outdated (s : Discovery) : Action → Bool
  | .Insert =>
      match s.progress with
      | .Inserting (accessPoint :: _) => accessPoint.controllable &&
          departed s.changes accessPoint.interfaceName && s.Settled accessPoint.interfaceName
      | _ => false
  | .Depart accessPoint => !s.started && s.manager.holds accessPoint.interfaceName
  | .Deliver =>
      match s.events with
      | (.Departed, accessPoint) :: rest =>
          s.progress = .Called && s.manager.holds accessPoint.interfaceName &&
            rest.all fun e => e.2.interfaceName ≠ accessPoint.interfaceName
      | _ => false
  | _ => false

theorem settled_cons {c : Change} {rest : List Change} {s : Discovery} {interfaceName : String}
    (hevents : s.events = c :: rest) :
    s.Settled interfaceName ↔
      c.2.interfaceName ≠ interfaceName ∧ ∀ e ∈ rest, e.2.interfaceName ≠ interfaceName := by
  unfold Settled
  rw [hevents]
  exact List.forall_mem_cons

theorem tracked_initial (present : AccessPointList) (started : Bool)
    (manager : AccessPointManager) : Tracked (initial present started manager) where
  reported := List.suffix_refl _
  unstarted _ := ⟨rfl, rfl⟩
  latest point _ c h := by simp [initial, lastChange] at h
  covered remaining h := by simp [initial] at h

theorem clean_initial (present : AccessPointList) (started : Bool)
    (manager : AccessPointManager) : Clean (initial present started manager) := by
  intro point _ h
  simp [initial, departed, lastChange] at h

theorem settled_change {s : Discovery} {present : AccessPointList} {c : Change}
    {interfaceName : String} :
    (s.change present c).Settled interfaceName ↔
      s.Settled interfaceName ∧ (s.started → c.2.interfaceName ≠ interfaceName) := by
  unfold Settled change
  by_cases hstarted : s.started = true
  · simp only [hstarted, if_true, List.forall_mem_append, List.forall_mem_singleton,
      forall_const]
  · simp [hstarted]

theorem reported_change {s : Discovery} {present : AccessPointList} {c : Change}
    (h : Tracked s) : (s.change present c).events <:+ (s.change present c).changes := by
  unfold change
  dsimp only
  split
  · obtain ⟨handled, hhandled⟩ := h.reported
    exact ⟨handled, by rw [← hhandled, List.append_assoc]⟩
  · rename_i hstarted
    rw [(h.unstarted (by simpa using hstarted)).1]
    exact List.nil_suffix

theorem unstarted_change {s : Discovery} {present : AccessPointList} {c : Change}
    (h : Tracked s) (hstarted : (s.change present c).started = false) :
    (s.change present c).events = [] ∧ (s.change present c).progress = .Called := by
  have hstarted' : s.started = false := hstarted
  simpa [change, hstarted'] using h.unstarted hstarted'

theorem tracked_arrive {s : Discovery} {accessPoint : AccessPoint} (h : Tracked s)
    (hnew : accessPoint.interfaceName ∉ s.present.names) :
    Tracked (s.change (s.present.pushBack accessPoint hnew) (.Arrived, accessPoint)) where
  reported := reported_change h
  unstarted := unstarted_change h
  latest := by
    intro point hpoint c hc
    rcases List.mem_append.mp hpoint with hold | hadded
    · have hne : accessPoint.interfaceName ≠ point.interfaceName := fun heq =>
        hnew (AccessPointList.mem_names.mpr ⟨point, hold, heq.symm⟩)
      exact h.latest point hold c ((lastChange_concat_ne s.changes _ _ hne).symm.trans hc)
    · obtain rfl := List.mem_singleton.mp hadded
      exact Option.some.inj (hc.symm.trans (lastChange_concat_self s.changes (.Arrived, point)))
  covered := by
    intro remaining hprogress point hpoint hcontrollable
    rcases List.mem_append.mp hpoint with hold | hadded
    · refine (h.covered remaining hprogress point hold hcontrollable).imp_right ?_
      exact Or.imp_left fun hunsettled hsettled => hunsettled (settled_change.mp hsettled).1
    · obtain rfl := List.mem_singleton.mp hadded
      have hstarted : s.started = true := by
        by_contra hno
        have hcalled := (h.unstarted (by simpa using hno)).2
        exact Progress.noConfusion (hcalled.symm.trans hprogress)
      exact .inr (.inl fun hsettled => (settled_change.mp hsettled).2 hstarted rfl)

theorem tracked_depart {s : Discovery} {accessPoint : AccessPoint} (h : Tracked s) :
    Tracked (s.change (s.present.erase accessPoint.interfaceName) (.Departed, accessPoint)) where
  reported := reported_change h
  unstarted := unstarted_change h
  latest := by
    intro point hpoint c hc
    obtain ⟨hold, hname⟩ := AccessPointList.mem_erase.mp hpoint
    exact h.latest point hold c ((lastChange_concat_ne s.changes _ _ hname.symm).symm.trans hc)
  covered := by
    intro remaining hprogress point hpoint hcontrollable
    obtain ⟨hold, -⟩ := AccessPointList.mem_erase.mp hpoint
    refine (h.covered remaining hprogress point hold hcontrollable).imp_right ?_
    exact Or.imp_left fun hunsettled hsettled => hunsettled (settled_change.mp hsettled).1

-- The last event about an access point that is still present is its arrival.
theorem eq_arrived_of_last {s : Discovery} {c : Change} {rest : List Change} {point : AccessPoint}
    (h : Tracked s) (hevents : s.events = c :: rest) (hpoint : point ∈ s.present.points)
    (hname : c.2.interfaceName = point.interfaceName)
    (hlast : ∀ e ∈ rest, e.2.interfaceName ≠ point.interfaceName) : c = (.Arrived, point) := by
  apply h.latest point hpoint c
  rw [← hname] at hlast ⊢
  exact lastChange_of_suffix (hevents ▸ h.reported) hlast

theorem tracked_deliver {s : Discovery} {c : Change} {rest : List Change} (h : Tracked s)
    (hevents : s.events = c :: rest) : Tracked (s.deliver c rest) where
  reported := (List.suffix_cons c rest).trans (hevents ▸ h.reported)
  unstarted hstarted := by
    have hempty := (h.unstarted hstarted).1
    rw [hevents] at hempty
    cases hempty
  latest := h.latest
  covered := by
    intro remaining hprogress point hpoint hcontrollable
    have hprogress' : s.progress = .Inserting remaining := hprogress
    by_cases hlast : ∀ e ∈ rest, e.2.interfaceName ≠ point.interfaceName
    · by_cases hname : c.2.interfaceName = point.interfaceName
      · obtain rfl := eq_arrived_of_last h hevents hpoint hname hlast
        left
        simp only [deliver, hprogress', reduceCtorEq, if_false]
        exact AccessPointManager.holds_addAccessPoint hcontrollable
      · rcases h.covered remaining hprogress' point hpoint hcontrollable with
          hheld | hunsettled | hremaining
        · left
          simp only [deliver, hprogress', reduceCtorEq, if_false]
          unfold AccessPointManager.onAccessPointPresenceChanged
          split
          · exact AccessPointManager.holds_of_holds hheld
          · exact AccessPointManager.holds_removeAccessPoint.mpr ⟨hheld, hname⟩
        · exact absurd ((settled_cons hevents).mpr ⟨hname, hlast⟩) hunsettled
        · exact .inr (.inr hremaining)
    · exact .inr (.inl hlast)

theorem tracked_insert {s : Discovery} {accessPoint : AccessPoint} {remaining : List AccessPoint}
    (h : Tracked s) (hprogress : s.progress = .Inserting (accessPoint :: remaining)) :
    Tracked { s with
      progress := .Inserting remaining
      manager := s.manager.addAccessPoint accessPoint } where
  reported := h.reported
  unstarted hstarted := by
    have hcalled := (h.unstarted hstarted).2
    rw [hprogress] at hcalled
    cases hcalled
  latest := h.latest
  covered := by
    intro left hleft point hpoint hcontrollable
    obtain rfl : remaining = left := by simpa using hleft
    rcases h.covered _ hprogress point hpoint hcontrollable with hheld | hunsettled | hmem
    · exact .inl (AccessPointManager.holds_of_holds hheld)
    · exact .inr (.inl hunsettled)
    · rcases List.mem_cons.mp hmem with rfl | hmem
      · exact .inl (AccessPointManager.holds_addAccessPoint hcontrollable)
      · exact .inr (.inr hmem)

-- What a step did, with the guard under which it was taken.
inductive Stepped (s : Discovery) : Action → Discovery → Prop
  | Arrive {accessPoint : AccessPoint} (hnew : accessPoint.interfaceName ∉ s.present.names) :
      Stepped s (.Arrive accessPoint)
        (s.change (s.present.pushBack accessPoint hnew) (.Arrived, accessPoint))
  | Depart {accessPoint : AccessPoint} (hpresent : accessPoint ∈ s.present.points) :
      Stepped s (.Depart accessPoint)
        (s.change (s.present.erase accessPoint.interfaceName) (.Departed, accessPoint))
  | Deliver {c : Change} {rest : List Change} (hevents : s.events = c :: rest) :
      Stepped s .Deliver (s.deliver c rest)
  | Register (hprogress : s.progress = .Called) :
      Stepped s .Register { s with progress := .Registered, started := true }
  | Probe {snapshot : List AccessPoint} (hprogress : s.progress = .Registered)
      (hsnapshot : snapshot.Perm s.present.points) :
      Stepped s (.Probe snapshot) { s with progress := .Inserting snapshot }
  | Insert {accessPoint : AccessPoint} {remaining : List AccessPoint}
      (hprogress : s.progress = .Inserting (accessPoint :: remaining)) :
      Stepped s .Insert { s with
        progress := .Inserting remaining
        manager := s.manager.addAccessPoint accessPoint }

theorem step_stepped {s : Discovery} {action : Action} {t : Discovery}
    (hstep : s.step action = some t) : Stepped s action t := by
  cases action with
  | Arrive accessPoint =>
      simp only [step, Option.dite_none_left_eq_some] at hstep
      obtain ⟨hnew, ht⟩ := hstep
      cases ht
      exact .Arrive hnew
  | Depart accessPoint =>
      obtain ⟨hpresent, ht⟩ := Option.ite_none_right_eq_some.mp hstep
      cases ht
      exact .Depart hpresent
  | Deliver =>
      simp only [step] at hstep
      split at hstep
      · cases hstep
      · rename_i c rest hevents
        cases hstep
        exact .Deliver hevents
  | Register =>
      simp only [step] at hstep
      split at hstep
      · rename_i hprogress
        cases hstep
        exact .Register hprogress
      · cases hstep
  | Probe snapshot =>
      simp only [step] at hstep
      split at hstep
      · rename_i hprogress
        obtain ⟨hsnapshot, ht⟩ := Option.ite_none_right_eq_some.mp hstep
        cases ht
        exact .Probe hprogress hsnapshot
      · cases hstep
  | Insert =>
      simp only [step] at hstep
      split at hstep
      · rename_i accessPoint remaining hprogress
        cases hstep
        exact .Insert hprogress
      · cases hstep

theorem tracked_probe {s : Discovery} {snapshot : List AccessPoint} (h : Tracked s)
    (hprogress : s.progress = .Registered) (hsnapshot : snapshot.Perm s.present.points) :
    Tracked { s with progress := .Inserting snapshot } where
  reported := h.reported
  unstarted hstarted := by
    have hcalled := (h.unstarted hstarted).2
    rw [hprogress] at hcalled
    cases hcalled
  latest := h.latest
  covered := by
    intro remaining hremaining point hpoint _
    obtain rfl : snapshot = remaining := by simpa using hremaining
    exact .inr (.inr (hsnapshot.mem_iff.mpr hpoint))

theorem tracked_step (s : Discovery) (action : Action) (t : Discovery) (h : Tracked s)
    (hstep : s.step action = some t) : Tracked t := by
  cases step_stepped hstep with
  | Arrive hnew => exact tracked_arrive h hnew
  | Depart hpresent => exact tracked_depart h
  | Deliver hevents => exact tracked_deliver h hevents
  | Register hprogress => exact ⟨h.reported, by simp, h.latest, by simp⟩
  | Probe hprogress hsnapshot => exact tracked_probe h hprogress hsnapshot
  | Insert hprogress => exact tracked_insert h hprogress

theorem holds_of_mem {s : Discovery} {point : AccessPoint}
    (h : point ∈ s.manager.accessPoints.points) : s.manager.holds point.interfaceName :=
  AccessPointList.mem_names.mpr ⟨point, h, rfl⟩

theorem departed_concat_self (changes : List Change) (c : Change) :
    departed (changes ++ [c]) c.2.interfaceName = true ↔ c.1 = .Departed := by
  unfold departed
  rw [lastChange_concat_self]
  rcases c with ⟨presence, point⟩
  cases presence <;> simp

theorem clean_arrive {s : Discovery} {present : AccessPointList} {accessPoint : AccessPoint}
    (h : Clean s) : Clean (s.change present (.Arrived, accessPoint)) := by
  intro point hpoint hdeparted hsettled
  have hdeparted' : departed (s.changes ++ [(.Arrived, accessPoint)]) point.interfaceName :=
    hdeparted
  by_cases hname : accessPoint.interfaceName = point.interfaceName
  · rw [← hname] at hdeparted'
    have harrived := (departed_concat_self s.changes (.Arrived, accessPoint)).mp hdeparted'
    cases harrived
  · rw [departed_concat_ne s.changes _ _ hname] at hdeparted'
    exact h point hpoint hdeparted' (settled_change.mp hsettled).1

theorem clean_depart {s : Discovery} {present : AccessPointList} {accessPoint : AccessPoint}
    (h : Clean s) (hheard : ¬ outdated s (.Depart accessPoint)) :
    Clean (s.change present (.Departed, accessPoint)) := by
  intro point hpoint hdeparted hsettled
  have hdeparted' : departed (s.changes ++ [(.Departed, accessPoint)]) point.interfaceName :=
    hdeparted
  obtain ⟨hbefore, hreported⟩ := settled_change.mp hsettled
  by_cases hname : accessPoint.interfaceName = point.interfaceName
  · have hunstarted : s.started = false := by
      by_contra hstarted
      exact hreported (by simpa using hstarted) hname
    apply hheard
    simp only [outdated, hunstarted, Bool.not_false, Bool.true_and, decide_eq_true_eq]
    exact hname ▸ holds_of_mem hpoint
  · rw [departed_concat_ne s.changes _ _ hname] at hdeparted'
    exact h point hpoint hdeparted' hbefore

-- An event about another access point neither adds nor removes this one.
theorem mem_of_deliver_ne {s : Discovery} {c : Change} {rest : List Change} {point : AccessPoint}
    (hpoint : point ∈ (s.deliver c rest).manager.accessPoints.points)
    (hname : c.2.interfaceName ≠ point.interfaceName) :
    point ∈ s.manager.accessPoints.points := by
  rcases c with ⟨presence, changed⟩
  unfold deliver at hpoint
  dsimp only at hpoint
  split at hpoint
  · exact hpoint
  · cases presence with
    | Arrived =>
        rcases AccessPointManager.mem_addAccessPoint.mp hpoint with hold | ⟨rfl, -⟩
        · exact hold
        · exact absurd rfl hname
    | Departed => exact (AccessPointList.mem_erase.mp hpoint).1

theorem clean_deliver {s : Discovery} {c : Change} {rest : List Change} (htracked : Tracked s)
    (h : Clean s) (hevents : s.events = c :: rest) (hheard : ¬ outdated s .Deliver) :
    Clean (s.deliver c rest) := by
  intro point hpoint hdeparted hlast
  by_cases hname : c.2.interfaceName = point.interfaceName
  · have hc : lastChange s.changes c.2.interfaceName = some c :=
      lastChange_of_suffix (hevents ▸ htracked.reported) (hname ▸ hlast)
    rcases c with ⟨presence, changed⟩
    have hdeparted' : departed s.changes point.interfaceName := hdeparted
    rw [← hname, departed, hc] at hdeparted'
    cases presence with
    | Arrived => simp at hdeparted'
    | Departed =>
        by_cases hcalled : s.progress = .Called
        · simp only [deliver, hcalled, if_true] at hpoint
          apply hheard
          simp only [outdated, hevents, Bool.and_eq_true, decide_eq_true_eq, List.all_eq_true]
          exact ⟨⟨hcalled, hname ▸ holds_of_mem hpoint⟩, hname ▸ hlast⟩
        · simp only [deliver, hcalled, if_false] at hpoint
          exact (AccessPointList.mem_erase.mp hpoint).2 hname.symm
  · exact h point (mem_of_deliver_ne hpoint hname) hdeparted
      ((settled_cons hevents).mpr ⟨hname, hlast⟩)

theorem clean_insert {s : Discovery} {accessPoint : AccessPoint} {remaining : List AccessPoint}
    (h : Clean s) (hprogress : s.progress = .Inserting (accessPoint :: remaining))
    (hheard : ¬ outdated s .Insert) :
    Clean { s with
      progress := .Inserting remaining
      manager := s.manager.addAccessPoint accessPoint } := by
  intro point hpoint hdeparted hsettled
  rcases AccessPointManager.mem_addAccessPoint.mp hpoint with hold | ⟨rfl, hcontrollable, -⟩
  · exact h point hold hdeparted hsettled
  · apply hheard
    simp only [outdated, hprogress, Bool.and_eq_true, decide_eq_true_eq]
    exact ⟨⟨hcontrollable, hdeparted⟩, hsettled⟩

theorem clean_step (s : Discovery) (action : Action) (t : Discovery) (htracked : Tracked s)
    (h : Clean s) (hheard : ¬ outdated s action) (hstep : s.step action = some t) : Clean t := by
  cases step_stepped hstep with
  | Arrive hnew => exact clean_arrive h
  | Depart hpresent => exact clean_depart h hheard
  | Deliver hevents => exact clean_deliver htracked h hevents hheard
  | Register hprogress => exact h
  | Probe hprogress hsnapshot => exact h
  | Insert hprogress => exact clean_insert h hprogress hheard

-- What the interleaving is for: the manager follows the access points present.
structure Follows (s : Discovery) : Prop where
  noDeparted : ∀ point ∈ s.manager.accessPoints.points,
    departed s.changes point.interfaceName = false
  allPresent : ∀ point ∈ s.present.points, point.controllable →
    s.manager.holds point.interfaceName

theorem follows_of_done {s : Discovery} (htracked : Tracked s) (hclean : Clean s)
    (hdone : s.allStepsDone) : Follows s where
  noDeparted := by
    intro point hpoint
    by_contra hdeparted
    refine hclean point hpoint (by simpa using hdeparted) fun c hc => ?_
    rw [hdone.2] at hc
    cases hc
  allPresent := by
    intro point hpoint hcontrollable
    rcases htracked.covered [] hdone.1 point hpoint hcontrollable with hheld | hunsettled | hmem
    · exact hheld
    · refine absurd (fun c hc => ?_) hunsettled
      rw [hdone.2] at hc
      cases hc
    · cases hmem

-- Whatever the manager held before and whichever access points were present,
-- a run without an outdated step ends with the manager following them.
theorem addDiscoveryAgent_follows (present : AccessPointList) (started : Bool)
    (manager : AccessPointManager) (actions : List Action) (s : Discovery)
    (hrun : run step (initial present started manager) actions = some s)
    (hheard : HoldsAlong step (fun s action => ¬ outdated s action)
      (initial present started manager) actions)
    (hdone : s.allStepsDone) : Follows s := by
  have hkeep : ∀ s action t, Tracked s ∧ Clean s → ¬ outdated s action →
      step s action = some t → Tracked t ∧ Clean t := fun s action t h hok hstep =>
    ⟨tracked_step s action t h.1 hstep, clean_step s action t h.1 h.2 hok hstep⟩
  obtain ⟨htracked, hclean⟩ := invariant_run hkeep
    ⟨tracked_initial present started manager, clean_initial present started manager⟩ hheard hrun
  exact follows_of_done htracked hclean hdone

def wlan0 : AccessPoint := ⟨"wlan0", true, 0⟩

def wlan1 : AccessPoint := ⟨"wlan1", true, 1⟩

def onlyWlan0 : AccessPointList := ⟨[wlan0], List.nodup_singleton _⟩

-- `wlan1` arrives while the snapshot, which holds only `wlan0`, is inserted.
theorem addDiscoveryAgent_follows_arrival :
    ∃ s, run step (initial onlyWlan0 false ⟨AccessPointList.empty⟩)
      [.Register, .Probe [wlan0], .Arrive wlan1, .Deliver, .Insert] = some s ∧ Follows s := by
  refine ⟨_, rfl, addDiscoveryAgent_follows onlyWlan0 false ⟨AccessPointList.empty⟩
    [.Register, .Probe [wlan0], .Arrive wlan1, .Deliver, .Insert] _ rfl ?_ ⟨rfl, rfl⟩⟩
  decide

-- `wlan0` departs after the snapshot and its event is handled before the insertion.
theorem addDiscoveryAgent_keeps_departed :
    ¬ ∀ (present : AccessPointList) (started : Bool) (manager : AccessPointManager)
      (actions : List Action) (s : Discovery),
      run step (initial present started manager) actions = some s → s.allStepsDone →
        Follows s := by
  intro h
  have hfollows := h onlyWlan0 false ⟨AccessPointList.empty⟩
    [.Register, .Probe [wlan0], .Depart wlan0, .Deliver, .Insert] _ rfl ⟨rfl, rfl⟩
  exact absurd (hfollows.noDeparted wlan0 (by decide)) (by decide)

end Discovery

end NetRemote.Wifi
