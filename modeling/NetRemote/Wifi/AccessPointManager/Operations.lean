import NetRemote.Wifi.AccessPointManager.Theorems

namespace NetRemote.Wifi.AccessPointManager

-- The calls that change the manager. Each changes it in one critical section.
inductive Operation where
  | AddAccessPoint (accessPoint : AccessPoint)
  | RemoveAccessPoint (accessPoint : AccessPoint)
  | OnAccessPointPresenceChanged (presence : AccessPointPresenceEvent)
      (accessPointChanged : AccessPoint)
  deriving DecidableEq, Repr

def perform (manager : AccessPointManager) : Operation → AccessPointManager
  | .AddAccessPoint accessPoint => manager.addAccessPoint accessPoint
  | .RemoveAccessPoint accessPoint => manager.removeAccessPoint accessPoint
  | .OnAccessPointPresenceChanged presence accessPointChanged =>
      manager.onAccessPointPresenceChanged presence accessPointChanged

-- What an operation is about, whether it has an effect or not.
def Operation.change : Operation → Change
  | .AddAccessPoint accessPoint => (.Arrived, accessPoint)
  | .RemoveAccessPoint accessPoint => (.Departed, accessPoint)
  | .OnAccessPointPresenceChanged presence accessPointChanged => (presence, accessPointChanged)

-- The manager with the operations so far that had an effect.
structure History where
  manager : AccessPointManager
  effects : List Change

namespace History

def initial : History := ⟨⟨AccessPointList.empty⟩, []⟩

def perform (history : History) (operation : Operation) : History :=
  let manager := history.manager.perform operation
  if manager.getAllAccessPoints = history.manager.getAllAccessPoints then history
  else ⟨manager, history.effects ++ [operation.change]⟩

def of (operations : List Operation) : History := operations.foldl perform initial

end History

-- The additions that no later operation on the same name undoes, oldest first.
def survivors : List Change → List AccessPoint
  | [] => []
  | (.Arrived, accessPoint) :: rest =>
      if (lastChange rest accessPoint.interfaceName).isNone then accessPoint :: survivors rest
      else survivors rest
  | (.Departed, _) :: rest => survivors rest

section Survivors

theorem survivors_arrived (accessPoint : AccessPoint) (rest : List Change) :
    survivors ((.Arrived, accessPoint) :: rest) =
      if (lastChange rest accessPoint.interfaceName).isNone then accessPoint :: survivors rest
      else survivors rest := rfl

theorem mem_survivors {effects : List Change} {accessPoint : AccessPoint} :
    accessPoint ∈ survivors effects ↔
      lastChange effects accessPoint.interfaceName = some (.Arrived, accessPoint) := by
  induction effects with
  | nil => simp [survivors, lastChange]
  | cons c rest ih =>
      obtain ⟨presence, point⟩ := c
      rw [lastChange_cons]
      cases hrest : lastChange rest accessPoint.interfaceName with
      | some later =>
          rw [hrest] at ih
          rw [Option.some_or, ← ih]
          cases presence with
          | Departed => rfl
          | Arrived =>
              rw [survivors_arrived]
              by_cases hlast : (lastChange rest point.interfaceName).isNone = true
              · rw [if_pos hlast, List.mem_cons, or_iff_right]
                rintro rfl
                rw [hrest] at hlast
                cases hlast
              · rw [if_neg hlast]
      | none =>
          rw [hrest] at ih
          have hnot : accessPoint ∉ survivors rest := by simp [ih]
          rw [Option.none_or]
          cases presence with
          | Departed => simp [survivors, hnot]
          | Arrived =>
              rw [survivors_arrived]
              by_cases hname : point.interfaceName = accessPoint.interfaceName
              · rw [if_pos hname, hname, hrest]
                simp [hnot, eq_comm]
              · have hne : accessPoint ≠ point := by
                  rintro rfl
                  exact hname rfl
                rw [if_neg hname]
                split_ifs <;> simp [hnot, hne]

theorem survivors_concat (effects : List Change) (c : Change) :
    survivors (effects ++ [c]) =
      (survivors effects).filter (fun existing => existing.interfaceName ≠ c.2.interfaceName) ++
        (if c.1 = .Arrived then [c.2] else []) := by
  induction effects with
  | nil =>
      obtain ⟨presence, point⟩ := c
      cases presence <;> simp [survivors, lastChange]
  | cons first rest ih =>
      obtain ⟨presence, point⟩ := first
      cases presence with
      | Departed => exact ih
      | Arrived =>
          rw [List.cons_append, survivors_arrived, survivors_arrived]
          by_cases hname : c.2.interfaceName = point.interfaceName
          · have hlater := lastChange_concat_self rest c
            rw [hname] at hlater
            rw [hlater, if_neg (by simp), ih]
            by_cases hlast : (lastChange rest point.interfaceName).isNone = true
            · rw [if_pos hlast, List.filter_cons_of_neg (by simp [hname])]
            · rw [if_neg hlast]
          · have hkept : point.interfaceName ≠ c.2.interfaceName := fun heq => hname heq.symm
            rw [lastChange_concat_ne rest c _ hname, ih]
            by_cases hlast : (lastChange rest point.interfaceName).isNone = true
            · rw [if_pos hlast, if_pos hlast, List.filter_cons_of_pos (by simpa using hkept),
                List.cons_append]
            · rw [if_neg hlast, if_neg hlast]

end Survivors

section History

theorem perform_eq (manager : AccessPointManager) (operation : Operation) :
    manager.perform operation =
      manager.onAccessPointPresenceChanged operation.change.1 operation.change.2 := by
  cases operation <;> rfl

theorem getAccessPoint_eq_some {manager : AccessPointManager} {interfaceName : String}
    {accessPoint : AccessPoint} :
    manager.getAccessPoint interfaceName = some accessPoint ↔
      accessPoint ∈ manager.getAllAccessPoints ∧ accessPoint.interfaceName = interfaceName := by
  constructor
  · intro hfound
    exact ⟨List.mem_of_find?_eq_some hfound, by simpa using List.find?_some hfound⟩
  · rintro ⟨hmem, rfl⟩
    cases hfound : manager.getAccessPoint accessPoint.interfaceName with
    | none =>
        have hnone := List.find?_eq_none.mp hfound accessPoint hmem
        simp at hnone
    | some other =>
        have hother := List.mem_of_find?_eq_some hfound
        have hname : other.interfaceName = accessPoint.interfaceName := by
          simpa using List.find?_some hfound
        rw [AccessPointList.eq_of_mem hother hmem hname]

theorem addAccessPoint_refused {manager : AccessPointManager} {point : AccessPoint}
    (h : manager.holds point.interfaceName ∨ point.controllable = false) :
    manager.addAccessPoint point = manager := by
  unfold addAccessPoint
  by_cases hcontrollable : point.controllable = true
  · have hheld : point.interfaceName ∈ manager.accessPoints.names :=
      h.resolve_right (by simp [hcontrollable])
    rw [if_pos hcontrollable, dif_pos hheld]
  · rw [if_neg hcontrollable]

theorem points_addAccessPoint {manager : AccessPointManager} {point : AccessPoint}
    (hcontrollable : point.controllable = true)
    (hnew : point.interfaceName ∉ manager.accessPoints.names) :
    (manager.addAccessPoint point).getAllAccessPoints =
      manager.getAllAccessPoints ++ [point] := by
  unfold addAccessPoint
  rw [if_pos hcontrollable, dif_neg hnew]
  rfl

-- The three ways in which an operation changes the manager or leaves it as it was.
theorem points_onAccessPointPresenceChanged (manager : AccessPointManager) (c : Change) :
    let next := manager.onAccessPointPresenceChanged c.1 c.2
    next = manager ∨
      (c.1 = .Arrived ∧ c.2.controllable = true ∧ ¬ manager.holds c.2.interfaceName ∧
        next.getAllAccessPoints = manager.getAllAccessPoints ++ [c.2]) ∨
      (c.1 = .Departed ∧ next.getAllAccessPoints =
        manager.getAllAccessPoints.filter fun existing =>
          existing.interfaceName ≠ c.2.interfaceName) := by
  obtain ⟨presence, point⟩ := c
  cases presence with
  | Departed => exact .inr (.inr ⟨rfl, AccessPointList.points_erase _ _⟩)
  | Arrived =>
      by_cases hrefused : manager.holds point.interfaceName ∨ point.controllable = false
      · exact .inl (addAccessPoint_refused hrefused)
      · obtain ⟨hnew, hcontrollable⟩ := not_or.mp hrefused
        rw [Bool.not_eq_false] at hcontrollable
        exact .inr (.inl ⟨rfl, hcontrollable, hnew, points_addAccessPoint hcontrollable hnew⟩)

structure Recorded (history : History) : Prop where
  survive : history.manager.getAllAccessPoints = survivors history.effects
  controllable : ∀ accessPoint ∈ history.manager.getAllAccessPoints,
    accessPoint.controllable = true

variable {history : History} {operation : Operation}

theorem recorded_initial : Recorded .initial := ⟨rfl, nofun⟩

theorem recorded_perform (h : Recorded history) (operation : Operation) :
    Recorded (history.perform operation) := by
  unfold History.perform
  by_cases hsame : (history.manager.perform operation).getAllAccessPoints =
      history.manager.getAllAccessPoints
  · rw [if_pos hsame]
    exact h
  · rw [if_neg hsame]
    have hperform := perform_eq history.manager operation
    rcases points_onAccessPointPresenceChanged history.manager operation.change with
      hnext | ⟨harrived, hcontrollable, hnew, hpoints⟩ | ⟨hdeparted, hpoints⟩
    · rw [hperform, hnext] at hsame
      exact absurd rfl hsame
    · rw [← hperform] at hpoints
      have hkept : ∀ existing ∈ survivors history.effects,
          existing.interfaceName ≠ operation.change.2.interfaceName := by
        intro existing hexisting hname
        rw [← h.survive] at hexisting
        exact hnew (AccessPointList.mem_names.mpr ⟨existing, hexisting, hname⟩)
      refine ⟨?_, ?_⟩
      · rw [hpoints, survivors_concat, if_pos harrived, h.survive,
          List.filter_eq_self.mpr (by simpa using hkept)]
      · rw [hpoints, List.forall_mem_append, List.forall_mem_singleton]
        exact ⟨h.controllable, hcontrollable⟩
    · rw [← hperform] at hpoints
      refine ⟨?_, ?_⟩
      · rw [hpoints, survivors_concat, if_neg (by simp [hdeparted]), h.survive, List.append_nil]
      · rw [hpoints]
        intro accessPoint hmem
        exact h.controllable accessPoint (List.mem_of_mem_filter hmem)

theorem recorded_of (operations : List Operation) : Recorded (.of operations) := by
  have hrun (history : History) (h : Recorded history) :
      Recorded (operations.foldl History.perform history) := by
    induction operations generalizing history with
    | nil => exact h
    | cons operation rest ih => exact ih _ (recorded_perform h operation)
  exact hrun .initial recorded_initial

-- An addition that finds the name taken, or no controller.
theorem perform_refused {point : AccessPoint} (hchange : operation.change = (.Arrived, point))
    (h : history.manager.holds point.interfaceName ∨ point.controllable = false) :
    history.perform operation = history := by
  have hadd : history.manager.perform operation = history.manager := by
    rw [perform_eq, hchange]
    exact addAccessPoint_refused h
  unfold History.perform
  rw [hadd, if_pos rfl]

end History

-- What holds of the manager after any operations, and of the next operation.
structure Invariant (history : History) : Prop where
  unique : (history.manager.getAllAccessPoints.map AccessPoint.interfaceName).Nodup
  kept : ∀ operation point existing, operation.change = (.Arrived, point) →
    history.manager.getAccessPoint point.interfaceName = some existing →
      history.perform operation = history
  uncontrollable : ∀ operation point, operation.change = (.Arrived, point) →
    point.controllable = false → history.perform operation = history
  controllable : ∀ point ∈ history.manager.getAllAccessPoints, point.controllable = true
  last : ∀ interfaceName point,
    history.manager.getAccessPoint interfaceName = some point ↔
      lastChange history.effects interfaceName = some (.Arrived, point)
  ordered : history.manager.getAllAccessPoints = survivors history.effects

end NetRemote.Wifi.AccessPointManager
