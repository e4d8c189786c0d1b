import NetRemote.Foundation.Transition

namespace NetRemote.Wifi

inductive AccessPointPresenceEvent where
  | Arrived
  | Departed
  deriving DecidableEq, Repr

-- `controllable` says whether `CreateController` returns a controller, and `object`
-- tells apart access points with the same name.
structure AccessPoint where
  interfaceName : String
  controllable : Bool
  object : Nat
  deriving DecidableEq, Repr

-- The manager tells access points apart by their interface names alone.
structure AccessPointList where
  points : List AccessPoint
  distinct : (points.map AccessPoint.interfaceName).Nodup

namespace AccessPointList

def empty : AccessPointList := ⟨[], List.nodup_nil⟩

def names (list : AccessPointList) : List String := list.points.map AccessPoint.interfaceName

def pushBack (list : AccessPointList) (accessPoint : AccessPoint)
    (hnew : accessPoint.interfaceName ∉ list.names) : AccessPointList where
  points := list.points ++ [accessPoint]
  distinct := by
    rw [List.map_append, List.map_singleton]
    refine List.nodup_append.mpr ⟨list.distinct, by simp, ?_⟩
    intro name hname other hother heq
    obtain rfl := List.mem_singleton.mp hother
    exact hnew (heq ▸ hname)

def erase (list : AccessPointList) (interfaceName : String) : AccessPointList where
  points := list.points.eraseP fun existing => existing.interfaceName = interfaceName
  distinct := list.distinct.sublist (List.eraseP_sublist.map _)

end AccessPointList

structure AccessPointManager where
  accessPoints : AccessPointList

namespace AccessPointManager

def addAccessPoint (manager : AccessPointManager) (accessPoint : AccessPoint) :
    AccessPointManager :=
  if accessPoint.controllable then
    if hexists : accessPoint.interfaceName ∈ manager.accessPoints.names then
      manager
    else
      ⟨manager.accessPoints.pushBack accessPoint hexists⟩
  else
    manager

def removeAccessPoint (manager : AccessPointManager) (accessPoint : AccessPoint) :
    AccessPointManager :=
  ⟨manager.accessPoints.erase accessPoint.interfaceName⟩

def getAccessPoint (manager : AccessPointManager) (interfaceName : String) :
    Option AccessPoint :=
  manager.accessPoints.points.find? fun existing => existing.interfaceName = interfaceName

def getAllAccessPoints (manager : AccessPointManager) : List AccessPoint :=
  manager.accessPoints.points

def onAccessPointPresenceChanged (manager : AccessPointManager)
    (presence : AccessPointPresenceEvent) (accessPointChanged : AccessPoint) :
    AccessPointManager :=
  match presence with
  | .Arrived => manager.addAccessPoint accessPointChanged
  | .Departed => manager.removeAccessPoint accessPointChanged

end AccessPointManager

abbrev Change := AccessPointPresenceEvent × AccessPoint

-- How far the thread in `AddDiscoveryAgent` has come.
inductive Progress where
  | Called
  | Registered
  | Inserting (remaining : List AccessPoint)
  deriving DecidableEq, Repr

-- `changes` is everything that happened to the access points since the call,
-- `events` what the agent has still to deliver of it.
structure Discovery where
  present : AccessPointList
  changes : List Change
  events : List Change
  started : Bool
  progress : Progress
  manager : AccessPointManager

inductive Action where
  | Arrive (accessPoint : AccessPoint)
  | Depart (accessPoint : AccessPoint)
  | Deliver
  | Register
  | Probe (snapshot : List AccessPoint)
  | Insert
  deriving DecidableEq, Repr

namespace Discovery

def initial (present : AccessPointList) (started : Bool) (manager : AccessPointManager) :
    Discovery where
  present := present
  changes := []
  events := []
  started := started
  progress := .Called
  manager := manager

-- A change is reported once the agent runs.
def change (s : Discovery) (present : AccessPointList) (c : Change) : Discovery :=
  { s with
    present := present
    changes := s.changes ++ [c]
    events := if s.started then s.events ++ [c] else s.events }

-- The agent drops an event for which no callback is registered.
def deliver (s : Discovery) (c : Change) (rest : List Change) : Discovery :=
  { s with
    events := rest
    manager :=
      if s.progress = .Called then s.manager
      else s.manager.onAccessPointPresenceChanged c.1 c.2 }

-- `AddDiscoveryAgent` registers the callback, starts the agent, takes the
-- snapshot and inserts it point by point; each insertion holds the manager's
-- lock, as does each delivered event.
def step (s : Discovery) : Action → Option Discovery
  | .Arrive accessPoint =>
      if hnew : accessPoint.interfaceName ∈ s.present.names then none
      else some (s.change (s.present.pushBack accessPoint hnew) (.Arrived, accessPoint))
  | .Depart accessPoint =>
      if accessPoint ∈ s.present.points then
        some (s.change (s.present.erase accessPoint.interfaceName) (.Departed, accessPoint))
      else none
  | .Deliver =>
      match s.events with
      | [] => none
      | c :: rest => some (s.deliver c rest)
  | .Register =>
      match s.progress with
      | .Called => some { s with progress := .Registered, started := true }
      | _ => none
  | .Probe snapshot =>
      match s.progress with
      | .Registered =>
          if snapshot.Perm s.present.points then some { s with progress := .Inserting snapshot }
          else none
      | _ => none
  | .Insert =>
      match s.progress with
      | .Inserting (accessPoint :: remaining) =>
          some { s with
            progress := .Inserting remaining
            manager := s.manager.addAccessPoint accessPoint }
      | _ => none

def allStepsDone (s : Discovery) : Prop := s.progress = .Inserting [] ∧ s.events = []

end Discovery

def lastChange (changes : List Change) (interfaceName : String) : Option Change :=
  changes.reverse.find? fun c => c.2.interfaceName = interfaceName

def departed (changes : List Change) (interfaceName : String) : Bool :=
  match lastChange changes interfaceName with
  | some (.Departed, _) => true
  | _ => false

end NetRemote.Wifi
