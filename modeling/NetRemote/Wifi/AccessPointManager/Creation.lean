import NetRemote.Wifi.AccessPointManager
import NetRemote.Wpa.ProtocolHostapd

namespace NetRemote.Wifi.Creation

open Foundation.Bytes Foundation.Transition Wpa

-- Two connections are opened one after the other while a controller is created:
-- to find out whether hostapd is there, and to listen to its events.
structure ControlSocket where
  acceptsFirst : Bool
  acceptsSecond : Bool
  deriving DecidableEq, Repr

-- An access point that was found, and the control socket of its interface.
structure Found where
  interfaceName : String
  object : Nat
  socket : ControlSocket
  deriving DecidableEq, Repr

def isManagingInterface (socket : ControlSocket) : Bool := socket.acceptsFirst

-- The constructor of `Hostapd`.
def hostapd (socket : ControlSocket) : Except Fault Unit :=
  if socket.acceptsSecond then .ok ()
  else
    .error (.Hostapd (str "Failed to create hostapd event handler control socket connection"))

-- Whether there is a controller, unless its creation throws.
def createController (socket : ControlSocket) : Except Fault Bool :=
  if !isManagingInterface socket then .ok false
  else (hostapd socket).map fun _ => true

def addAccessPoint (manager : AccessPointManager) (accessPoint : Found) :
    Except Fault AccessPointManager :=
  (createController accessPoint.socket).map fun controllable =>
    manager.addAccessPoint ⟨accessPoint.interfaceName, controllable, accessPoint.object⟩

-- An access point that leaves needs no controller.
def removeAccessPoint (manager : AccessPointManager) (accessPoint : Found) : AccessPointManager :=
  manager.removeAccessPoint ⟨accessPoint.interfaceName, false, accessPoint.object⟩

def onAccessPointPresenceChanged (manager : AccessPointManager)
    (presence : AccessPointPresenceEvent) (accessPointChanged : Found) :
    Except Fault AccessPointManager :=
  match presence with
  | .Arrived => addAccessPoint manager accessPointChanged
  | .Departed => .ok (removeAccessPoint manager accessPointChanged)

-- How far `AddDiscoveryAgent` has come with the access points of its probe.
inductive Insertion where
  | Inserting (remaining : List Found)
  | Threw (fault : Fault)
  deriving DecidableEq, Repr

-- `terminated` says that an exception has left the `noexcept` function
-- `DevicePresenceChanged`.
structure DiscoveryPath where
  manager : AccessPointManager
  insertion : Insertion
  terminated : Bool

inductive Step where
  | Insert
  | DevicePresenceChanged (presence : AccessPointPresenceEvent) (accessPoint : Found)
  deriving DecidableEq, Repr

namespace DiscoveryPath

def initial (manager : AccessPointManager) (existingAccessPoints : List Found) : DiscoveryPath :=
  ⟨manager, .Inserting existingAccessPoints, false⟩

def insert (s : DiscoveryPath) (existingAccessPoint : Found) (remaining : List Found) :
    DiscoveryPath :=
  match addAccessPoint s.manager existingAccessPoint with
  | .ok manager => { s with manager, insertion := .Inserting remaining }
  | .error fault => { s with insertion := .Threw fault }

def devicePresenceChanged (s : DiscoveryPath) (presence : AccessPointPresenceEvent)
    (accessPoint : Found) : DiscoveryPath :=
  match onAccessPointPresenceChanged s.manager presence accessPoint with
  | .ok manager => { s with manager }
  | .error _ => { s with terminated := true }

-- The probe and the events are handled on threads of their own, each access point
-- under the lock of the manager.
def step (s : DiscoveryPath) (action : Step) : Option DiscoveryPath :=
  if s.terminated then none
  else
    match action, s.insertion with
    | .Insert, .Inserting (existingAccessPoint :: remaining) =>
        some (s.insert existingAccessPoint remaining)
    | .Insert, _ => none
    | .DevicePresenceChanged presence accessPoint, _ =>
        some (s.devicePresenceChanged presence accessPoint)

end DiscoveryPath

-- What has been handled after these steps, of the probe and of the events.
def handled : List Found → List Step → List (AccessPointPresenceEvent × Found)
  | _, [] => []
  | existingAccessPoint :: remaining, .Insert :: steps =>
      (.Arrived, existingAccessPoint) :: handled remaining steps
  | [], .Insert :: steps => handled [] steps
  | existingAccessPoints, .DevicePresenceChanged presence accessPoint :: steps =>
      (presence, accessPoint) :: handled existingAccessPoints steps

def controllable (accessPoint : Found) : Bool :=
  accessPoint.socket.acceptsFirst && accessPoint.socket.acceptsSecond

-- An arrival counts where a controller can be created.
def counts (change : AccessPointPresenceEvent × Found) : Bool :=
  change.1 = .Departed || controllable change.2

-- What becomes of a manager if the access points that cannot be controlled had
-- never been.
def replay (manager : AccessPointManager) (changes : List (AccessPointPresenceEvent × Found)) :
    AccessPointManager :=
  (changes.filter counts).foldl (fun manager change =>
    manager.onAccessPointPresenceChanged change.1
      ⟨change.2.interfaceName, true, change.2.object⟩) manager

-- No exception has escaped.
def Contained (s : DiscoveryPath) : Prop :=
  s.terminated = false ∧ ∀ fault, s.insertion ≠ .Threw fault

-- hostapd goes away between the two connections.
def Refuses (socket : ControlSocket) : Prop :=
  socket.acceptsFirst = true ∧ socket.acceptsSecond = false

instance : DecidablePred Refuses := fun _ => instDecidableAnd

-- The access point for which the step creates a controller.
def newcomer (s : DiscoveryPath) : Step → Option Found
  | .Insert =>
      match s.insertion with
      | .Inserting remaining => remaining.head?
      | .Threw _ => none
  | .DevicePresenceChanged presence accessPoint =>
      if presence = .Arrived then some accessPoint else none

def Spares (s : DiscoveryPath) (action : Step) : Prop :=
  ∀ accessPoint ∈ newcomer s action, ¬ Refuses accessPoint.socket

instance (s : DiscoveryPath) : DecidablePred (Spares s) := fun action =>
  inferInstanceAs (Decidable (∀ accessPoint ∈ newcomer s action, ¬ Refuses accessPoint.socket))

section Changes

theorem createController_of_refuses {socket : ControlSocket} (h : Refuses socket) :
    ∃ fault, createController socket = .error fault := by
  rw [createController, isManagingInterface, h.1, hostapd, h.2]
  exact ⟨_, rfl⟩

theorem createController_of_not_refuses {accessPoint : Found} (h : ¬ Refuses accessPoint.socket) :
    createController accessPoint.socket = .ok (controllable accessPoint) := by
  unfold Refuses at h
  unfold createController isManagingInterface hostapd controllable
  cases hfirst : accessPoint.socket.acceptsFirst with
  | false => rfl
  | true =>
      cases hsecond : accessPoint.socket.acceptsSecond with
      | false => exact absurd ⟨hfirst, hsecond⟩ h
      | true => rfl

theorem addAccessPoint_of_refuses (manager : AccessPointManager) {accessPoint : Found}
    (h : Refuses accessPoint.socket) :
    ∃ fault, addAccessPoint manager accessPoint = .error fault := by
  obtain ⟨fault, hfault⟩ := createController_of_refuses h
  exact ⟨fault, by rw [addAccessPoint, hfault]; rfl⟩

-- What is handled without an exception has the effect that it should have.
theorem onAccessPointPresenceChanged_of_spared (manager : AccessPointManager)
    {presence : AccessPointPresenceEvent} {accessPoint : Found}
    (h : presence = .Arrived → ¬ Refuses accessPoint.socket) :
    onAccessPointPresenceChanged manager presence accessPoint =
      .ok (replay manager [(presence, accessPoint)]) := by
  cases presence with
  | Departed => rfl
  | Arrived =>
      have hcontroller := createController_of_not_refuses (h rfl)
      unfold onAccessPointPresenceChanged addAccessPoint
      dsimp only
      rw [hcontroller, Except.map]
      cases hcontrollable : controllable accessPoint with
      | true =>
          simp [replay, counts, hcontrollable, AccessPointManager.onAccessPointPresenceChanged]
      | false => simp [replay, counts, hcontrollable, AccessPointManager.addAccessPoint]

theorem replay_cons (manager : AccessPointManager) (change : AccessPointPresenceEvent × Found)
    (changes : List (AccessPointPresenceEvent × Found)) :
    replay manager (change :: changes) = replay (replay manager [change]) changes := by
  unfold replay
  by_cases hcounts : counts change = true
  · simp [hcounts]
  · simp [hcounts]

end Changes

section Steps

variable {s t : DiscoveryPath} {existingAccessPoints : List Found} {action : Step}

-- One step handles the first access point of the probe that is left, or an event.
theorem step_of_spared (hterminated : s.terminated = false)
    (hinsertion : s.insertion = .Inserting existingAccessPoints) (hspares : Spares s action)
    (h : s.step action = some t) (steps : List Step) :
    ∃ change remaining, t = ⟨replay s.manager [change], .Inserting remaining, false⟩ ∧
      handled existingAccessPoints (action :: steps) = change :: handled remaining steps := by
  unfold DiscoveryPath.step at h
  rw [hterminated, if_neg Bool.false_ne_true] at h
  cases action with
  | Insert =>
      cases existingAccessPoints with
      | nil =>
          rw [hinsertion] at h
          cases h
      | cons existingAccessPoint remaining =>
          rw [hinsertion] at h
          obtain rfl := Option.some.inj h
          have hspared : ¬ Refuses existingAccessPoint.socket :=
            hspares existingAccessPoint (by rw [newcomer, hinsertion]; rfl)
          have hadded : onAccessPointPresenceChanged s.manager .Arrived existingAccessPoint =
              .ok (replay s.manager [(.Arrived, existingAccessPoint)]) :=
            onAccessPointPresenceChanged_of_spared s.manager fun _ => hspared
          rw [onAccessPointPresenceChanged] at hadded
          refine ⟨(.Arrived, existingAccessPoint), remaining, ?_, rfl⟩
          rw [DiscoveryPath.insert, hadded, hterminated]
  | DevicePresenceChanged presence accessPoint =>
      obtain rfl := Option.some.inj h
      have hspared : presence = .Arrived → ¬ Refuses accessPoint.socket :=
        fun harrived => hspares accessPoint (by rw [newcomer, if_pos harrived]; rfl)
      have hchanged := onAccessPointPresenceChanged_of_spared s.manager hspared
      refine ⟨(presence, accessPoint), existingAccessPoints, ?_, ?_⟩
      · rw [DiscoveryPath.devicePresenceChanged, hchanged, hinsertion, hterminated]
      · cases existingAccessPoints <;> rfl

theorem inserting_of_contained (h : Contained s) :
    ∃ existingAccessPoints, s.insertion = .Inserting existingAccessPoints := by
  cases hinsertion : s.insertion with
  | Inserting remaining => exact ⟨remaining, rfl⟩
  | Threw fault => exact absurd hinsertion (h.2 fault)

theorem contained_step (hs : Contained s) (hspares : Spares s action)
    (h : s.step action = some t) : Contained t := by
  obtain ⟨existingAccessPoints, hinsertion⟩ := inserting_of_contained hs
  obtain ⟨change, remaining, rfl, -⟩ := step_of_spared hs.1 hinsertion hspares h []
  exact ⟨rfl, nofun⟩

-- The exception escapes from the loop over the probe, or it ends the process.
theorem not_contained_step (hs : Contained s) (hspares : ¬ Spares s action)
    (h : s.step action = some t) : ¬ Contained t := by
  simp only [Spares, not_forall, not_not] at hspares
  obtain ⟨accessPoint, hnewcomer, hrefuses⟩ := hspares
  obtain ⟨fault, hfault⟩ := addAccessPoint_of_refuses s.manager hrefuses
  unfold DiscoveryPath.step at h
  rw [hs.1, if_neg Bool.false_ne_true] at h
  cases action with
  | Insert =>
      obtain ⟨existingAccessPoints, hinsertion⟩ := inserting_of_contained hs
      rw [newcomer, hinsertion] at hnewcomer
      obtain ⟨remaining, rfl⟩ := List.head?_eq_some_iff.mp hnewcomer
      rw [hinsertion] at h
      obtain rfl := Option.some.inj h
      intro hcontained
      apply hcontained.2 fault
      rw [DiscoveryPath.insert, hfault]
  | DevicePresenceChanged presence accessPoint' =>
      by_cases harrived : presence = .Arrived
      · rw [newcomer, if_pos harrived] at hnewcomer
        obtain rfl := Option.some.inj hnewcomer
        obtain rfl := Option.some.inj h
        intro hcontained
        have hterminated := hcontained.1
        rw [DiscoveryPath.devicePresenceChanged, harrived, onAccessPointPresenceChanged,
          hfault] at hterminated
        cases hterminated
      · rw [newcomer, if_neg harrived] at hnewcomer
        cases hnewcomer

theorem not_contained_stays (hs : ¬ Contained s) (h : s.step action = some t) : ¬ Contained t := by
  unfold DiscoveryPath.step at h
  cases hterminated : s.terminated with
  | true =>
      rw [hterminated] at h
      cases h
  | false =>
      cases hinsertion : s.insertion with
      | Inserting remaining =>
          refine absurd ⟨hterminated, fun fault hthrew => ?_⟩ hs
          rw [hinsertion] at hthrew
          cases hthrew
      | Threw fault =>
          rw [hterminated, hinsertion, if_neg Bool.false_ne_true] at h
          cases action with
          | Insert => cases h
          | DevicePresenceChanged presence accessPoint =>
              obtain rfl := Option.some.inj h
              intro hcontained
              apply hcontained.2 fault
              rw [DiscoveryPath.devicePresenceChanged]
              cases onAccessPointPresenceChanged s.manager presence accessPoint <;> exact hinsertion

-- While no exception escapes, the manager is what the access points that can be
-- controlled make of it.
theorem manager_run {steps : List Step} (hterminated : s.terminated = false)
    (hinsertion : s.insertion = .Inserting existingAccessPoints)
    (hspares : HoldsAlong DiscoveryPath.step Spares s steps)
    (hrun : run DiscoveryPath.step s steps = some t) :
    t.manager = replay s.manager (handled existingAccessPoints steps) := by
  induction steps generalizing s existingAccessPoints with
  | nil =>
      obtain rfl := Option.some.inj hrun
      cases existingAccessPoints <;> rfl
  | cons action steps ih =>
      obtain ⟨next, hstep, hrest⟩ := run_cons hrun
      obtain ⟨change, remaining, rfl, hhandled⟩ :=
        step_of_spared hterminated hinsertion hspares.1 hstep steps
      rw [hhandled, replay_cons]
      exact ih rfl rfl (hspares.2 _ hstep) hrest

end Steps

theorem discovery_contained_iff (manager : AccessPointManager) (existingAccessPoints : List Found)
    (steps : List Step) (t : DiscoveryPath)
    (hrun : run DiscoveryPath.step (.initial manager existingAccessPoints) steps = some t) :
    Contained t ∧ t.manager = replay manager (handled existingAccessPoints steps) ↔
      HoldsAlong DiscoveryPath.step Spares (.initial manager existingAccessPoints) steps := by
  have hinitial : Contained (.initial manager existingAccessPoints) := ⟨rfl, nofun⟩
  have hcontained := safe_iff_holdsAlong (fun _ _ _ => contained_step) (fun _ h => h)
    (fun _ _ _ => not_contained_step) (fun _ _ _ => not_contained_stays) hinitial hrun
  rw [hcontained]
  exact and_iff_left_of_imp fun hspares => manager_run rfl rfl hspares hrun

def reachable (interfaceName : String) : Found := ⟨interfaceName, 0, ⟨true, true⟩⟩
def absent (interfaceName : String) : Found := ⟨interfaceName, 1, ⟨false, false⟩⟩
def vanishing (interfaceName : String) : Found := ⟨interfaceName, 2, ⟨true, false⟩⟩

theorem discovery_contained_absent :
    ∃ t, run DiscoveryPath.step (.initial ⟨.empty⟩ [absent "wlan0", reachable "wlan1"])
        [.Insert, .Insert, .DevicePresenceChanged .Arrived (absent "wlan2")] = some t ∧
      Contained t ∧ t.manager = replay ⟨.empty⟩ (handled [absent "wlan0", reachable "wlan1"]
        [.Insert, .Insert, .DevicePresenceChanged .Arrived (absent "wlan2")]) :=
  ⟨_, rfl, (discovery_contained_iff ⟨.empty⟩ [absent "wlan0", reachable "wlan1"]
    [.Insert, .Insert, .DevicePresenceChanged .Arrived (absent "wlan2")] _ rfl).mpr (by decide)⟩

-- An access point whose daemon goes away keeps the others of the probe from being
-- added, and as an arrival it ends the process.
theorem discovery_escapes_vanishing :
    (∃ t, run DiscoveryPath.step (.initial ⟨.empty⟩ [vanishing "wlan0", reachable "wlan1"])
        [.Insert] = some t ∧ (∃ fault, t.insertion = .Threw fault) ∧
      t.manager.getAllAccessPoints = [] ∧ ¬ Contained t) ∧
    ∃ t, run DiscoveryPath.step (.initial ⟨.empty⟩ [])
        [.DevicePresenceChanged .Arrived (vanishing "wlan0")] = some t ∧
      t.terminated = true ∧ ¬ Contained t :=
  ⟨⟨_, rfl, ⟨_, rfl⟩, rfl, fun hcontained => hcontained.2 _ rfl⟩,
    ⟨_, rfl, rfl, fun hcontained => Bool.noConfusion hcontained.1⟩⟩

end NetRemote.Wifi.Creation
