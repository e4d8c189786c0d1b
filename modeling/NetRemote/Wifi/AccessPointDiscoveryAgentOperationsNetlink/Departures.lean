import NetRemote.Foundation.Fold
import NetRemote.Wifi.AccessPointDiscoveryAgentOperationsNetlink
import NetRemote.Wifi.AccessPointManager.Theorems

namespace NetRemote.Wifi.AccessPointDiscoveryAgentOperationsNetlink

open Foundation Netlink

-- A message with what is found out while it is handled.
abbrev Handled := NetlinkMessage × Answers

def processNetlinkMessages (manager : AccessPointManager) (messages : List Handled) :
    AccessPointManager :=
  messages.foldl (fun manager message => (processNetlinkMessage manager message.1 message.2).2)
    manager

structure WellFormed (message : NetlinkMessage) : Prop where
  header : message.headerValid = true
  attributes : message.attributesValid = true
  command : message.cmd = NL80211_CMD_NEW_INTERFACE ∨ message.cmd = NL80211_CMD_DEL_INTERFACE
  parsed : message.nl80211Interface.isSome = true

def about (interfaceName : String) (message : Handled) : Bool :=
  message.1.nl80211Interface.any fun nl80211Interface => nl80211Interface.name = interfaceName

def lastIsDeparture (messages : List Handled) (interfaceName : String) : Bool :=
  (messages.reverse.find? (about interfaceName)).any fun message =>
    message.1.cmd = NL80211_CMD_DEL_INTERFACE

-- The last message about an interface that is held finds a wiphy that supports an
-- access point, where that message is a departure.
def Heard (manager : AccessPointManager) : List Handled → Prop
  | [] => True
  | message :: rest =>
      (message.1.cmd = NL80211_CMD_DEL_INTERFACE →
        ∀ nl80211Interface ∈ message.1.nl80211Interface, manager.holds nl80211Interface.name →
          (∀ later ∈ rest, about nl80211Interface.name later = false) →
            nl80211Interface.supportsAccessPointMode message.2.fromIndex = true) ∧
        Heard (processNetlinkMessage manager message.1 message.2).2 rest

section Message

variable {manager : AccessPointManager} {message : Handled} {nl80211Interface : Nl80211Interface}
  (hformed : WellFormed message.1)
  (hparsed : message.1.nl80211Interface = some nl80211Interface)

include hformed hparsed

theorem process_supported
    (h : nl80211Interface.supportsAccessPointMode message.2.fromIndex = true) :
    (processNetlinkMessage manager message.1 message.2).2 =
      manager.onAccessPointPresenceChanged
        (if message.1.cmd = NL80211_CMD_NEW_INTERFACE then .Arrived else .Departed)
        (makeAccessPoint nl80211Interface message.2) := by
  unfold processNetlinkMessage
  rw [hformed.header, hformed.attributes, if_pos hformed.command, hparsed]
  simp [h]

theorem process_unsupported
    (h : nl80211Interface.supportsAccessPointMode message.2.fromIndex = false) :
    (processNetlinkMessage manager message.1 message.2).2 = manager := by
  unfold processNetlinkMessage
  rw [hformed.header, hformed.attributes, if_pos hformed.command, hparsed]
  simp [h]

theorem holds_departed (hcommand : message.1.cmd = NL80211_CMD_DEL_INTERFACE)
    (h : nl80211Interface.supportsAccessPointMode message.2.fromIndex = true) :
    ¬ (processNetlinkMessage manager message.1 message.2).2.holds nl80211Interface.name := by
  have hnew : message.1.cmd ≠ NL80211_CMD_NEW_INTERFACE := by
    rw [hcommand]
    decide
  rw [process_supported hformed hparsed h, if_neg hnew]
  intro hheld
  exact (AccessPointManager.holds_removeAccessPoint.mp hheld).2 rfl

end Message

-- A message touches no access point but that of its interface.
theorem holds_process {manager : AccessPointManager} {message : Handled}
    (hformed : WellFormed message.1) {interfaceName : String}
    (h : about interfaceName message = false) :
    (processNetlinkMessage manager message.1 message.2).2.holds interfaceName ↔
      manager.holds interfaceName := by
  obtain ⟨nl80211Interface, hparsed⟩ := Option.isSome_iff_exists.mp hformed.parsed
  have hname : (makeAccessPoint nl80211Interface message.2).interfaceName ≠ interfaceName := by
    have hne : nl80211Interface.name ≠ interfaceName := by simpa [about, hparsed] using h
    exact hne
  cases hsupports : nl80211Interface.supportsAccessPointMode message.2.fromIndex with
  | false => rw [process_unsupported hformed hparsed hsupports]
  | true =>
      rw [process_supported hformed hparsed hsupports]
      split_ifs
      · exact AccessPointManager.holds_addAccessPoint_ne hname
      · exact AccessPointManager.holds_removeAccessPoint.trans (and_iff_left hname)

section Messages

variable {manager : AccessPointManager} {messages : List Handled}

theorem holds_processNetlinkMessages {interfaceName : String}
    (hformed : ∀ message ∈ messages, WellFormed message.1)
    (h : ∀ message ∈ messages, about interfaceName message = false) :
    (processNetlinkMessages manager messages).holds interfaceName ↔
      manager.holds interfaceName := by
  have hkept := foldl_unwritten
    (fun manager message => (processNetlinkMessage manager message.1 message.2).2)
    (fun manager => manager.holds interfaceName) messages manager
    fun manager message hmessage =>
      propext (holds_process (hformed message hmessage) (h message hmessage))
  exact iff_of_eq hkept

theorem lastIsDeparture_cons (message : Handled) (rest : List Handled) (interfaceName : String) :
    lastIsDeparture (message :: rest) interfaceName = true ↔
      lastIsDeparture rest interfaceName = true ∨
        (∀ later ∈ rest, about interfaceName later = false) ∧
          about interfaceName message = true ∧ message.1.cmd = NL80211_CMD_DEL_INTERFACE := by
  have hnone : (∀ later ∈ rest, about interfaceName later = false) ↔
      rest.reverse.find? (about interfaceName) = none := by
    simp [List.find?_eq_none]
  unfold lastIsDeparture
  rw [find?_reverse_cons, hnone]
  cases hrest : rest.reverse.find? (about interfaceName) with
  | some later => simp
  | none => by_cases habout : about interfaceName message = true <;> simp [habout]

-- What the departures that are heard leave behind.
theorem noneDeparted_iff (hformed : ∀ message ∈ messages, WellFormed message.1) :
    (∀ interfaceName, (processNetlinkMessages manager messages).holds interfaceName →
      lastIsDeparture messages interfaceName = false) ↔ Heard manager messages := by
  induction messages generalizing manager with
  | nil => exact ⟨fun _ => trivial, fun _ _ _ => rfl⟩
  | cons message rest ih =>
      obtain ⟨hfirst, hrest⟩ := List.forall_mem_cons.mp hformed
      have hrun : processNetlinkMessages manager (message :: rest) =
          processNetlinkMessages (processNetlinkMessage manager message.1 message.2).2 rest := rfl
      rw [hrun, Heard, ← ih hrest]
      constructor
      · intro h
        refine ⟨fun hcommand nl80211Interface hparsed hheld hlast => ?_, fun name hname => ?_⟩
        · by_contra hunsupported
          have hsame : (processNetlinkMessage manager message.1 message.2).2 = manager :=
            process_unsupported hfirst hparsed (by simpa using hunsupported)
          rw [hsame] at h
          have habout : about nl80211Interface.name message = true := by
            unfold about
            rw [hparsed]
            simp
          have hdeparted := (lastIsDeparture_cons message rest nl80211Interface.name).mpr
            (.inr ⟨hlast, habout, hcommand⟩)
          rw [h _ ((holds_processNetlinkMessages hrest hlast).mpr hheld)] at hdeparted
          cases hdeparted
        · have hkept := h name hname
          by_contra hdeparted
          have hdeparted' := (lastIsDeparture_cons message rest name).mpr
            (.inl (by simpa using hdeparted))
          rw [hkept] at hdeparted'
          cases hdeparted'
      · rintro ⟨hheard, h⟩ name hname
        by_contra hdeparted
        rcases (lastIsDeparture_cons message rest name).mp (by simpa using hdeparted) with
          hlater | ⟨hlast, habout, hcommand⟩
        · rw [h name hname] at hlater
          cases hlater
        · obtain ⟨nl80211Interface, hparsed⟩ := Option.isSome_iff_exists.mp hfirst.parsed
          obtain rfl : nl80211Interface.name = name := by simpa [about, hparsed] using habout
          rw [holds_processNetlinkMessages hrest hlast] at hname
          cases hsupports : nl80211Interface.supportsAccessPointMode message.2.fromIndex with
          | true => exact holds_departed hfirst hparsed hcommand hsupports hname
          | false =>
              rw [process_unsupported hfirst hparsed hsupports] at hname
              rw [hheard hcommand nl80211Interface hparsed hname hlast] at hsupports
              cases hsupports

-- No access point is held whose last message was its departure.
theorem departures_heard_iff (manager : AccessPointManager) (messages : List Handled)
    (hformed : ∀ message ∈ messages, WellFormed message.1) :
    (∀ accessPoint ∈ (processNetlinkMessages manager messages).getAllAccessPoints,
      lastIsDeparture messages accessPoint.interfaceName = false) ↔ Heard manager messages := by
  rw [← noneDeparted_iff hformed]
  constructor
  · intro h interfaceName hheld
    obtain ⟨accessPoint, hmem, rfl⟩ := AccessPointList.mem_names.mp hheld
    exact h accessPoint hmem
  · intro h accessPoint hmem
    exact h accessPoint.interfaceName (AccessPointList.mem_names.mpr ⟨accessPoint, hmem, rfl⟩)

end Messages

def wlan0Message (cmd : UInt8) : NetlinkMessage := ⟨true, true, cmd, some ⟨"wlan0", 0⟩⟩

def apWiphy : Nl80211Wiphy := ⟨[NL80211_IFTYPE_AP], [], [], ∅, []⟩

-- The interface comes and goes, with what the kernel answers when it is gone.
def comesAndGoes (fromIndex : UInt32 → Option Nl80211Wiphy) : List Handled :=
  [(wlan0Message NL80211_CMD_NEW_INTERFACE, ⟨fun _ => some apWiphy, 0, true⟩),
    (wlan0Message NL80211_CMD_DEL_INTERFACE, ⟨fromIndex, 1, true⟩)]

theorem wellFormed_comesAndGoes (fromIndex : UInt32 → Option Nl80211Wiphy) :
    ∀ message ∈ comesAndGoes fromIndex, WellFormed message.1 := by
  intro message hmessage
  rcases List.mem_cons.mp hmessage with rfl | hmessage
  · exact ⟨rfl, rfl, .inl rfl, rfl⟩
  · obtain rfl := List.mem_singleton.mp hmessage
    exact ⟨rfl, rfl, .inr rfl, rfl⟩

-- The wiphy of the interface outlives it.
theorem departures_heard_wlan0 :
    (∀ message ∈ comesAndGoes fun _ => some apWiphy, WellFormed message.1) ∧
      ∀ accessPoint ∈ (processNetlinkMessages ⟨.empty⟩
        (comesAndGoes fun _ => some apWiphy)).getAllAccessPoints,
        lastIsDeparture (comesAndGoes fun _ => some apWiphy) accessPoint.interfaceName =
          false := by
  have hformed := wellFormed_comesAndGoes fun _ => some apWiphy
  refine ⟨hformed, (departures_heard_iff ⟨.empty⟩ _ hformed).mpr ?_⟩
  refine ⟨fun hcommand => absurd hcommand (by decide), fun _ => ?_, trivial⟩
  rintro _ ⟨⟩ _ _
  rfl

-- The wiphy is gone with the interface.
theorem departures_lost_wlan0 :
    (∀ message ∈ comesAndGoes fun _ => none, WellFormed message.1) ∧
      ∃ accessPoint ∈ (processNetlinkMessages ⟨.empty⟩
        (comesAndGoes fun _ => none)).getAllAccessPoints,
        lastIsDeparture (comesAndGoes fun _ => none) accessPoint.interfaceName = true :=
  ⟨wellFormed_comesAndGoes _, ⟨"wlan0", true, 0⟩, by decide, by decide⟩

end NetRemote.Wifi.AccessPointDiscoveryAgentOperationsNetlink
