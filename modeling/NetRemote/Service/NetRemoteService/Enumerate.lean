import NetRemote.Service.NetRemoteService.Items
import NetRemote.Service.ToDot11Adapters
import NetRemote.Wifi.AccessPointAttributes

namespace NetRemote.Service.Enumerate

open Foundation Foundation.Bytes Api Wifi Wpa

structure Dot11AccessPointCapabilities where
  securityProtocols : List Dot11SecurityProtocol := []
  phyTypes : List Dot11PhyType := []
  frequencyBands : List Dot11FrequencyBand := []
  cipherSuites : List Dot11CipherSuite := []
  akmSuites : List Dot11AkmSuite := []
  deriving DecidableEq, Repr

structure Dot11AccessPointAttributes where
  properties : Table ByteString ByteString := ∅

structure WifiAccessPointsEnumerateResultItem where
  accessPointId : ByteString := []
  macAddress : ByteString := []
  isEnabled : Bool := false
  capabilities : Option Dot11AccessPointCapabilities := none
  attributes : Option Dot11AccessPointAttributes := none

structure WifiAccessPointsEnumerateResult where
  status : WifiAccessPointOperationStatus
  accessPoints : List WifiAccessPointsEnumerateResultItem

def toDot11AccessPointCapabilities
    (ieee80211AccessPointCapabilities : Ieee80211AccessPointCapabilities) :
    Dot11AccessPointCapabilities where
  securityProtocols :=
    ieee80211AccessPointCapabilities.securityProtocols.map toDot11SecurityProtocol
  phyTypes := ieee80211AccessPointCapabilities.phyTypes.map toDot11PhyType
  frequencyBands := ieee80211AccessPointCapabilities.frequencyBands.map toDot11FrequencyBand
  cipherSuites := ieee80211AccessPointCapabilities.cipherSuites.map toDot11CipherSuite
  akmSuites := ieee80211AccessPointCapabilities.akmSuites.map toDot11AkmSuite

def toDot11AccessPointAttributes (accessPointAttributes : AccessPointAttributes) :
    Dot11AccessPointAttributes :=
  ⟨accessPointAttributes.properties⟩

-- A controller is given by its answers: each query is made once.
structure AccessPoint where
  interfaceName : ByteString
  macAddress : Ieee80211MacAddress
  attributes : AccessPointAttributes := {}
  createController : Except Fault (Option ((query : Controller.Request) → Controller.Reply query))

def AccessPointIdInvalid : ByteString := str "invalid"

def makeInvalidAccessPointResultItem : WifiAccessPointsEnumerateResultItem where
  accessPointId := AccessPointIdInvalid

-- The item by the answers to the two queries. What a query does not assign is left as it
-- was initialized.
def resultItemOf (accessPoint : AccessPoint)
    (operationalState : AccessPointOperationStatus × Option AccessPointOperationalState)
    (ieee80211AccessPointCapabilities :
      AccessPointOperationStatus × Option Ieee80211AccessPointCapabilities) :
    WifiAccessPointsEnumerateResultItem :=
  if !operationalState.1.succeeded then makeInvalidAccessPointResultItem
  else if !ieee80211AccessPointCapabilities.1.succeeded then makeInvalidAccessPointResultItem
  else {
    accessPointId := accessPoint.interfaceName
    macAddress := ieee80211MacAddressToString accessPoint.macAddress
    isEnabled := operationalState.2.getD .Disabled = .Enabled
    capabilities := toDot11AccessPointCapabilities (ieee80211AccessPointCapabilities.2.getD {})
    attributes := toDot11AccessPointAttributes accessPoint.attributes }

def accessPointToNetRemoteAccessPointResultItem (accessPoint : AccessPoint) :
    Except Fault WifiAccessPointsEnumerateResultItem :=
  accessPoint.createController.map fun accessPointController =>
    accessPointController.elim makeInvalidAccessPointResultItem fun accessPointController =>
      resultItemOf accessPoint (accessPointController .GetOperationalState)
        (accessPointController .GetCapabilities)

-- What the manager hands out are weak references, and an access point can be gone.
def accessPointWeakToNetRemoteAccessPointResultItem (accessPointWeak : Option AccessPoint) :
    Except Fault WifiAccessPointsEnumerateResultItem :=
  match accessPointWeak with
  | some accessPoint => accessPointToNetRemoteAccessPointResultItem accessPoint
  | none => .ok makeInvalidAccessPointResultItem

def netRemoteAccessPointResultItemIsInvalid (item : WifiAccessPointsEnumerateResultItem) : Bool :=
  item.accessPointId = AccessPointIdInvalid

-- The items that are marked as invalid are removed from the list.
def wifiAccessPointsEnumerate (accessPoints : List (Option AccessPoint)) :
    Except Fault WifiAccessPointsEnumerateResult := do
  let accessPointResultItems ← accessPoints.mapM accessPointWeakToNetRemoteAccessPointResultItem
  .ok {
    status := { code := .Succeeded }
    accessPoints := accessPointResultItems.filter fun item =>
      !netRemoteAccessPointResultItemIsInvalid item }

-- The name of an access point that is alive and whose controller answers both queries.
def usableName (accessPointWeak : Option AccessPoint) : Option ByteString :=
  accessPointWeak.bind fun accessPoint =>
    match accessPoint.createController with
    | .ok (some accessPointController) =>
        if (accessPointController .GetOperationalState).1.succeeded &&
            (accessPointController .GetCapabilities).1.succeeded then
          some accessPoint.interfaceName
        else none
    | _ => none

-- The call returns one item for each usable access point, under its name and in order.
def ReportsUsable (accessPoints : List (Option AccessPoint))
    (outcome : Except Fault WifiAccessPointsEnumerateResult) : Prop :=
  ∃ result, outcome = .ok result ∧
    result.accessPoints.map (·.accessPointId) = accessPoints.filterMap usableName

-- The attempt to create a controller does not throw.
def Quiet (accessPointWeak : Option AccessPoint) : Prop :=
  ∀ accessPoint ∈ accessPointWeak, ∀ fault, accessPoint.createController ≠ .error fault

section Items

theorem accessPointId_resultItemOf (accessPoint : AccessPoint)
    (operationalState : AccessPointOperationStatus × Option AccessPointOperationalState)
    (capabilities : AccessPointOperationStatus × Option Ieee80211AccessPointCapabilities) :
    (resultItemOf accessPoint operationalState capabilities).accessPointId =
      if operationalState.1.succeeded && capabilities.1.succeeded then accessPoint.interfaceName
      else AccessPointIdInvalid := by
  unfold resultItemOf
  cases operationalState.1.succeeded <;> cases capabilities.1.succeeded <;> rfl

-- The item of an access point that is not usable goes under the other name.
theorem item_of_quiet {accessPointWeak : Option AccessPoint} (h : Quiet accessPointWeak) :
    ∃ item, accessPointWeakToNetRemoteAccessPointResultItem accessPointWeak = .ok item ∧
      item.accessPointId = (usableName accessPointWeak).getD AccessPointIdInvalid := by
  cases accessPointWeak with
  | none => exact ⟨makeInvalidAccessPointResultItem, rfl, rfl⟩
  | some accessPoint =>
      simp only [accessPointWeakToNetRemoteAccessPointResultItem,
        accessPointToNetRemoteAccessPointResultItem, usableName, Option.bind_some]
      cases hcontroller : accessPoint.createController with
      | error fault => exact absurd hcontroller (h accessPoint rfl fault)
      | ok created =>
          cases created with
          | none => exact ⟨makeInvalidAccessPointResultItem, rfl, rfl⟩
          | some accessPointController =>
              refine ⟨_, rfl, (accessPointId_resultItemOf accessPoint _ _).trans ?_⟩
              dsimp only
              split_ifs <;> rfl

theorem quiet_of_item {accessPointWeak : Option AccessPoint}
    {item : WifiAccessPointsEnumerateResultItem}
    (h : accessPointWeakToNetRemoteAccessPointResultItem accessPointWeak = .ok item) :
    Quiet accessPointWeak := by
  rintro accessPoint rfl fault hthrows
  simp only [accessPointWeakToNetRemoteAccessPointResultItem,
    accessPointToNetRemoteAccessPointResultItem, hthrows] at h
  cases h

end Items

section Lists

variable {accessPoints : List (Option AccessPoint)}

theorem mapM_of_quiet (h : ∀ accessPointWeak ∈ accessPoints, Quiet accessPointWeak) :
    ∃ items, accessPoints.mapM accessPointWeakToNetRemoteAccessPointResultItem = .ok items ∧
      items.map (·.accessPointId) =
        accessPoints.map fun accessPointWeak =>
          (usableName accessPointWeak).getD AccessPointIdInvalid := by
  induction accessPoints with
  | nil => exact ⟨[], rfl, rfl⟩
  | cons accessPointWeak accessPoints ih =>
      rw [List.forall_mem_cons] at h
      obtain ⟨item, hitem, hname⟩ := item_of_quiet h.1
      obtain ⟨items, hitems, hnames⟩ := ih h.2
      refine ⟨item :: items, ?_, ?_⟩
      · rw [List.mapM_cons, hitem, hitems]
        rfl
      · rw [List.map_cons, List.map_cons, hname, hnames]

theorem quiet_of_mapM {items : List WifiAccessPointsEnumerateResultItem}
    (h : accessPoints.mapM accessPointWeakToNetRemoteAccessPointResultItem = .ok items) :
    ∀ accessPointWeak ∈ accessPoints, Quiet accessPointWeak := by
  induction accessPoints generalizing items with
  | nil => simp
  | cons accessPointWeak accessPoints ih =>
      rw [List.mapM_cons] at h
      cases hitem : accessPointWeakToNetRemoteAccessPointResultItem accessPointWeak with
      | error fault =>
          rw [hitem] at h
          cases h
      | ok item =>
          cases hrest : accessPoints.mapM accessPointWeakToNetRemoteAccessPointResultItem with
          | error fault =>
              rw [hitem, hrest] at h
              cases h
          | ok rest => exact List.forall_mem_cons.mpr ⟨quiet_of_item hitem, ih hrest⟩

-- What is removed by its name takes the usable access points of that name along.
theorem filter_names (accessPoints : List (Option AccessPoint)) :
    ((accessPoints.map fun accessPointWeak =>
        (usableName accessPointWeak).getD AccessPointIdInvalid).filter
          fun name => !(name = AccessPointIdInvalid : Bool)) =
      (accessPoints.filterMap usableName).filter
        fun name => !(name = AccessPointIdInvalid : Bool) := by
  induction accessPoints with
  | nil => rfl
  | cons accessPointWeak accessPoints ih =>
      cases hname : usableName accessPointWeak with
      | none =>
          rw [List.filterMap_cons_none hname, ← ih, List.map_cons, hname, Option.getD_none,
            List.filter_cons_of_neg (by simp)]
      | some name =>
          rw [List.filterMap_cons_some hname, List.map_cons, hname, Option.getD_some,
            List.filter_cons, List.filter_cons, ih]

end Lists

theorem wifiAccessPointsEnumerate_of_quiet {accessPoints : List (Option AccessPoint)}
    (h : ∀ accessPointWeak ∈ accessPoints, Quiet accessPointWeak) :
    ∃ result, wifiAccessPointsEnumerate accessPoints = .ok result ∧
      result.accessPoints.map (·.accessPointId) =
        (accessPoints.filterMap usableName).filter
          fun name => !(name = AccessPointIdInvalid : Bool) := by
  obtain ⟨items, hitems, hnames⟩ := mapM_of_quiet h
  refine ⟨_, by rw [wifiAccessPointsEnumerate, hitems]; rfl, ?_⟩
  rw [← filter_names, ← hnames, List.filter_map]
  rfl

-- The mark of an item that is removed is a name that an interface can have.
theorem wifiAccessPointsEnumerate_reportsUsable_iff (accessPoints : List (Option AccessPoint)) :
    ReportsUsable accessPoints (wifiAccessPointsEnumerate accessPoints) ↔
      (∀ accessPointWeak ∈ accessPoints, Quiet accessPointWeak) ∧
        AccessPointIdInvalid ∉ accessPoints.filterMap usableName := by
  constructor
  · rintro ⟨result, hresult, hnames⟩
    have hquiet : ∀ accessPointWeak ∈ accessPoints, Quiet accessPointWeak := by
      cases hitems : accessPoints.mapM accessPointWeakToNetRemoteAccessPointResultItem with
      | error fault =>
          rw [wifiAccessPointsEnumerate, hitems] at hresult
          cases hresult
      | ok items => exact quiet_of_mapM hitems
    obtain ⟨result', hresult', hnames'⟩ := wifiAccessPointsEnumerate_of_quiet hquiet
    obtain rfl := Except.ok.inj (hresult.symm.trans hresult')
    refine ⟨hquiet, fun hmem => ?_⟩
    have hkept := List.filter_eq_self.mp (hnames'.symm.trans hnames) _ hmem
    simp at hkept
  · rintro ⟨hquiet, hinvalid⟩
    obtain ⟨result, hresult, hnames⟩ := wifiAccessPointsEnumerate_of_quiet hquiet
    refine ⟨result, hresult, hnames.trans (List.filter_eq_self.mpr fun name hmem => ?_)⟩
    have hne : name ≠ AccessPointIdInvalid := fun heq => hinvalid (heq ▸ hmem)
    simpa using hne

-- An access point whose controller answers both queries.
def answeringAccessPoint (interfaceName : ByteString) : AccessPoint where
  interfaceName := interfaceName
  macAddress := .replicate _ 2
  createController := .ok (some (NetRemoteService.granting {} []))

-- The access point whose interface has the name of the mark is not reported.
theorem wifiAccessPointsEnumerate_dropsInvalid :
    (wifiAccessPointsEnumerate [some (answeringAccessPoint (str "wlan0")),
        some (answeringAccessPoint (str "invalid"))]).toOption.map
          (·.accessPoints.map (·.accessPointId)) = some [str "wlan0"] ∧
      ¬ ReportsUsable [some (answeringAccessPoint (str "wlan0")),
          some (answeringAccessPoint (str "invalid"))]
        (wifiAccessPointsEnumerate [some (answeringAccessPoint (str "wlan0")),
          some (answeringAccessPoint (str "invalid"))]) := by
  have hnames : (wifiAccessPointsEnumerate [some (answeringAccessPoint (str "wlan0")),
      some (answeringAccessPoint (str "invalid"))]).toOption.map
        (·.accessPoints.map (·.accessPointId)) = some [str "wlan0"] := by decide
  refine ⟨hnames, ?_⟩
  rintro ⟨result, hresult, hreported⟩
  rw [hresult] at hnames
  have hone : result.accessPoints.map (·.accessPointId) = [str "wlan0"] := Option.some.inj hnames
  rw [hone] at hreported
  exact absurd (congrArg List.length hreported) (by decide)

end NetRemote.Service.Enumerate
