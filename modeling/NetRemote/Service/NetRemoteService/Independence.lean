import NetRemote.Service.NetRemoteService.Installation

namespace NetRemote.Service.NetRemoteService

open Foundation Foundation.Bytes Api Wifi Wpa Wpa.Hostapd
open AccessPointControllerLinux (settingsOf propertiesOf)

section Calls

variable {σ : Type}

-- Whatever hostapd makes of the values of a property, each item of a call that
-- succeeds comes out as if it had been the only one.
theorem answer_itemwise (platform : Platform) (accessPointManager : IAccessPointManager System)
    (hlinux : OnLinux platform accessPointManager) (request : AccessPointRequest)
    (trace : List System.Exchange) (status : WifiAccessPointOperationStatus)
    (hruns : (answer platform accessPointManager request).Runs trace (.ok status))
    (hsucceeded : status.code = .Succeeded) :
    ∃ identifier, ∀ item ∈ controllerRequests platform request,
      ∀ propertyName ∈ propertiesOf item,
        propertyName ≠ ProtocolHostapd.PropertyNameInvalid →
          ∀ (update : ByteString → σ → ByteString → σ) (store : ByteString → σ),
            Store.after update store (installed trace) propertyName =
              Store.after update store
                ((settingsOf platform.toWifi item).map (withIdentifier identifier))
                propertyName := by
  obtain ⟨identifier, -, hall⟩ := answer_installs hlinux request trace _ hruns
  refine ⟨identifier, fun item hitem propertyName hname hvalid update store => ?_⟩
  obtain ⟨before, later, hitems⟩ := List.append_of_mem hitem
  have hwritten :
      Store.writtenTo propertyName ((compiled platform request).map (withIdentifier identifier)) =
        Store.writtenTo propertyName
          ((settingsOf platform.toWifi item).map (withIdentifier identifier)) := by
    rw [compiled, List.map_flatMap]
    apply Store.writtenTo_flatMap hitems
    intro other hother entry hentry
    obtain ⟨setting, hsetting, rfl⟩ := List.mem_map.mp hentry
    have hother := ne_of_kind_ne platform (kind_ne platform hitems hother) hname hvalid
    rw [withIdentifier, Store.fst_fill]
    exact hother setting hsetting
  rw [hall status rfl hsucceeded, Store.after_apply, Store.after_apply, hwritten]

-- The access point is named, and its server identified by what was drawn.
theorem answer_itemwise_roaming :
    ∃ identifier,
      Store.after (fun _ _ value => some value) (fun _ => none) (installed enableRoamingRun.1)
          (str "ssid") = some (str "guest") ∧
        Store.after (fun _ _ value => some value) (fun _ => none) (installed enableRoamingRun.1)
          (str "nas_identifier") = some identifier := by
  have hsucceeds : enableRoamingRun.2 = .ok { code := .Succeeded } := by decide +kernel
  have hruns : (answer defaultPlatform oneInterface enableRoaming).Runs enableRoamingRun.1
      (.ok { code := .Succeeded }) := hsucceeds ▸ Program.runs_run _ _
  obtain ⟨identifier, hitems⟩ := answer_itemwise (σ := Option ByteString) defaultPlatform
    oneInterface onLinux_oneInterface enableRoaming enableRoamingRun.1 { code := .Succeeded } hruns
    rfl
  refine ⟨identifier, ?_, ?_⟩
  · exact hitems (.SetSsid (str "guest")) (.tail _ (.head _)) _ (.head _) (by decide) _ _
  · exact hitems (.SetAkmSuites [.FtPsk]) (.head _) _ (.head _) (by decide) _ _

-- A property that no other call is about is left, at the end of any interleaving of
-- the calls, as if its own call had been alone.
theorem answer_interleaved {ι : Type} [DecidableEq ι] (platform : Platform)
    (accessPointManager : IAccessPointManager System)
    (hlinux : OnLinux platform accessPointManager) (requests : ι → AccessPointRequest)
    (traces : ι → List System.Exchange)
    (outcomes : ι → Except Fault WifiAccessPointOperationStatus)
    (hruns : ∀ client,
      (answer platform accessPointManager (requests client)).Runs (traces client)
        (outcomes client))
    (merged : List (ι × System.Exchange)) (hmerged : Interleaving traces merged)
    (client : ι) (propertyName : ByteString)
    (hvalid : propertyName ≠ ProtocolHostapd.PropertyNameInvalid)
    (halone : ∀ other, other ≠ client → propertyName ∉ footprint platform (requests other))
    (update : ByteString → σ → ByteString → σ) (store : ByteString → σ) :
    Store.after update store (installed (merged.map Prod.snd)) propertyName =
      Store.after update store (installed (traces client)) propertyName := by
  have hothers (other : ι) (hother : other ≠ client) :
      ∀ setting ∈ installed (traces other), setting.1 ≠ propertyName := by
    intro setting hsetting hname
    obtain ⟨identifier, hstart, -⟩ :=
      answer_installs hlinux (requests other) (traces other) _ (hruns other)
    obtain ⟨asked, hasked, rfl⟩ := List.mem_map.mp (hstart.subset hsetting)
    obtain ⟨item, hitem, hsettings⟩ := List.mem_flatMap.mp hasked
    rw [withIdentifier, Store.fst_fill] at hname
    rcases fst_mem_of_mem_settingsOf platform hsettings with hmem | hinvalid
    · rw [hname] at hmem
      exact halone other hother (List.mem_flatMap.mpr ⟨item, hitem, hmem⟩)
    · exact hvalid (hname.symm.trans hinvalid)
  have hsettings : installed (merged.map Prod.snd) =
      (selected installedIn merged).map Prod.snd := by
    simp [installed, selected, List.filterMap_map, List.map_filterMap]
  rw [hsettings]
  exact Store.after_interleaving (interleaving_selected hmerged installedIn) hothers update store

-- One call is carried out while the other has set its property and not yet reloaded.
def renames : Bool → AccessPointRequest
  | true => .SetSsid (str "wlan0") (some ⟨some (.Name (str "guest"))⟩)
  | false => .SetNetworkBridge (str "wlan0") (str "br0")

def renameRun (client : Bool) :
    List System.Exchange × Except Fault WifiAccessPointOperationStatus :=
  (answer defaultPlatform oneInterface (renames client)).run
    (AccessPointControllerLinux.acknowledging (some (str "ssid=guest"))) []

def renamesMixed : List (Bool × System.Exchange) := between (fun client => (renameRun client).1) 1

theorem answer_interleaved_bridge :
    Store.after (fun _ _ value => some value) (fun _ => none)
      (installed (renamesMixed.map Prod.snd)) (str "bridge") = some (str "br0") := by
  refine (answer_interleaved defaultPlatform oneInterface onLinux_oneInterface renames
    (fun client => (renameRun client).1) (fun client => (renameRun client).2)
    (fun client => Program.runs_run _ _) renamesMixed (interleaving_between _ 1) false
    (str "bridge") (by decide) ?_ _ _).trans ?_
  · intro other hother
    cases other with
    | true => decide
    | false => exact absurd rfl hother
  · decide +kernel

end Calls

end NetRemote.Service.NetRemoteService
