import NetRemote.Foundation.Fold
import NetRemote.Wifi.AccessPointControllerLinux.Calls

namespace NetRemote.Wifi.AccessPointControllerLinux

open Foundation Foundation.Bytes Wpa Wpa.Hostapd

-- What hostapd keeps of each property.
abbrev PropertyState := ByteString → Option ByteString

def PropertyState.assign (state : PropertyState) (setting : Setting) : PropertyState :=
  Function.update state setting.1 (some setting.2)

-- The properties that decide the operating mode.
def modeProperties : List ByteString :=
  [ProtocolHostapd.PropertyNameHwMode, ProtocolHostapd.PropertyNameWmmEnabled,
    ProtocolHostapd.PropertyNameIeee80211N, ProtocolHostapd.PropertyNameIeee80211AC,
    ProtocolHostapd.PropertyNameIeee80211AX, ProtocolHostapd.PropertyNameDisable11N,
    ProtocolHostapd.PropertyNameDisable11AC, ProtocolHostapd.PropertyNameDisable11AX]

def SameMode (state other : PropertyState) : Prop :=
  ∀ propertyName ∈ modeProperties, state propertyName = other propertyName

section Assign

variable {settings : List Setting} {propertyName : ByteString}

theorem foldl_assign (settings : List Setting) (propertyName : ByteString) (state : PropertyState) :
    settings.foldl PropertyState.assign state propertyName =
      ((settings.reverse.find? fun setting => setting.1 = propertyName).map fun setting =>
        some setting.2).getD (state propertyName) := by
  apply foldl_last PropertyState.assign (fun state => state propertyName)
    (fun setting => setting.1 = propertyName) (fun setting => some setting.2)
  · intro state setting _ hname
    obtain rfl := of_decide_eq_true hname
    exact Function.update_self _ _ _
  · intro state setting _ hname
    exact Function.update_of_ne (Ne.symm (of_decide_eq_false hname)) _ _

theorem foldl_assign_written (h : propertyName ∈ settings.map Prod.fst)
    (state other : PropertyState) :
    settings.foldl PropertyState.assign state propertyName =
      settings.foldl PropertyState.assign other propertyName := by
  obtain ⟨setting, hmem, hname⟩ := List.mem_map.mp h
  have hfound : (settings.reverse.find? fun setting => setting.1 = propertyName).isSome :=
    List.find?_isSome.mpr ⟨setting, List.mem_reverse.mpr hmem, decide_eq_true hname⟩
  obtain ⟨last, hlast⟩ := Option.isSome_iff_exists.mp hfound
  rw [foldl_assign, foldl_assign, hlast]
  rfl

theorem foldl_assign_unwritten (h : propertyName ∉ settings.map Prod.fst)
    (state : PropertyState) :
    settings.foldl PropertyState.assign state propertyName = state propertyName := by
  apply foldl_unwritten PropertyState.assign fun state => state propertyName
  intro state setting hsetting
  refine Function.update_of_ne ?_ _ _
  rintro rfl
  exact h (List.mem_map_of_mem hsetting)

-- Two histories that end in the same settings agree on all but what these leave
-- alone.
theorem sameMode_foldl_iff (settings : List Setting) (state other : PropertyState) :
    SameMode (settings.foldl PropertyState.assign state)
        (settings.foldl PropertyState.assign other) ↔
      ∀ propertyName ∈ modeProperties, propertyName ∉ settings.map Prod.fst →
        state propertyName = other propertyName := by
  unfold SameMode
  refine forall₂_congr fun propertyName _ => ?_
  by_cases hwritten : propertyName ∈ settings.map Prod.fst
  · simp only [hwritten, not_true_eq_false, false_implies, iff_true]
    exact foldl_assign_written hwritten state other
  · simp only [hwritten, not_false_eq_true, true_implies]
    rw [foldl_assign_unwritten hwritten, foldl_assign_unwritten hwritten]

end Assign

section Calls

variable (platform : Platform) (interfaceName : ByteString) {watched : ByteString → Bool}
  {valid : Prop}

theorem performs_setProperties {properties rest : List Setting}
    {fail : ByteString → ByteString → ByteString → AccessPointOperationStatus}
    {next : Wpa.Action AccessPointOperationStatus}
    (hfail : ∀ key value what, (fail key value what).code ≠ .Succeeded)
    (hnext : Performs platform.toPlatform watched valid (fun status => status.code = .Succeeded)
      rest next) :
    Performs platform.toPlatform watched valid (fun status => status.code = .Succeeded)
      (properties ++ rest)
      (setProperties properties (fun key value what => .Return (fail key value what)) next) := by
  induction properties with
  | nil => exact hnext
  | cons property properties ih =>
      have hsent : property :: properties ++ rest =
          [(property.1, property.2)] ++ (properties ++ rest) := rfl
      rw [hsent]
      exact performs_attempt (performs_setProperty property.1 property.2 .Defer) (fun _ => ih)
        (givesUp_fail (hfail property.1 property.2))

theorem performs_setPhyType (ieeePhyType : Ieee80211PhyType) :
    Performs platform.toPlatform watched valid (fun status => status.code = .Succeeded)
      (phyTypeProperties ieeePhyType) (setPhyType platform interfaceName ieeePhyType) := by
  rw [← List.append_nil (phyTypeProperties ieeePhyType)]
  apply performs_setProperties platform (fun key value what => by simp)
  apply performs_attempt performs_reload
  · intro _
    exact performs_bind performs_getStatus fun _ => performs_return fun _ => rfl
  · exact givesUp_fail fun what => by simp

variable {platform interfaceName}

abbrev PhyTypeCall (platform : Platform) (interfaceName : ByteString) :=
  Call (setPhyType platform interfaceName)

theorem PhyTypeCall.applied (call : PhyTypeCall platform interfaceName) :
    applied call.trace = phyTypeProperties call.argument := by
  have hperforms : Performs platform.toPlatform (fun _ => true) True _ _ _ :=
    performs_setPhyType platform interfaceName call.argument
  exact call.applied_trace hperforms
    (settles_setPhyType platform interfaceName call.argument fun _ => true)

def propertiesAfter (before : PropertyState) (calls : List (PhyTypeCall platform interfaceName)) :
    PropertyState :=
  (appliedBy calls).foldl PropertyState.assign before

theorem propertiesAfter_concat (before : PropertyState)
    (earlier : List (PhyTypeCall platform interfaceName))
    (last : PhyTypeCall platform interfaceName) :
    propertiesAfter before (earlier ++ [last]) =
      (phyTypeProperties last.argument).foldl PropertyState.assign
        (propertiesAfter before earlier) := by
  simp only [propertiesAfter, appliedBy_eq PhyTypeCall.applied, List.flatMap_append,
    List.foldl_append, List.flatMap_singleton]

theorem propertiesAfter_singleton (before : PropertyState)
    (call : PhyTypeCall platform interfaceName) :
    propertiesAfter before [call] =
      (phyTypeProperties call.argument).foldl PropertyState.assign before :=
  propertiesAfter_concat before [] call

variable (platform interfaceName)

theorem exists_phyTypeCall (ieeePhyType : Ieee80211PhyType) :
    ∃ call : PhyTypeCall platform interfaceName, call.argument = ieeePhyType := by
  have hperforms : Performs platform.toPlatform (fun _ => true) True _ _ _ :=
    performs_setPhyType platform interfaceName ieeePhyType
  obtain ⟨trace, status, hruns, hsucceeded⟩ := exists_succeeds hperforms trivial
  exact ⟨⟨ieeePhyType, trace, status, hruns, hsucceeded⟩, rfl⟩

variable {platform interfaceName}

-- The mode is that of every other history that ends in the same type.
def LastTypeWins (before : PropertyState) (earlier : List (PhyTypeCall platform interfaceName))
    (last : PhyTypeCall platform interfaceName) : Prop :=
  ∀ (before' : PropertyState) (earlier' : List (PhyTypeCall platform interfaceName))
    (last' : PhyTypeCall platform interfaceName), last'.argument = last.argument →
      SameMode (propertiesAfter before (earlier ++ [last]))
        (propertiesAfter before' (earlier' ++ [last']))

theorem setPhyType_lastTypeWins_iff (before : PropertyState)
    (earlier : List (PhyTypeCall platform interfaceName))
    (last : PhyTypeCall platform interfaceName) :
    LastTypeWins before earlier last ↔ last.argument = .AX := by
  constructor
  · intro hlast
    by_contra hother
    -- Only 802.11ax writes this property, and no type takes it back.
    have hunwritten : ProtocolHostapd.PropertyNameIeee80211AX ∉
        (phyTypeProperties last.argument).map Prod.fst := by
      revert hother
      cases last.argument <;> decide
    have hmode : ProtocolHostapd.PropertyNameIeee80211AX ∈ modeProperties := by decide
    obtain ⟨ax, hax⟩ := exists_phyTypeCall platform interfaceName .AX
    have hon := hlast (fun _ => none) [ax] last rfl _ hmode
    have hoff := hlast (fun _ => none) [last] last rfl _ hmode
    rw [propertiesAfter_concat _ [_] last, foldl_assign_unwritten hunwritten,
      propertiesAfter_singleton] at hon hoff
    rw [hoff, hax, foldl_assign_unwritten hunwritten] at hon
    exact absurd hon (by decide)
  · intro hlast before' earlier' last' hlast'
    have hwritten : ∀ propertyName ∈ modeProperties,
        propertyName ∈ (phyTypeProperties .AX).map Prod.fst := by decide
    rw [propertiesAfter_concat, propertiesAfter_concat, hlast', hlast, sameMode_foldl_iff]
    exact fun propertyName hmode hunwritten => absurd (hwritten propertyName hmode) hunwritten

end Calls

section Leftover

def phyTypeSucceeded (name : ByteString) : AccessPointOperationStatus :=
  ⟨str "wlan0", str "SetPhyType 802.11 " ++ name, [], .Succeeded⟩

def axCall : PhyTypeCall default (str "wlan0") :=
  acknowledgedCall .AX (phyTypeSucceeded (str "AX")) (by decide +kernel) rfl

def gCall : PhyTypeCall default (str "wlan0") :=
  acknowledgedCall .G (phyTypeSucceeded (str "G")) (by decide +kernel) rfl

-- What 802.11ax switched on stays on.
theorem setPhyType_leaves_ax :
    propertiesAfter (fun _ => none) [axCall, gCall] (str "ieee80211ax") = some (str "1") ∧
      propertiesAfter (fun _ => none) [gCall, gCall] (str "ieee80211ax") = none ∧
      ¬ LastTypeWins (fun _ => none) [axCall] gCall := by
  have hleft : propertiesAfter (fun _ => none) [axCall, gCall] (str "ieee80211ax") =
      some (str "1") := by decide +kernel
  have hnone : propertiesAfter (fun _ => none) [gCall, gCall] (str "ieee80211ax") = none := by
    decide +kernel
  refine ⟨hleft, hnone, fun hlast => ?_⟩
  have hsame := hlast (fun _ => none) [gCall] gCall rfl (str "ieee80211ax") (by decide)
  rw [List.singleton_append, List.singleton_append, hleft, hnone] at hsame
  cases hsame

end Leftover

end NetRemote.Wifi.AccessPointControllerLinux
