import NetRemote.Foundation.BitSet
import NetRemote.Wpa.Hostapd.Scripts

namespace NetRemote.Wpa.Hostapd

open Foundation Foundation.Bytes ProtocolWpa

-- The setters that send one number for a list of values.
inductive BitmaskSetter where
  | SetAuthenticationAlgorithms (algorithms : List WpaAuthenticationAlgorithm)
  | SetWpaSecurityProtocols (protocols : List WpaSecurityProtocol)

namespace BitmaskSetter

def call (enforceConfigurationChange : EnforceConfigurationChange) : BitmaskSetter → Action Unit
  | .SetAuthenticationAlgorithms algorithms =>
      setAuthenticationAlgorithms algorithms enforceConfigurationChange
  | .SetWpaSecurityProtocols protocols =>
      setWpaSecurityProtocols protocols enforceConfigurationChange

def propertyName : BitmaskSetter → ByteString
  | .SetAuthenticationAlgorithms _ => ProtocolHostapd.PropertyNameAuthenticationAlgorithms
  | .SetWpaSecurityProtocols _ => PropertyNameWpaSecurityProtocol

def values : BitmaskSetter → List UInt32
  | .SetAuthenticationAlgorithms algorithms => algorithms.map (·.value)
  | .SetWpaSecurityProtocols protocols => protocols.map (·.value)

def mask : BitmaskSetter → UInt32
  | .SetAuthenticationAlgorithms _ => WpaAuthenticationAlgorithmMask
  | .SetWpaSecurityProtocols _ => WpaSecurityProtocolMask

-- A value of the list is rejected by the function that tells what is supported.
def Unsupported : BitmaskSetter → Prop
  | .SetAuthenticationAlgorithms algorithms =>
      ∃ algorithm ∈ algorithms, isWpaAuthenticationAlgorithmSupported algorithm = false
  | .SetWpaSecurityProtocols protocols =>
      ∃ protocol ∈ protocols, isWpaSecurityProtocolSupported protocol = false

-- A value of the list has a bit that the mask has not.
def OutsideMask (setter : BitmaskSetter) : Prop :=
  ∃ value ∈ setter.values, value &&& ~~~setter.mask ≠ 0

instance (setter : BitmaskSetter) : Decidable setter.OutsideMask :=
  inferInstanceAs (Decidable (∃ value ∈ setter.values, _))

end BitmaskSetter

structure SendsUnion (setter : BitmaskSetter) (trace : List System.Exchange)
    (outcome : Except Fault Unit) : Prop where
  rejected : setter.values = [] ∨ setter.Unsupported → Untouched trace outcome
  sent : ¬ (setter.values = [] ∨ setter.Unsupported) →
    (∃ reply later, trace = ⟨setRequest (setter.propertyName,
      decimal (BitSet.union setter.values).toNat), reply⟩ :: later ∧
        ∀ exchange ∈ later, exchange.1 = .SendCommand .Reload) ∧
      BitSet.union setter.values ≠ 0
  independent : ∀ other : List UInt32, (∀ value, value ∈ other ↔ value ∈ setter.values) →
    BitSet.union other = BitSet.union setter.values

namespace BitmaskSetter

variable {setter : BitmaskSetter} {enforceConfigurationChange : EnforceConfigurationChange}
  {trace : List System.Exchange} {outcome : Except Fault Unit}

theorem within_of_not_outsideMask (h : ¬ setter.OutsideMask) :
    ∀ value ∈ setter.values, BitSet.Within value setter.mask := by
  intro value hmem
  rw [← BitSet.and_not_eq_zero_iff]
  by_contra hvalue
  exact h ⟨value, hmem, hvalue⟩

-- What the mask allows is kept by it.
theorem union_and_mask (h : ¬ setter.OutsideMask) :
    BitSet.union setter.values &&& setter.mask = BitSet.union setter.values :=
  BitSet.and_eq_iff.mpr (BitSet.within_union_iff.mpr (within_of_not_outsideMask h))

theorem refuses_of_empty (h : setter.values = []) :
    Refuses (setter.call enforceConfigurationChange) := by
  cases setter with
  | SetAuthenticationAlgorithms algorithms =>
      obtain rfl : algorithms = [] := List.map_eq_nil_iff.mp h
      exact ⟨_, rfl⟩
  | SetWpaSecurityProtocols protocols =>
      obtain rfl : protocols = [] := List.map_eq_nil_iff.mp h
      exact ⟨_, rfl⟩

theorem refuses_of_outsideMask (h : setter.OutsideMask) :
    Refuses (setter.call enforceConfigurationChange) := by
  obtain ⟨value, hvalues, hvalue⟩ := h
  cases setter with
  | SetAuthenticationAlgorithms algorithms =>
      obtain ⟨algorithm, hmem, rfl⟩ := List.mem_map.mp hvalues
      have hrejected : true ∈ algorithms.map fun algorithm =>
          decide (algorithm.value &&& ~~~WpaAuthenticationAlgorithmMask ≠ 0) :=
        List.mem_map.mpr ⟨algorithm, hmem, decide_eq_true hvalue⟩
      obtain ⟨hempty, found, hfound⟩ := find?_of_rejected hrejected
      simp only [call, setAuthenticationAlgorithms, hempty, if_false, hfound]
      exact ⟨_, rfl⟩
  | SetWpaSecurityProtocols protocols =>
      obtain ⟨protocol, hmem, rfl⟩ := List.mem_map.mp hvalues
      have hrejected : true ∈ protocols.map fun protocol =>
          decide (protocol.value &&& ~~~WpaSecurityProtocolMask ≠ 0) :=
        List.mem_map.mpr ⟨protocol, hmem, decide_eq_true hvalue⟩
      obtain ⟨hempty, found, hfound⟩ := find?_of_rejected hrejected
      simp only [call, setWpaSecurityProtocols, hempty, if_false, hfound]
      exact ⟨_, rfl⟩

theorem call_eq (enforceConfigurationChange : EnforceConfigurationChange)
    (hempty : setter.values ≠ []) (h : ¬ setter.OutsideMask) :
    ∃ message, setter.call enforceConfigurationChange =
      setPropertyWith setter.propertyName (decimal (BitSet.union setter.values).toNat)
        enforceConfigurationChange message := by
  have hunion := union_and_mask h
  cases setter with
  | SetAuthenticationAlgorithms algorithms =>
      have hnone : algorithms.find? (fun algorithm =>
          algorithm.value &&& ~~~WpaAuthenticationAlgorithmMask ≠ 0) = none := by
        rw [List.find?_eq_none]
        exact fun algorithm hmem hvalue =>
          h ⟨algorithm.value, List.mem_map_of_mem hmem, of_decide_eq_true hvalue⟩
      have hlist : algorithms ≠ [] := fun hnil => hempty (by rw [values, hnil, List.map_nil])
      simp only [values, mask, BitSet.union, List.foldl_map] at hunion
      simp only [call, setAuthenticationAlgorithms, hlist, if_false, hnone, hunion, values,
        BitSet.union, List.foldl_map]
      exact ⟨_, rfl⟩
  | SetWpaSecurityProtocols protocols =>
      have hnone : protocols.find? (fun protocol =>
          protocol.value &&& ~~~WpaSecurityProtocolMask ≠ 0) = none := by
        rw [List.find?_eq_none]
        exact fun protocol hmem hvalue =>
          h ⟨protocol.value, List.mem_map_of_mem hmem, of_decide_eq_true hvalue⟩
      have hlist : protocols ≠ [] := fun hnil => hempty (by rw [values, hnil, List.map_nil])
      simp only [values, mask, BitSet.union, List.foldl_map] at hunion
      simp only [call, setWpaSecurityProtocols, hlist, if_false, hnone, hunion, values,
        BitSet.union, List.foldl_map]
      exact ⟨_, rfl⟩

theorem runs_call (hempty : setter.values ≠ []) (h : ¬ setter.OutsideMask)
    (hruns : (setter.call enforceConfigurationChange).Runs trace outcome) :
    ∃ reply later, trace = ⟨setRequest (setter.propertyName,
      decimal (BitSet.union setter.values).toNat), reply⟩ :: later ∧
        ∀ exchange ∈ later, exchange.1 = .SendCommand .Reload := by
  obtain ⟨message, hcall⟩ := call_eq enforceConfigurationChange hempty h
  rw [hcall] at hruns
  exact runs_setPropertyWith hruns

-- An unsupported value that the mask allows is zero.
theorem zero_mem_of_unsupported (hunsupported : setter.Unsupported) (h : ¬ setter.OutsideMask) :
    0 ∈ setter.values := by
  cases setter with
  | SetAuthenticationAlgorithms algorithms =>
      obtain ⟨algorithm, hmem, hrejected⟩ := hunsupported
      have hlisted : algorithm ∈ WpaAuthenticationAlgorithmsUnsupported := by
        simpa [isWpaAuthenticationAlgorithmSupported] using hrejected
      have hall : ∀ other ∈ WpaAuthenticationAlgorithmsUnsupported,
          other.value = 0 ∨ other.value &&& ~~~WpaAuthenticationAlgorithmMask ≠ 0 := by decide
      rcases hall algorithm hlisted with hzero | houtside
      · exact List.mem_map.mpr ⟨algorithm, hmem, hzero⟩
      · exact absurd ⟨_, List.mem_map_of_mem hmem, houtside⟩ h
  | SetWpaSecurityProtocols protocols =>
      obtain ⟨protocol, hmem, hrejected⟩ := hunsupported
      obtain rfl : protocol = WpaSecurityProtocol.Unknown := by
        simpa [isWpaSecurityProtocolSupported] using hrejected
      exact List.mem_map.mpr ⟨_, hmem, rfl⟩

theorem unsupported_of_zero_mem (h : 0 ∈ setter.values) : setter.Unsupported := by
  cases setter with
  | SetAuthenticationAlgorithms algorithms =>
      obtain ⟨⟨value⟩, hmem, rfl⟩ := List.mem_map.mp h
      exact ⟨_, hmem, by decide⟩
  | SetWpaSecurityProtocols protocols =>
      obtain ⟨⟨value⟩, hmem, rfl⟩ := List.mem_map.mp h
      exact ⟨_, hmem, by decide⟩

-- Neither check finds something that the other is silent about.
structure ChecksAgree (setter : BitmaskSetter) : Prop where
  zero : 0 ∈ setter.values → setter.OutsideMask
  outside : setter.OutsideMask → setter.Unsupported

theorem checksAgree_iff (setter : BitmaskSetter) :
    setter.ChecksAgree ↔ (setter.OutsideMask ↔ setter.Unsupported) := by
  constructor
  · rintro ⟨hzero, houtside⟩
    refine ⟨houtside, fun hunsupported => ?_⟩
    by_contra hinside
    exact hinside (hzero (zero_mem_of_unsupported hunsupported hinside))
  · intro h
    exact ⟨fun hzero => h.mpr (unsupported_of_zero_mem hzero), h.mp⟩

theorem sends_of_inside (hempty : setter.values ≠ []) (h : ¬ setter.OutsideMask)
    (hruns : (setter.call enforceConfigurationChange).Runs trace outcome) :
    ¬ Untouched trace outcome := by
  obtain ⟨reply, later, rfl, -⟩ := runs_call hempty h hruns
  intro huntouched
  exact huntouched.2 _ List.mem_cons_self _ rfl

theorem call_sendsUnion_iff (setter : BitmaskSetter)
    (enforceConfigurationChange : EnforceConfigurationChange) (trace : List System.Exchange)
    (outcome : Except Fault Unit)
    (hruns : (setter.call enforceConfigurationChange).Runs trace outcome) :
    SendsUnion setter trace outcome ↔ setter.ChecksAgree := by
  rw [checksAgree_iff]
  have hindependent : ∀ other : List UInt32, (∀ value, value ∈ other ↔ value ∈ setter.values) →
      BitSet.union other = BitSet.union setter.values := fun other h => BitSet.union_congr h
  by_cases hempty : setter.values = []
  · have huntouched := untouched_of_refuses (refuses_of_empty hempty) hruns
    refine ⟨fun _ => ?_, fun _ => ⟨fun _ => huntouched, fun h => absurd (.inl hempty) h,
      hindependent⟩⟩
    have houtside : ¬ setter.OutsideMask := by
      rintro ⟨value, hmem, -⟩
      rw [hempty] at hmem
      cases hmem
    refine iff_of_false houtside fun hunsupported => ?_
    have hzero := zero_mem_of_unsupported hunsupported houtside
    rw [hempty] at hzero
    cases hzero
  · by_cases houtside : setter.OutsideMask
    · have huntouched := untouched_of_refuses (refuses_of_outsideMask houtside) hruns
      refine ⟨fun hsends => iff_of_true houtside ?_, fun hagree => ⟨fun _ => huntouched,
        fun h => absurd (.inr (hagree.mp houtside)) h, hindependent⟩⟩
      by_contra hsupported
      obtain ⟨⟨reply, later, rfl, -⟩, -⟩ := hsends.sent (not_or.mpr ⟨hempty, hsupported⟩)
      exact huntouched.2 _ List.mem_cons_self _ rfl
    · refine ⟨fun hsends => iff_of_false houtside fun hunsupported => ?_, fun hagree => ?_⟩
      · exact sends_of_inside hempty houtside hruns (hsends.rejected (.inr hunsupported))
      · have hsupported : ¬ setter.Unsupported := fun h => houtside (hagree.mpr h)
        refine ⟨fun h => absurd h (not_or.mpr ⟨hempty, hsupported⟩),
          fun _ => ⟨runs_call hempty houtside hruns, fun hzero => ?_⟩, hindependent⟩
        obtain ⟨value, hmem⟩ := List.exists_mem_of_ne_nil _ hempty
        obtain rfl := BitSet.union_eq_zero_iff.mp hzero value hmem
        exact hsupported (unsupported_of_zero_mem hmem)

def bothAlgorithms : BitmaskSetter :=
  .SetAuthenticationAlgorithms [.SharedKey, .OpenSystem, .SharedKey]

theorem call_sendsUnion_bothAlgorithms :
    SendsUnion bothAlgorithms ((bothAlgorithms.call .Now).run obliging []).1
        ((bothAlgorithms.call .Now).run obliging []).2 ∧
      BitSet.union bothAlgorithms.values = 3 :=
  ⟨(call_sendsUnion_iff bothAlgorithms .Now _ _ (Program.runs_run _ _)).mpr
    ⟨by decide, fun houtside => absurd houtside (by decide)⟩, by decide⟩

-- The zero values pass the mask, and hostapd is told to use no algorithm or protocol.
theorem call_sends_zero :
    (BitmaskSetter.SetAuthenticationAlgorithms [.Invalid]).Unsupported ∧
      ((BitmaskSetter.SetAuthenticationAlgorithms [.Invalid]).call .Defer).run obliging [] =
        ([⟨.SendCommand (.Set (str "auth_algs") (str "0")), some (str "OK")⟩], .ok ()) ∧
      ¬ SendsUnion (.SetAuthenticationAlgorithms [.Invalid])
        [⟨.SendCommand (.Set (str "auth_algs") (str "0")), some (str "OK")⟩] (.ok ()) ∧
      ((BitmaskSetter.SetWpaSecurityProtocols [.Unknown]).call .Defer).run obliging [] =
        ([⟨.SendCommand (.Set (str "wpa") (str "0")), some (str "OK")⟩], .ok ()) ∧
      ¬ SendsUnion (.SetWpaSecurityProtocols [.Unknown])
        [⟨.SendCommand (.Set (str "wpa") (str "0")), some (str "OK")⟩] (.ok ()) := by
  have hinvalid : (BitmaskSetter.SetAuthenticationAlgorithms [.Invalid]).Unsupported :=
    ⟨.Invalid, List.mem_cons_self, by decide⟩
  have hunknown : (BitmaskSetter.SetWpaSecurityProtocols [.Unknown]).Unsupported :=
    ⟨.Unknown, List.mem_cons_self, by decide⟩
  refine ⟨hinvalid, by rfl, fun hsends => ?_, by rfl, fun hsends => ?_⟩
  · exact (hsends.rejected (.inr hinvalid)).2 _ List.mem_cons_self _ rfl
  · exact (hsends.rejected (.inr hunknown)).2 _ List.mem_cons_self _ rfl

end BitmaskSetter

end NetRemote.Wpa.Hostapd
