import NetRemote.Foundation.FromChars
import NetRemote.Wpa.WpaResponseParser.Properties
import NetRemote.Wpa.WpaResponseParser.Safety

namespace NetRemote.Wpa.WpaResponseParser

open Foundation Foundation.Bytes

-- A field is what its whole text denotes, or else what it was in the beginning.
def Settled {γ : Type} (text : Option ByteString) (initial : γ) (ofInt : Int → γ) (field : γ) :
    Prop :=
  (∃ written n, text = some written ∧ IsInt written n ∧ field = ofInt n) ∨
    ((∀ written n, text = some written → ¬IsInt written n) ∧ field = initial)

section ParseInt

variable {text : ByteString}

theorem settled_none_iff {γ : Type} {initial field : γ} {ofInt : Int → γ} :
    Settled none initial ofInt field ↔ field = initial := by
  constructor
  · rintro (⟨written, m, hwritten, -⟩ | ⟨-, hfield⟩)
    · cases hwritten
    · exact hfield
  · intro hfield
    exact .inr ⟨nofun, hfield⟩

theorem settled_of_isInt {γ : Type} {initial field : γ} {ofInt : Int → γ} {n : Int}
    (h : IsInt text n) : Settled (some text) initial ofInt field ↔ field = ofInt n := by
  constructor
  · rintro (⟨written, m, hwritten, hm, hfield⟩ | ⟨hnone, -⟩)
    · obtain rfl := Option.some.inj hwritten
      obtain rfl := hm.leading.unique h.leading
      exact hfield
    · exact absurd h (hnone text n rfl)
  · intro hfield
    exact .inl ⟨text, n, rfl, h, hfield⟩

theorem settled_of_not_isInt {γ : Type} {initial field : γ} {ofInt : Int → γ}
    (h : ∀ n, ¬IsInt text n) : Settled (some text) initial ofInt field ↔ field = initial := by
  constructor
  · rintro (⟨written, m, hwritten, hm, -⟩ | ⟨-, hfield⟩)
    · obtain rfl := Option.some.inj hwritten
      exact absurd hm (h m)
    · exact hfield
  · intro hfield
    refine .inr ⟨?_, hfield⟩
    rintro written n hwritten
    obtain rfl := Option.some.inj hwritten
    exact h n

theorem parseInt_leading {n : Int} (h : LeadingInt text n) (valueInt : Int) :
    parseInt text valueInt = n :=
  fromCharsInt_leading h valueInt

theorem parseInt_no_leading (h : ∀ n, ¬LeadingInt text n) (valueInt : Int) :
    parseInt text valueInt = valueInt :=
  fromCharsInt_no_leading h valueInt

-- The number at the start of a text is stored, whatever follows it.
theorem settled_parseInt_iff (text : ByteString) (valueInt : Int) :
    Settled (some text) valueInt id (parseInt text valueInt) ↔
      ∀ n, LeadingInt text n → IsInt text n ∨ n = valueInt := by
  by_cases hwhole : ∃ n, IsInt text n
  · obtain ⟨n, hn⟩ := hwhole
    rw [settled_of_isInt hn]
    constructor
    · intro _ m hm
      obtain rfl := hm.unique hn.leading
      exact .inl hn
    · intro _
      exact parseInt_leading hn.leading valueInt
  · have hnot : ∀ n, ¬IsInt text n := fun n hn => hwhole ⟨n, hn⟩
    rw [settled_of_not_isInt hnot]
    constructor
    · intro hkept n hn
      rw [parseInt_leading hn] at hkept
      exact .inr hkept
    · intro h
      by_cases hleading : ∃ n, LeadingInt text n
      · obtain ⟨n, hn⟩ := hleading
        rw [parseInt_leading hn]
        exact (h n hn).resolve_left (hnot n)
      · exact parseInt_no_leading (fun n hn => hleading ⟨n, hn⟩) valueInt

-- A caller that may hold any number is served only if nothing follows the number.
theorem parseInt_settled_iff (text : ByteString) :
    (∀ valueInt, Settled (some text) valueInt id (parseInt text valueInt)) ↔
      ∀ n, LeadingInt text n → IsInt text n := by
  simp only [settled_parseInt_iff]
  constructor
  · intro h n hn
    have hother := h (if n = 0 then 1 else 0) n hn
    refine hother.resolve_right ?_
    split_ifs with hzero
    · omega
    · exact hzero
  · intro h valueInt n hn
    exact .inl (h n hn)

end ParseInt

-- The integers of a STATUS response. There is a station count for every BSS entry.
inductive StatusInteger where
  | Ieee80211n
  | Disable11n
  | Ieee80211ac
  | Disable11ac
  | Ieee80211ax
  | Disable11ax
  | NumStations (index : Nat)
  deriving DecidableEq, Repr

namespace StatusInteger

def key : StatusInteger → ByteString
  | .Ieee80211n => ProtocolHostapd.ResponseStatusPropertyKeyIeee80211N
  | .Disable11n => ProtocolHostapd.ResponseStatusPropertyKeyDisable11N
  | .Ieee80211ac => ProtocolHostapd.ResponseStatusPropertyKeyIeee80211AC
  | .Disable11ac => ProtocolHostapd.ResponseStatusPropertyKeyDisableAC
  | .Ieee80211ax => ProtocolHostapd.ResponseStatusPropertyKeyIeee80211AX
  | .Disable11ax => ProtocolHostapd.ResponseStatusPropertyKeyDisableAX
  | .NumStations _ => ProtocolHostapd.PropertyNameBssNumStations

-- The count of an entry that is not there is zero.
def read (status : HostapdStatus) : StatusInteger → Int
  | .Ieee80211n => status.ieee80211n
  | .Disable11n => status.disable11n
  | .Ieee80211ac => status.ieee80211ac
  | .Disable11ac => status.disable11ac
  | .Ieee80211ax => status.ieee80211ax
  | .Disable11ax => status.disable11ax
  | .NumStations index => status.bss[index]?.elim 0 BssInfo.numStations

def isFor (value : PropertyValue) : StatusInteger → Bool
  | .NumStations index => value.index = some index
  | _ => true

-- What the payload says about the integer, in its last line with the name.
def text (payload : ByteString) (integer : StatusInteger) : Option ByteString :=
  (lastNamed payload integer.key).bind fun entry =>
    if integer.isFor entry.2 then some entry.2.value else none

def assign (integer : StatusInteger) (field : Int) (value : PropertyValue) : Int :=
  if integer.isFor value then parseInt value.value field else field

section Step

variable {bssCapacity : BssCapacity} {status next : HostapdStatus}
  {property : ByteString × PropertyValue}

theorem numStations_mem_bssKeys : ProtocolHostapd.PropertyNameBssNumStations ∈ bssKeys := by
  decide

theorem read_assignProperty_key {integer : StatusInteger} {value : PropertyValue}
    (hkey : integer.key ∉ bssKeys)
    (h : WpaStatusResponseParser.assignProperty bssCapacity status (integer.key, value) =
      .ok next) :
    integer.read next = integer.assign (integer.read status) value := by
  cases integer with
  | Ieee80211n => exact (congrArg HostapdStatus.ieee80211n (Except.ok.inj h)).symm
  | Disable11n => exact (congrArg HostapdStatus.disable11n (Except.ok.inj h)).symm
  | Ieee80211ac => exact (congrArg HostapdStatus.ieee80211ac (Except.ok.inj h)).symm
  | Disable11ac => exact (congrArg HostapdStatus.disable11ac (Except.ok.inj h)).symm
  | Ieee80211ax => exact (congrArg HostapdStatus.ieee80211ax (Except.ok.inj h)).symm
  | Disable11ax => exact (congrArg HostapdStatus.disable11ax (Except.ok.inj h)).symm
  | NumStations index => exact absurd numStations_mem_bssKeys hkey

-- Each property assigns to its own field.
theorem read_assignProperty_ne {integer : StatusInteger} (hbss : property.1 ∉ bssKeys)
    (hne : property.1 ≠ integer.key)
    (h : WpaStatusResponseParser.assignProperty bssCapacity status property = .ok next) :
    integer.read next = integer.read status := by
  simp only [bssKeys, List.mem_cons, List.not_mem_nil, or_false, not_or] at hbss
  simp only [WpaStatusResponseParser.assignProperty, hbss, if_false] at h
  split_ifs at h <;> cases h <;> cases integer <;> first | rfl | exact absurd ‹_› hne

def stationsAt (bss : List BssInfo) (index : Nat) : Int := bss[index]?.elim 0 BssInfo.numStations

-- An entry that is added counts no stations, as one that is not there.
theorem stationsAt_append (bss : List BssInfo) (added index : Nat) :
    stationsAt (bss ++ List.replicate added ({} : BssInfo)) index = stationsAt bss index := by
  unfold stationsAt
  by_cases hindex : index < bss.length
  · rw [List.getElem?_append_left hindex]
  · rw [List.getElem?_append_right (by omega), List.getElem?_replicate,
      List.getElem?_eq_none (by omega)]
    split_ifs <;> rfl

theorem stationsAt_modify {bss : List BssInfo} {position : Nat} (assign : BssInfo → BssInfo)
    (hposition : position < bss.length) (index : Nat) :
    stationsAt (bss.modify position assign) index =
      if position = index then (assign bss[position]).numStations else stationsAt bss index := by
  unfold stationsAt
  rw [List.getElem?_modify]
  by_cases hsame : position = index
  · subst hsame
    simp [List.getElem?_eq_getElem hposition]
  · simp [hsame]

theorem numStations_assignBssProperty (property : ByteString × PropertyValue) (info : BssInfo)
    (hkey : property.1 ∈ bssKeys) :
    (assignBssProperty property info).numStations =
      if property.1 = ProtocolHostapd.PropertyNameBssNumStations then
        parseInt property.2.value info.numStations
      else info.numStations := by
  obtain ⟨key, value⟩ := property
  simp only [bssKeys, List.mem_cons, List.not_mem_nil, or_false] at hkey
  rcases hkey with rfl | rfl | rfl | rfl <;> rfl

-- The value at the index of the property is assigned, and no other.
theorem read_assignBss {index : Nat} (hkey : property.1 ∈ bssKeys)
    (h : WpaStatusResponseParser.assignBss bssCapacity status property.2.index
      (assignBssProperty property) = .ok next) :
    (NumStations index).read next =
      if property.1 = (NumStations index).key then
        (NumStations index).assign ((NumStations index).read status) property.2
      else (NumStations index).read status := by
  obtain ⟨added, position, hindex, hlt, rfl⟩ := assignBss_ok h
  have hposition : position < (status.bss ++ List.replicate added ({} : BssInfo)).length := by
    rwa [List.length_append, List.length_replicate]
  have hold : stationsAt status.bss position =
      (status.bss ++ List.replicate added ({} : BssInfo))[position].numStations := by
    rw [← stationsAt_append status.bss added position, stationsAt,
      List.getElem?_eq_getElem hposition]
    rfl
  change stationsAt _ index = if _ then assign _ (stationsAt status.bss index) _
    else stationsAt status.bss index
  rw [stationsAt_modify _ hposition, stationsAt_append, numStations_assignBssProperty _ _ hkey,
    ← hold]
  by_cases hsame : position = index
  · subst hsame
    simp [key, assign, isFor, hindex]
  · have hother : ¬(some position = some index) := fun heq => hsame (Option.some.inj heq)
    simp [assign, isFor, hindex, hsame, hother]

theorem read_assignProperty (integer : StatusInteger)
    (h : WpaStatusResponseParser.assignProperty bssCapacity status property = .ok next) :
    integer.read next =
      if property.1 = integer.key then integer.assign (integer.read status) property.2
      else integer.read status := by
  by_cases hbss : property.1 ∈ bssKeys
  · rw [assignProperty_bss hbss] at h
    cases integer with
    | NumStations index => exact read_assignBss hbss h
    | _ =>
        obtain ⟨added, position, -, -, rfl⟩ := assignBss_ok h
        rw [if_neg]
        · rfl
        · intro hkey
          rw [hkey] at hbss
          revert hbss
          decide
  · by_cases hkey : property.1 = integer.key
    · obtain ⟨key, value⟩ := property
      obtain rfl : key = integer.key := hkey
      rw [if_pos rfl]
      exact read_assignProperty_key hbss h
    · rw [if_neg hkey]
      exact read_assignProperty_ne hbss hkey h

end Step

section Run

variable {bssCapacity : BssCapacity} {traversal : Table.Traversal ByteString PropertyValue}
  {status : HostapdStatus} {payload : ByteString}

theorem read_parsePayload {properties : Properties}
    (h : WpaStatusResponseParser.parsePayload bssCapacity traversal properties = .ok status)
    (integer : StatusInteger) :
    integer.read status = (properties.lookup integer.key).elim 0 (integer.assign 0) := by
  have hfold := foldlM_field (WpaStatusResponseParser.assignProperty bssCapacity) integer.read
    (fun field entry => if entry.1 = integer.key then integer.assign field entry.2 else field)
    (traversal.visit properties) {} status (fun _ _ _ => integer.read_assignProperty) h
  have hstart : integer.read {} = 0 := by cases integer <;> rfl
  rw [hfold, hstart, traversal.foldl_key]

theorem elim_text (integer : StatusInteger) :
    ((properties payload).lookup integer.key).elim 0 (integer.assign 0) =
      (integer.text payload).elim 0 fun written => parseInt written 0 := by
  rw [lookup_properties_eq, text]
  cases lastNamed payload integer.key with
  | none => rfl
  | some entry =>
      by_cases hfor : integer.isFor entry.2
      · simp [assign, hfor]
      · simp [assign, hfor]

theorem read_parse
    (h : WpaStatusResponseParser.parse bssCapacity traversal payload = .ok (some status))
    (integer : StatusInteger) :
    integer.read status = (integer.text payload).elim 0 fun written => parseInt written 0 := by
  have hreadable := ((parseStatus_ok_iff bssCapacity traversal payload).mp ⟨_, h⟩).1
  rw [parse_readable hreadable] at h
  cases hpayload :
    WpaStatusResponseParser.parsePayload bssCapacity traversal (properties payload) with
  | error fault =>
      rw [hpayload] at h
      cases h
  | ok parsed =>
      rw [hpayload] at h
      obtain rfl : parsed = status := Option.some.inj (Except.ok.inj h)
      rw [read_parsePayload hpayload integer, elim_text]

end Run

end StatusInteger

section Status

variable (bssCapacity : BssCapacity) (traversal : Table.Traversal ByteString PropertyValue)
  (payload : ByteString)

def StatusSettled : Prop :=
  ∀ status, WpaStatusResponseParser.parse bssCapacity traversal payload = .ok (some status) →
    ∀ integer : StatusInteger, Settled (integer.text payload) 0 id (integer.read status)

-- No more than a zero is followed by anything.
def StatusWhole : Prop :=
  ∀ (integer : StatusInteger) (written : ByteString), integer.text payload = some written →
    ∀ n, LeadingInt written n → IsInt written n ∨ n = 0

def Answered : Prop := (∀ line ∈ lines payload, readable line) ∧ BssIndexed bssCapacity payload

theorem settled_read_iff (text : Option ByteString) :
    Settled text 0 id (text.elim 0 fun written => parseInt written 0) ↔
      ∀ written, text = some written → ∀ n, LeadingInt written n → IsInt written n ∨ n = 0 := by
  cases text with
  | none => exact iff_of_true (settled_none_iff.mpr rfl) nofun
  | some written =>
      rw [Option.elim_some, settled_parseInt_iff]
      constructor
      · rintro h other hother
        obtain rfl := Option.some.inj hother
        exact h
      · intro h
        exact h written rfl

theorem status_settled_iff :
    StatusSettled bssCapacity traversal payload ↔
      (Answered bssCapacity payload → StatusWhole payload) := by
  constructor
  · intro h hanswered integer
    obtain ⟨response, hresponse⟩ := (parseStatus_ok_iff bssCapacity traversal payload).mpr hanswered
    cases response with
    | none => exact absurd hresponse (parseStatus_ne_none bssCapacity traversal payload)
    | some status =>
        have hsettled := h status hresponse integer
        rwa [StatusInteger.read_parse hresponse, settled_read_iff] at hsettled
  · intro h status hresponse integer
    have hanswered := (parseStatus_ok_iff bssCapacity traversal payload).mp ⟨_, hresponse⟩
    rw [StatusInteger.read_parse hresponse, settled_read_iff]
    exact h hanswered integer

end Status

section Configuration

variable (traversal : Table.Traversal ByteString PropertyValue) (payload : ByteString)

def securityProtocol (n : Int) : WpaSecurityProtocol := ⟨UInt32.ofInt n⟩

def wpaText : Option ByteString :=
  (lastNamed payload ProtocolHostapd.ResponseGetConfigPropertyKeyWpa).map fun entry =>
    entry.2.value

-- Whatever the local variable holds, the field shows nothing of it.
def ConfigurationSettled : Prop :=
  ∀ uninitialized configuration,
    WpaGetConfigResponseParser.parse traversal uninitialized payload = .ok (some configuration) →
      Settled (wpaText payload) .Unknown securityProtocol configuration.wpa

def WpaWhole : Prop :=
  ∀ written, wpaText payload = some written → ∃ n, LeadingInt written n ∧ (IsInt written n ∨ n = 0)

theorem wpa_assignProperty (uninitialized : Int) (configuration : HostapdBssConfiguration)
    (property : ByteString × PropertyValue) :
    (WpaGetConfigResponseParser.assignProperty uninitialized configuration property).wpa =
      if property.1 = ProtocolHostapd.ResponseGetConfigPropertyKeyWpa then
        securityProtocol (parseInt property.2.value uninitialized)
      else configuration.wpa := by
  obtain ⟨key, value⟩ := property
  by_cases hkey : key = ProtocolHostapd.ResponseGetConfigPropertyKeyWpa
  · subst hkey
    rfl
  · simp only [WpaGetConfigResponseParser.assignProperty, hkey, if_false]
    split_ifs <;> rfl

theorem wpa_parsePayload (uninitialized : Int) (properties : Properties) :
    (WpaGetConfigResponseParser.parsePayload traversal uninitialized properties).wpa =
      (properties.lookup ProtocolHostapd.ResponseGetConfigPropertyKeyWpa).elim .Unknown
        fun value => securityProtocol (parseInt value.value uninitialized) := by
  rw [← traversal.foldl_key properties ProtocolHostapd.ResponseGetConfigPropertyKeyWpa
    (fun _ value => securityProtocol (parseInt value.value uninitialized))]
  exact (List.foldl_hom HostapdBssConfiguration.wpa fun configuration property =>
    (wpa_assignProperty uninitialized configuration property).symm).symm

theorem wpa_parse {uninitialized : Int} {configuration : HostapdBssConfiguration}
    (h : WpaGetConfigResponseParser.parse traversal uninitialized payload =
      .ok (some configuration)) :
    configuration.wpa = (wpaText payload).elim .Unknown fun written =>
      securityProtocol (parseInt written uninitialized) := by
  have hreadable := (parseConfiguration_ok_iff traversal uninitialized payload).mp ⟨_, h⟩
  rw [WpaGetConfigResponseParser.parse, tryParse_readable (by decide) hreadable] at h
  obtain rfl := Option.some.inj (Except.ok.inj h)
  rw [wpa_parsePayload, lookup_properties_eq, wpaText]
  cases lastNamed payload ProtocolHostapd.ResponseGetConfigPropertyKeyWpa <;> rfl

theorem securityProtocol_eq_unknown_iff {n : Int} (h : InRange n) :
    securityProtocol n = .Unknown ↔ n = 0 := by
  obtain ⟨hlower, hupper⟩ := h
  have hvalue : securityProtocol n = .Unknown ↔ UInt32.ofInt n = 0 := by
    simp [securityProtocol, WpaSecurityProtocol.Unknown]
  rw [hvalue, ← UInt32.toNat_inj, UInt32.ofInt, UInt32.toNat_ofNat', UInt32.toNat_zero]
  omega

theorem configuration_settled_iff :
    ConfigurationSettled traversal payload ↔
      ((∀ line ∈ lines payload, readable line) → WpaWhole payload) := by
  constructor
  · intro h hreadable written hwritten
    -- Any number but zero betrays itself.
    obtain ⟨response, hresponse⟩ := (parseConfiguration_ok_iff traversal 1 payload).mpr hreadable
    cases response with
    | none => exact absurd hresponse (parseConfiguration_ne_none traversal 1 payload)
    | some configuration =>
        have hsettled := h 1 configuration hresponse
        rw [wpa_parse traversal payload hresponse, hwritten, Option.elim_some] at hsettled
        by_cases hleading : ∃ n, LeadingInt written n
        · obtain ⟨n, hn⟩ := hleading
          refine ⟨n, hn, ?_⟩
          by_cases hwhole : ∃ m, IsInt written m
          · obtain ⟨m, hm⟩ := hwhole
            obtain rfl := hm.leading.unique hn
            exact .inl hm
          · rw [settled_of_not_isInt fun m hm => hwhole ⟨m, hm⟩, parseInt_leading hn,
              securityProtocol_eq_unknown_iff hn.inRange] at hsettled
            exact .inr hsettled
        · have hnone : ∀ n, ¬LeadingInt written n := fun n hn => hleading ⟨n, hn⟩
          rw [settled_of_not_isInt fun m hm => hnone m hm.leading, parseInt_no_leading hnone]
            at hsettled
          exact absurd hsettled (by decide)
  · intro h uninitialized configuration hresponse
    have hreadable := (parseConfiguration_ok_iff traversal uninitialized payload).mp ⟨_, hresponse⟩
    rw [wpa_parse traversal payload hresponse]
    cases hwritten : wpaText payload with
    | none => exact settled_none_iff.mpr rfl
    | some written =>
        obtain ⟨n, hn, hwhole⟩ := h hreadable written hwritten
        rw [Option.elim_some, parseInt_leading hn]
        by_cases hisInt : IsInt written n
        · exact (settled_of_isInt hisInt).mpr rfl
        · obtain rfl := hwhole.resolve_left hisInt
          refine (settled_of_not_isInt ?_).mpr rfl
          intro m hm
          obtain rfl := hm.leading.unique hn
          exact hisInt hm

end Configuration

-- An integer of an answer is all-or-nothing exactly when no number but zero has
-- anything behind it, and the one that goes into an uninitialized variable is there.
theorem integers_settled_iff (bssCapacity : BssCapacity)
    (traversal : Table.Traversal ByteString PropertyValue) (payload : ByteString) :
    (StatusSettled bssCapacity traversal payload ↔
        (Answered bssCapacity payload → StatusWhole payload)) ∧
      (ConfigurationSettled traversal payload ↔
        ((∀ line ∈ lines payload, readable line) → WpaWhole payload)) ∧
      ∀ text, (∀ valueInt, Settled (some text) valueInt id (parseInt text valueInt)) ↔
        ∀ n, LeadingInt text n → IsInt text n :=
  ⟨status_settled_iff bssCapacity traversal payload, configuration_settled_iff traversal payload,
    parseInt_settled_iff⟩

-- A number with a letter behind it, and no number for the security protocol.
theorem integers_unsettled :
    ¬StatusSettled default default (str "ieee80211n=1x") ∧
      ¬ConfigurationSettled default (str "wpa=x") := by
  constructor
  · intro h
    have hparse : WpaStatusResponseParser.parse default default (str "ieee80211n=1x") =
        .ok (some { ieee80211n := 1 }) := by decide +kernel
    have htext : StatusInteger.Ieee80211n.text (str "ieee80211n=1x") = some (str "1x") := by
      decide +kernel
    have hsettled := h _ hparse .Ieee80211n
    have hnot : ∀ n, ¬IsInt (str "1x") n := not_isInt (by decide)
    rw [htext, settled_of_not_isInt hnot] at hsettled
    exact absurd hsettled (by decide)
  · intro h
    have hparse : WpaGetConfigResponseParser.parse default 7 (str "wpa=x") =
        .ok (some { wpa := ⟨7⟩ }) := by decide +kernel
    have htext : wpaText (str "wpa=x") = some (str "x") := by decide +kernel
    have hsettled := h 7 _ hparse
    have hnot : ∀ n, ¬IsInt (str "x") n := not_isInt (by decide)
    rw [htext, settled_of_not_isInt hnot] at hsettled
    exact absurd hsettled (by decide)

end NetRemote.Wpa.WpaResponseParser
