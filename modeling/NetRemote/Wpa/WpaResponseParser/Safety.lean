import NetRemote.Wpa.WpaResponseParser.Theorems

namespace NetRemote.Wpa.WpaResponseParser

open Foundation Foundation.Bytes

-- Where the brackets of a key are, in a line that is not skipped.
def bracketsIn (line : ByteString) : Option (Nat × Nat) :=
  match split ProtocolWpa.KeyValueDelimiter line with
  | key :: _ :: _ =>
      if key = [] then none
      else do
        let indexStart ← key.findIdx? (· = ProtocolWpa.KeyValueIndexDelimeterStart)
        let indexEnd ← key.findIdx? (· = ProtocolWpa.KeyValueIndexDelimeterEnd)
        some (indexStart, indexEnd)
  | _ => none

-- The length of an index string is computed without wrapping around.
def Unwrapped (line : ByteString) : Prop :=
  ∀ brackets ∈ bracketsIn line,
    ((brackets.2 + 2 ^ 64 - brackets.1 - 1) % 2 ^ 64 : Nat) = (brackets.2 : Int) - brackets.1 - 1

def Ordered (line : ByteString) : Prop :=
  ∀ brackets ∈ bracketsIn line, brackets.1 < brackets.2

instance (line : ByteString) : Decidable (Ordered line) :=
  inferInstanceAs (Decidable (∀ brackets ∈ bracketsIn line, brackets.1 < brackets.2))

-- What is left of the lines with a given name.
def lastNamed (payload key : ByteString) : Option (ByteString × PropertyValue) :=
  ((lines payload).filterMap property).reverse.find? fun entry => entry.1 = key

-- Parsing returns. In particular no number fails to be converted, no absent index
-- is accessed, the vector grows no further than it can, and no access is out of its
-- bounds; and nothing that is computed for an index wraps around.
structure StatusSafe (bssCapacity : BssCapacity)
    (traversal : Table.Traversal ByteString PropertyValue) (payload : ByteString) : Prop where
  returns : ∃ response, WpaStatusResponseParser.parse bssCapacity traversal payload = .ok response
  unwrapped : ∀ line ∈ lines payload, Unwrapped line
  sizes : ∀ key ∈ bssKeys, ∀ entry ∈ lastNamed payload key, ∀ index ∈ entry.2.index,
    (index + 1) % 2 ^ 64 = index + 1

structure ConfigurationSafe (traversal : Table.Traversal ByteString PropertyValue)
    (uninitialized : Int) (payload : ByteString) : Prop where
  returns : ∃ response,
    WpaGetConfigResponseParser.parse traversal uninitialized payload = .ok response
  unwrapped : ∀ line ∈ lines payload, Unwrapped line

structure WellIndexed (payload : ByteString) : Prop where
  ordered : ∀ line ∈ lines payload, Ordered line
  readable : ∀ line ∈ lines payload, readable line

def BssIndexed (bssCapacity : BssCapacity) (payload : ByteString) : Prop :=
  ∀ key ∈ bssKeys, ∀ entry ∈ lastNamed payload key,
    ∃ index, entry.2.index = some index ∧ index < bssCapacity.entries

section Brackets

variable {payload : ByteString}

theorem length_le_of_mem_intercalate {delimiter : UInt8} {parts : List ByteString}
    {part : ByteString} (h : part ∈ parts) :
    part.length ≤ ([delimiter].intercalate parts).length := by
  induction parts with
  | nil => cases h
  | cons first rest ih =>
      cases rest with
      | nil =>
          obtain rfl := List.mem_singleton.mp h
          simp
      | cons second rest =>
          rw [List.intercalate_cons_cons, List.length_append, List.length_append]
          rcases List.mem_cons.mp h with rfl | hrest
          · omega
          · have hle := ih hrest
            omega

theorem length_le_of_mem_split {delimiter : UInt8} {text part : ByteString}
    (h : part ∈ split delimiter text) : part.length ≤ text.length := by
  unfold split at h
  by_cases hempty : text = []
  · rw [if_pos hempty] at h
    cases h
  · rw [if_neg hempty] at h
    have hle : part.length ≤ ([delimiter].intercalate (text.splitOn delimiter)).length :=
      length_le_of_mem_intercalate h
    rwa [List.intercalate_splitOn] at hle

-- The brackets are positions in the key, and the key is no longer than the payload.
theorem bracketsIn_lt {line : ByteString} {brackets : Nat × Nat} (hline : line ∈ lines payload)
    (h : bracketsIn line = some brackets) :
    brackets.1 < payload.length ∧ brackets.2 < payload.length ∧ brackets.1 ≠ brackets.2 := by
  have hlength : line.length ≤ payload.length := length_le_of_mem_split hline
  unfold bracketsIn at h
  cases hsplit : split ProtocolWpa.KeyValueDelimiter line with
  | nil => simp [hsplit] at h
  | cons key rest =>
      cases rest with
      | nil => simp [hsplit] at h
      | cons value rest =>
          rw [hsplit] at h
          have hkey : key.length ≤ line.length :=
            length_le_of_mem_split (hsplit ▸ List.mem_cons_self)
          by_cases hempty : key = []
          · simp [hempty] at h
          · simp only [if_neg hempty, Option.bind_eq_bind, Option.bind_eq_some_iff] at h
            obtain ⟨indexStart, hstart, indexEnd, hend, hbrackets⟩ := h
            obtain rfl := Option.some.inj hbrackets
            obtain ⟨hstartLt, hstartByte, _⟩ := List.findIdx?_eq_some_iff_getElem.mp hstart
            obtain ⟨hendLt, hendByte, _⟩ := List.findIdx?_eq_some_iff_getElem.mp hend
            refine ⟨by omega, by omega, ?_⟩
            intro hsame
            obtain rfl : indexStart = indexEnd := hsame
            simp only [decide_eq_true_eq] at hstartByte hendByte
            rw [hstartByte] at hendByte
            revert hendByte
            decide

theorem unwrapped_iff {line : ByteString} (hlength : payload.length ≤ 4096)
    (hline : line ∈ lines payload) : Unwrapped line ↔ Ordered line := by
  constructor
  · intro h brackets hbrackets
    have hexact := h brackets hbrackets
    obtain ⟨hstart, hend, hne⟩ := bracketsIn_lt hline hbrackets
    omega
  · intro h brackets hbrackets
    have hlt := h brackets hbrackets
    obtain ⟨hstart, hend, hne⟩ := bracketsIn_lt hline hbrackets
    omega

end Brackets

section Bss

variable {bssCapacity : BssCapacity} {traversal : Table.Traversal ByteString PropertyValue}
  {payload : ByteString}

def Assignable (bssCapacity : BssCapacity) (property : ByteString × PropertyValue) : Prop :=
  property.1 ∈ bssKeys → ∃ index, property.2.index = some index ∧ index < bssCapacity.entries

theorem entries_lt (bssCapacity : BssCapacity) : bssCapacity.entries < 2 ^ 64 :=
  lt_of_le_of_lt bssCapacity.le_max (by decide)

theorem assignBss_in_range {status : HostapdStatus} {index : Nat} (assign : BssInfo → BssInfo)
    (hindex : index < bssCapacity.entries) (hlength : status.bss.length ≤ bssCapacity.entries) :
    ∃ next, WpaStatusResponseParser.assignBss bssCapacity status (some index) assign = .ok next ∧
      next.bss.length ≤ bssCapacity.entries := by
  have hmax := bssCapacity.le_max
  have hlt := entries_lt bssCapacity
  have hsize : (index + 1) % 2 ^ 64 = index + 1 := Nat.mod_eq_of_lt (by omega)
  simp only [WpaStatusResponseParser.assignBss, hsize,
    WpaStatusResponseParser.enforceRequiredBssInfoSize]
  by_cases hgrow : status.bss.length < index + 1
  · have hnew : index < (status.bss ++
        List.replicate (index + 1 - status.bss.length) ({} : BssInfo)).length := by
      rw [List.length_append, List.length_replicate]
      omega
    rw [if_pos hgrow, if_neg (by omega), if_neg (by omega)]
    refine ⟨_, if_pos hnew, ?_⟩
    simp only [List.length_modify, List.length_append, List.length_replicate]
    omega
  · rw [if_neg hgrow]
    refine ⟨_, if_pos (by omega), ?_⟩
    simpa using hlength

-- An index that is absent or too large always fails, in one of five ways.
theorem assignBss_out_of_range {status : HostapdStatus} {index : Option Nat}
    (assign : BssInfo → BssInfo) (hindex : ∀ position ∈ index, bssCapacity.entries ≤ position)
    (hlength : status.bss.length ≤ bssCapacity.entries) :
    ∃ fault, WpaStatusResponseParser.assignBss bssCapacity status index assign = .error fault := by
  cases index with
  | none => exact ⟨_, rfl⟩
  | some position =>
      have hlarge := hindex position rfl
      simp only [WpaStatusResponseParser.assignBss,
        WpaStatusResponseParser.enforceRequiredBssInfoSize]
      by_cases hgrow : status.bss.length < (position + 1) % 2 ^ 64
      · by_cases hmax : bssSizeMax < (position + 1) % 2 ^ 64
        · rw [if_pos hgrow, if_pos hmax]
          exact ⟨_, rfl⟩
        · rw [if_pos hgrow, if_neg hmax]
          by_cases hroom : bssCapacity.entries < (position + 1) % 2 ^ 64
          · rw [if_pos hroom]
            exact ⟨_, rfl⟩
          · have hnew : ¬ position < (status.bss ++ List.replicate
                ((position + 1) % 2 ^ 64 - status.bss.length) ({} : BssInfo)).length := by
              rw [List.length_append, List.length_replicate]
              omega
            rw [if_neg hroom]
            exact ⟨_, if_neg hnew⟩
      · rw [if_neg hgrow]
        exact ⟨_, if_neg (by omega)⟩

theorem parsePayload_ok_iff (bssCapacity : BssCapacity)
    (traversal : Table.Traversal ByteString PropertyValue) (properties : Properties) :
    (∃ status, WpaStatusResponseParser.parsePayload bssCapacity traversal properties = .ok status) ↔
      ∀ property ∈ traversal.visit properties, Assignable bssCapacity property := by
  apply foldlM_ok_iff (WpaStatusResponseParser.assignProperty bssCapacity)
    (fun status => status.bss.length ≤ bssCapacity.entries) (Assignable bssCapacity)
  · intro status hlength property _ hassignable
    by_cases hkey : property.1 ∈ bssKeys
    · obtain ⟨index, hindex, hlt⟩ := hassignable hkey
      rw [assignProperty_bss hkey, hindex]
      exact assignBss_in_range _ hlt hlength
    · obtain ⟨next, hok, hbss⟩ := assignProperty_other status hkey
      exact ⟨next, hok, by rw [hbss]; exact hlength⟩
  · intro status hlength property _ hunassignable
    unfold Assignable at hunassignable
    push Not at hunassignable
    obtain ⟨hkey, hindex⟩ := hunassignable
    rw [assignProperty_bss hkey]
    exact assignBss_out_of_range _ hindex hlength
  · exact Nat.zero_le _

theorem lookup_properties_eq (payload key : ByteString) :
    (properties payload).lookup key = (lastNamed payload key).map Prod.snd :=
  Table.lookup_foldl_insert _ _

theorem assignable_iff_bssIndexed :
    (∀ property ∈ traversal.visit (properties payload), Assignable bssCapacity property) ↔
      BssIndexed bssCapacity payload := by
  constructor
  · intro h key hkey entry hentry
    have hname : entry.1 = key := by simpa using List.find?_some hentry
    have hlookup : (properties payload).lookup key = some entry.2 := by
      rw [lookup_properties_eq, hentry]
      rfl
    exact h (key, entry.2) (traversal.mem_visit.mpr hlookup) hkey
  · rintro h ⟨key, value⟩ hmem hkey
    have hlookup := traversal.mem_visit.mp hmem
    rw [lookup_properties_eq, Option.map_eq_some_iff] at hlookup
    obtain ⟨entry, hentry, rfl⟩ := hlookup
    exact h key hkey entry hentry

end Bss

theorem parseStatus_ok_iff (bssCapacity : BssCapacity)
    (traversal : Table.Traversal ByteString PropertyValue) (payload : ByteString) :
    (∃ response, WpaStatusResponseParser.parse bssCapacity traversal payload = .ok response) ↔
      (∀ line ∈ lines payload, readable line) ∧ BssIndexed bssCapacity payload := by
  by_cases hreadable : ∀ line ∈ lines payload, readable line
  · rw [and_iff_right hreadable, ← assignable_iff_bssIndexed,
      ← parsePayload_ok_iff bssCapacity traversal, parse_readable hreadable]
    cases WpaStatusResponseParser.parsePayload bssCapacity traversal (properties payload) with
    | error fault => simp [Except.map]
    | ok status => simp [Except.map]
  · obtain ⟨fault, hfault⟩ := parse_unreadable bssCapacity traversal hreadable
    rw [hfault]
    constructor
    · rintro ⟨response, hresponse⟩
      cases hresponse
    · rintro ⟨h, _⟩
      exact absurd h hreadable

theorem parseConfiguration_ok_iff (traversal : Table.Traversal ByteString PropertyValue)
    (uninitialized : Int) (payload : ByteString) :
    (∃ response,
      WpaGetConfigResponseParser.parse traversal uninitialized payload = .ok response) ↔
      ∀ line ∈ lines payload, readable line := by
  have hparse : WpaGetConfigResponseParser.propertiesToParse ≠ [] := by decide
  unfold WpaGetConfigResponseParser.parse
  by_cases hreadable : ∀ line ∈ lines payload, readable line
  · rw [tryParse_readable hparse hreadable]
    exact ⟨fun _ => hreadable, fun _ => ⟨_, rfl⟩⟩
  · obtain ⟨fault, hfault⟩ := tryParse_unreadable hparse hreadable
    rw [hfault]
    constructor
    · rintro ⟨response, hresponse⟩
      cases hresponse
    · exact fun h => absurd h hreadable

theorem parse_safe_iff (bssCapacity : BssCapacity)
    (traversal : Table.Traversal ByteString PropertyValue) (uninitialized : Int)
    (payload : ByteString) (hlength : payload.length ≤ 4096) :
    (StatusSafe bssCapacity traversal payload ↔
        WellIndexed payload ∧ BssIndexed bssCapacity payload) ∧
      (ConfigurationSafe traversal uninitialized payload ↔ WellIndexed payload) := by
  have hordered : (∀ line ∈ lines payload, Unwrapped line) ↔ ∀ line ∈ lines payload, Ordered line :=
    forall₂_congr fun line hline => unwrapped_iff hlength hline
  constructor
  · constructor
    · rintro ⟨hreturns, hunwrapped, _⟩
      obtain ⟨hreadable, hindexed⟩ := (parseStatus_ok_iff bssCapacity traversal payload).mp hreturns
      exact ⟨⟨hordered.mp hunwrapped, hreadable⟩, hindexed⟩
    · rintro ⟨⟨hinOrder, hreadable⟩, hindexed⟩
      refine ⟨(parseStatus_ok_iff bssCapacity traversal payload).mpr ⟨hreadable, hindexed⟩,
        hordered.mpr hinOrder, ?_⟩
      intro key hkey entry hentry index hindex
      obtain ⟨position, hposition, hlt⟩ := hindexed key hkey entry hentry
      obtain rfl : position = index := Option.some.inj (hposition.symm.trans hindex)
      have hmax := entries_lt bssCapacity
      exact Nat.mod_eq_of_lt (by omega)
  · constructor
    · rintro ⟨hreturns, hunwrapped⟩
      exact ⟨hordered.mp hunwrapped,
        (parseConfiguration_ok_iff traversal uninitialized payload).mp hreturns⟩
    · rintro ⟨hinOrder, hreadable⟩
      exact ⟨(parseConfiguration_ok_iff traversal uninitialized payload).mpr hreadable,
        hordered.mpr hinOrder⟩

theorem parse_safe_guest : ConfigurationSafe default 0 (str "ssid=guest\nwpa=2") := by
  apply ((parse_safe_iff default default 0 (str "ssid=guest\nwpa=2") (by decide)).2).mpr
  exact ⟨by decide, by decide⟩

-- A memory for a million entries.
def millionEntries : BssCapacity := ⟨1000000, by decide, by decide⟩

-- An SSID that comes without its index, an index for which there is no memory, and one
-- that is no number.
theorem parse_throws_guest :
    WpaStatusResponseParser.parse default default (str "ssid=guest") =
        .error (.Std .BadOptionalAccess) ∧
      ¬ StatusSafe default default (str "ssid=guest") ∧
      WpaStatusResponseParser.parse millionEntries default (str "bss[10000000000]=x") =
        .error (.Std .BadAlloc) ∧
      ¬ StatusSafe millionEntries default (str "bss[10000000000]=x") ∧
      WpaGetConfigResponseParser.parse default 0 (str "ssid[x]=guest") =
        .error (.Std .InvalidArgument) ∧
      ¬ ConfigurationSafe default 0 (str "ssid[x]=guest") := by
  have hstatus : WpaStatusResponseParser.parse default default (str "ssid=guest") =
      .error (.Std .BadOptionalAccess) := by decide +kernel
  have hlarge : WpaStatusResponseParser.parse millionEntries default (str "bss[10000000000]=x") =
      .error (.Std .BadAlloc) := by decide +kernel
  have hconfiguration : WpaGetConfigResponseParser.parse default 0 (str "ssid[x]=guest") =
      .error (.Std .InvalidArgument) := by decide +kernel
  refine ⟨hstatus, ?_, hlarge, ?_, hconfiguration, ?_⟩
  · rintro ⟨⟨response, hresponse⟩, _⟩
    rw [hstatus] at hresponse
    cases hresponse
  · rintro ⟨⟨response, hresponse⟩, _⟩
    rw [hlarge] at hresponse
    cases hresponse
  · rintro ⟨⟨response, hresponse⟩, _⟩
    rw [hconfiguration] at hresponse
    cases hresponse

end NetRemote.Wpa.WpaResponseParser
