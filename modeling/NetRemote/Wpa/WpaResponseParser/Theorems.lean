import NetRemote.Wpa.WpaResponseParser

namespace NetRemote.Wpa

open Foundation Foundation.Bytes WpaResponseParser

-- A text that can stand as a value in a status response.
abbrev StatusText :=
  { text : ByteString // text ≠ [] ∧ ∀ byte ∈ text, byte ∉ [10, 61, 91, 93] }

structure BssRecord where
  interface : StatusText
  bssid : StatusText
  ssid : StatusText
  numSta : { n : Nat // n < 2 ^ 31 }

def bssKeys : List ByteString :=
  [ProtocolHostapd.PropertyNameBss, ProtocolHostapd.PropertyNameBssBssid,
    ProtocolHostapd.PropertyNameBssSsid, ProtocolHostapd.PropertyNameBssNumStations]

def indexedLine (key : ByteString) (index : Nat) (value : ByteString) : ByteString :=
  key ++ [91] ++ decimal index ++ [93] ++ 61 :: value

def BssRecord.lines (record : BssRecord) (index : Nat) : List ByteString :=
  [indexedLine ProtocolHostapd.PropertyNameBss index record.interface,
    indexedLine ProtocolHostapd.PropertyNameBssBssid index record.bssid,
    indexedLine ProtocolHostapd.PropertyNameBssSsid index record.ssid,
    indexedLine ProtocolHostapd.PropertyNameBssNumStations index (decimal record.numSta)]

def bssLines (records : List BssRecord) : List ByteString :=
  records.zipIdx.flatMap fun entry => entry.1.lines entry.2

def isBssLine (line : ByteString) : Bool :=
  match readLine line with
  | some keyValueLine => keyValueLine.key ∈ bssKeys
  | none => false

-- The payload has the lines of the records, in any order and among any others,
-- and says nothing else about a BSS.
structure Reports (payload : ByteString) (records : List BssRecord) : Prop where
  complete : ∀ line ∈ bssLines records, line ∈ lines payload
  only : ∀ line ∈ lines payload, isBssLine line → line ∈ bssLines records

structure Carries (bss : BssInfo) (record : BssRecord) : Prop where
  interface : bss.interface = record.interface
  bssid : bss.bssid = record.bssid
  ssid : bss.ssid = record.ssid
  numStations : bss.numStations = (record.numSta : Nat)

def Lossless (bssCapacity : BssCapacity) (traversal : Table.Traversal ByteString PropertyValue)
    (payload : ByteString) (records : List BssRecord) : Prop :=
  ∃ status, WpaStatusResponseParser.parse bssCapacity traversal payload = .ok (some status) ∧
    List.Forall₂ Carries status.bss records

-- `std::stoul` throws for an index that does not start with a number in range.
def readable (line : ByteString) : Bool :=
  match readLine line with
  | some keyValueLine => (toProperty keyValueLine).isOk
  | none => true

section Lines

-- What a line adds to the properties.
def property (line : ByteString) : Option (ByteString × PropertyValue) :=
  (readLine line).bind fun keyValueLine => (toProperty keyValueLine).toOption

theorem addLine_readable {line : ByteString} (h : readable line) (properties : Properties) :
    addLine properties line =
      .ok ((property line).elim properties fun entry => properties.insert entry.1 entry.2) := by
  unfold readable at h
  unfold addLine property
  cases hline : readLine line with
  | none => rfl
  | some keyValueLine =>
      rw [hline] at h
      cases hproperty : toProperty keyValueLine with
      | error fault => simp [hproperty, Except.isOk, Except.toBool] at h
      | ok entry => simp [hproperty, Except.toOption, bind, Except.bind]

theorem addLine_unreadable {line : ByteString} (h : readable line = false)
    (properties : Properties) : ∃ fault, addLine properties line = .error fault := by
  unfold readable at h
  unfold addLine
  cases hline : readLine line with
  | none => simp [hline] at h
  | some keyValueLine =>
      rw [hline] at h
      cases hproperty : toProperty keyValueLine with
      | error fault => exact ⟨fault, by simp [hproperty, bind, Except.bind]⟩
      | ok entry => simp [hproperty, Except.isOk, Except.toBool] at h

def properties (payload : ByteString) : Properties :=
  ((lines payload).filterMap property).foldl
    (fun properties entry => properties.insert entry.1 entry.2) ∅

theorem foldl_elim (payloadLines : List ByteString) (start : Properties) :
    payloadLines.foldl (fun properties line =>
        (property line).elim properties fun entry => properties.insert entry.1 entry.2) start =
      (payloadLines.filterMap property).foldl
        (fun properties entry => properties.insert entry.1 entry.2) start := by
  rw [List.foldl_filterMap]
  congr
  funext properties line
  cases property line <;> rfl

theorem tryParse_readable {propertiesToParse : List ByteString} {payload : ByteString}
    (hparse : propertiesToParse ≠ []) (h : ∀ line ∈ lines payload, readable line) :
    tryParseProperties propertiesToParse payload = .ok (true, properties payload) := by
  have hfold := (foldlM_ok addLine
    (fun properties line =>
      (property line).elim properties fun entry => properties.insert entry.1 entry.2)
    (fun _ => True) (lines payload) (∅ : Properties)
    (fun state _ line hline => ⟨addLine_readable (h line hline) state, trivial⟩) trivial).1
  rw [foldl_elim] at hfold
  simp [tryParseProperties, hparse, hfold, properties, bind, Except.bind]

theorem tryParse_unreadable {propertiesToParse : List ByteString} {payload : ByteString}
    (hparse : propertiesToParse ≠ []) (h : ¬ ∀ line ∈ lines payload, readable line) :
    ∃ fault, tryParseProperties propertiesToParse payload = .error fault := by
  simp only [not_forall, Bool.not_eq_true] at h
  obtain ⟨line, hline, hunreadable⟩ := h
  obtain ⟨fault, hfold⟩ := foldlM_error addLine (lines payload) (∅ : Properties)
    ⟨line, hline, addLine_unreadable hunreadable⟩
  exact ⟨fault, by simp [tryParseProperties, hparse, hfold, bind, Except.bind]⟩

-- An entry of the properties stems from a line.
theorem lookup_properties {payload key : ByteString} {value : PropertyValue}
    (h : (properties payload).lookup key = some value) :
    ∃ line ∈ lines payload, property line = some (key, value) := by
  rw [properties, Table.lookup_foldl_insert, Option.map_eq_some_iff] at h
  obtain ⟨entry, hfound, rfl⟩ := h
  have hmem := List.mem_reverse.mp (List.mem_of_find?_eq_some hfound)
  have hkey : entry.1 = key := by simpa using List.find?_some hfound
  obtain ⟨line, hline, hproperty⟩ := List.mem_filterMap.mp hmem
  exact ⟨line, hline, by rw [hproperty, ← hkey]⟩

theorem mem_properties {payload line : ByteString} {entry : ByteString × PropertyValue}
    (hline : line ∈ lines payload) (hproperty : property line = some entry) :
    ∃ value, (properties payload).lookup entry.1 = some value := by
  rw [properties, Table.lookup_foldl_insert]
  have hentry : entry ∈ ((lines payload).filterMap property).reverse :=
    List.mem_reverse.mpr (List.mem_filterMap.mpr ⟨line, hline, hproperty⟩)
  have hfound : (((lines payload).filterMap property).reverse.find?
      fun other => other.1 = entry.1).isSome :=
    List.find?_isSome.mpr ⟨entry, hentry, by simp⟩
  obtain ⟨other, hother⟩ := Option.isSome_iff_exists.mp hfound
  exact ⟨other.2, by rw [hother]; rfl⟩

theorem isBssLine_of_property {line : ByteString} {entry : ByteString × PropertyValue}
    (hproperty : property line = some entry) (hkey : entry.1 ∈ bssKeys) : isBssLine line := by
  obtain ⟨keyValueLine, hread, hentry⟩ := Option.bind_eq_some_iff.mp hproperty
  have hsame : entry.1 = keyValueLine.key := by
    unfold toProperty at hentry
    cases hindex : keyValueLine.indexString with
    | none =>
        simp only [hindex, Except.toOption, Option.some.injEq] at hentry
        rw [← hentry]
    | some indexString =>
        cases hvalue : stoul indexString with
        | error exception => simp [hindex, hvalue, Except.toOption] at hentry
        | ok index =>
            simp only [hindex, hvalue, Except.toOption, Option.some.injEq] at hentry
            rw [← hentry]
  simp [isBssLine, hread, ← hsame, hkey]

end Lines

section Payload

variable {bssCapacity : BssCapacity}

-- The assignment that the second pass makes to the entry of a BSS.
def assignBssProperty (property : ByteString × PropertyValue) (bss : BssInfo) : BssInfo :=
  let value := property.2.value
  if property.1 = ProtocolHostapd.PropertyNameBss then { bss with interface := value }
  else if property.1 = ProtocolHostapd.PropertyNameBssBssid then { bss with bssid := value }
  else if property.1 = ProtocolHostapd.PropertyNameBssSsid then { bss with ssid := value }
  else { bss with numStations := parseInt value bss.numStations }

-- The six properties without an index leave the list of BSS entries alone, and
-- the four with one assign to a single entry of it.
theorem assignProperty_other (status : HostapdStatus)
    {property : ByteString × PropertyValue} (hkey : property.1 ∉ bssKeys) :
    ∃ next, WpaStatusResponseParser.assignProperty bssCapacity status property = .ok next ∧
      next.bss = status.bss := by
  simp only [bssKeys, List.mem_cons, List.not_mem_nil, or_false, not_or] at hkey
  simp only [WpaStatusResponseParser.assignProperty, hkey, if_false]
  split_ifs <;> exact ⟨_, rfl, rfl⟩

theorem assignProperty_bss {status : HostapdStatus} {property : ByteString × PropertyValue}
    (hkey : property.1 ∈ bssKeys) :
    WpaStatusResponseParser.assignProperty bssCapacity status property =
      WpaStatusResponseParser.assignBss bssCapacity status property.2.index
        (assignBssProperty property) := by
  obtain ⟨key, value, index⟩ := property
  simp only [bssKeys, List.mem_cons, List.not_mem_nil, or_false] at hkey
  rcases hkey with rfl | rfl | rfl | rfl <;>
    rfl

section Named

-- The interfaces that a list of BSS entries tells apart from the default.
def named (bss : List BssInfo) : Nat := bss.countP fun info => info.interface ≠ []

theorem named_modify_le (bss : List BssInfo) (index : Nat) (assign : BssInfo → BssInfo) :
    named (bss.modify index assign) ≤ named bss + 1 := by
  unfold named
  induction bss generalizing index with
  | nil => simp
  | cons info bss ih =>
      cases index with
      | zero =>
          simp only [List.modify_zero_cons, List.countP_cons]
          split_ifs <;> omega
      | succ index =>
          have hrest := ih index
          simp only [List.modify_succ_cons, List.countP_cons]
          omega

theorem named_modify (bss : List BssInfo) (index : Nat) (assign : BssInfo → BssInfo)
    (h : ∀ info, (assign info).interface = info.interface) :
    named (bss.modify index assign) = named bss := by
  unfold named
  induction bss generalizing index with
  | nil => simp
  | cons info bss ih =>
      cases index with
      | zero => simp [List.countP_cons, h]
      | succ index => simp only [List.modify_succ_cons, List.countP_cons, ih index]

theorem assignBss_ok {status next : HostapdStatus} {index : Option Nat}
    {assign : BssInfo → BssInfo}
    (h : WpaStatusResponseParser.assignBss bssCapacity status index assign = .ok next) :
    ∃ added position, index = some position ∧ position < status.bss.length + added ∧
      next = { status with
        bss := (status.bss ++ List.replicate added ({} : BssInfo)).modify position assign } := by
  cases index with
  | none => simp [WpaStatusResponseParser.assignBss] at h
  | some index =>
      simp only [WpaStatusResponseParser.assignBss,
        WpaStatusResponseParser.enforceRequiredBssInfoSize, bind, Except.bind] at h
      split_ifs at h with hgrow hmax hroom
      · simp only at h
        split_ifs at h with hindex
        cases h
        exact ⟨_, index, rfl, by simpa using hindex, rfl⟩
      · simp only at h
        split_ifs at h with hindex
        cases h
        exact ⟨0, index, rfl, hindex, by simp⟩

theorem assignBssProperty_interface {property : ByteString × PropertyValue}
    (h : property.1 ≠ ProtocolHostapd.PropertyNameBss) (info : BssInfo) :
    (assignBssProperty property info).interface = info.interface := by
  simp only [assignBssProperty, h, if_false]
  split_ifs <;> rfl

theorem named_assignProperty {status next : HostapdStatus}
    {property : ByteString × PropertyValue}
    (h : WpaStatusResponseParser.assignProperty bssCapacity status property = .ok next) :
    named next.bss ≤
      named status.bss + if property.1 = ProtocolHostapd.PropertyNameBss then 1 else 0 := by
  by_cases hkey : property.1 ∈ bssKeys
  · rw [assignProperty_bss hkey] at h
    obtain ⟨added, position, -, -, rfl⟩ := assignBss_ok h
    have hadded : named (status.bss ++ List.replicate added ({} : BssInfo)) = named status.bss := by
      simp [named, List.countP_append, List.countP_replicate]
    by_cases hname : property.1 = ProtocolHostapd.PropertyNameBss
    · rw [if_pos hname, ← hadded]
      exact named_modify_le _ _ _
    · rw [if_neg hname, named_modify _ _ _ (assignBssProperty_interface hname), hadded]
      exact Nat.le_refl _
  · obtain ⟨other, hother, hbss⟩ := assignProperty_other status hkey
    rw [h, Except.ok.injEq] at hother
    rw [hother, hbss]
    exact Nat.le_add_right _ _

-- The properties have one entry for the interface names of all the entries.
theorem named_parsePayload {traversal : Table.Traversal ByteString PropertyValue}
    {properties : Properties} {status : HostapdStatus}
    (h : WpaStatusResponseParser.parsePayload bssCapacity traversal properties = .ok status) :
    named status.bss ≤ 1 := by
  have hmeasure := foldlM_measure_le (WpaStatusResponseParser.assignProperty bssCapacity)
    (fun status => named status.bss)
    (fun property => property.1 == ProtocolHostapd.PropertyNameBss)
    (traversal.visit properties) {} status
    (fun state property next hstep => by simpa using named_assignProperty hstep) h
  have hcount : (traversal.visit properties).countP
      (fun property => property.1 == ProtocolHostapd.PropertyNameBss) ≤ 1 := by
    have hone := List.nodup_iff_count_le_one.mp (traversal.nodup properties)
      ProtocolHostapd.PropertyNameBss
    rw [List.count, List.countP_map] at hone
    simpa [Function.comp_def] using hone
  have hstart : named ({} : HostapdStatus).bss = 0 := rfl
  omega

theorem named_of_carries {bss : List BssInfo} {records : List BssRecord}
    (h : List.Forall₂ Carries bss records) : named bss = records.length := by
  induction h with
  | nil => rfl
  | @cons info record _ _ hcarries _ ih =>
      have hinterface : info.interface ≠ [] := by
        rw [hcarries.interface]
        exact record.interface.property.1
      unfold named at ih ⊢
      rw [List.countP_cons_of_pos (by simpa using hinterface), ih, List.length_cons]

end Named

section Single

-- The only index of a single record is zero, where the list of BSS entries is
-- at most one long throughout.
theorem assignBss_first {status : HostapdStatus} (assign : BssInfo → BssInfo)
    (hlength : status.bss.length ≤ 1) :
    WpaStatusResponseParser.assignBss bssCapacity status (some 0) assign =
      .ok { status with bss := [assign (status.bss.head?.getD {})] } := by
  cases hbss : status.bss with
  | nil =>
      have hroom : ¬ bssCapacity.entries < 1 := Nat.not_lt.mpr bssCapacity.pos
      simp [WpaStatusResponseParser.assignBss, WpaStatusResponseParser.enforceRequiredBssInfoSize,
        hbss, bssSizeMax, hroom, bind, Except.bind]
  | cons info rest =>
      obtain rfl : rest = [] := by
        rw [hbss, List.length_cons] at hlength
        exact List.length_eq_zero_iff.mp (by omega)
      simp [WpaStatusResponseParser.assignBss,
        WpaStatusResponseParser.enforceRequiredBssInfoSize, hbss, bind, Except.bind]

def Singular (property : ByteString × PropertyValue) : Prop :=
  property.1 ∈ bssKeys → property.2.index = some 0

-- What the second pass makes of the properties when all indices are zero.
def single (status : HostapdStatus) (property : ByteString × PropertyValue) : List BssInfo :=
  if property.1 ∈ bssKeys then [assignBssProperty property (status.bss.head?.getD {})]
  else status.bss

theorem assignProperty_single {status : HostapdStatus} {property : ByteString × PropertyValue}
    (hsingular : Singular property) (hlength : status.bss.length ≤ 1) :
    ∃ next, WpaStatusResponseParser.assignProperty bssCapacity status property = .ok next ∧
      next.bss = single status property := by
  unfold single
  by_cases hkey : property.1 ∈ bssKeys
  · rw [assignProperty_bss hkey, hsingular hkey, assignBss_first _ hlength, if_pos hkey]
    exact ⟨_, rfl, rfl⟩
  · rw [if_neg hkey]
    exact assignProperty_other status hkey

def indexed (properties : List (ByteString × PropertyValue)) :
    List (ByteString × PropertyValue) :=
  properties.filter fun property => property.1 ∈ bssKeys

theorem parsePayload_single {properties : List (ByteString × PropertyValue)}
    (status : HostapdStatus) (hsingular : ∀ property ∈ properties, Singular property)
    (hlength : status.bss.length ≤ 1) :
    ∃ final,
      properties.foldlM (WpaStatusResponseParser.assignProperty bssCapacity) status = .ok final ∧
      final.bss =
        if indexed properties = [] then status.bss
        else [(indexed properties).foldl (fun info property => assignBssProperty property info)
          (status.bss.head?.getD {})] := by
  induction properties generalizing status with
  | nil => exact ⟨status, rfl, rfl⟩
  | cons property properties ih =>
      obtain ⟨next, hok, hbss⟩ :=
        assignProperty_single (hsingular property List.mem_cons_self) hlength
      have hnext : next.bss.length ≤ 1 := by
        rw [hbss, single]
        split_ifs <;> simp [hlength]
      obtain ⟨final, hfinal, hfold⟩ :=
        ih next (fun other hother => hsingular other (List.mem_cons_of_mem _ hother)) hnext
      refine ⟨final, by rw [List.foldlM_cons, hok]; exact hfinal, ?_⟩
      rw [hfold, hbss, single]
      by_cases hkey : property.1 ∈ bssKeys
      · have hcons : indexed (property :: properties) = property :: indexed properties :=
          List.filter_cons_of_pos (by simpa using hkey)
        by_cases hrest : indexed properties = []
        · simp [hcons, hkey, hrest]
        · simp [hcons, hkey, hrest]
      · have hskip : indexed (property :: properties) = indexed properties :=
          List.filter_cons_of_neg (by simpa using hkey)
        simp [hskip, hkey]

end Single

end Payload

section Records

variable {payload : ByteString} {records : List BssRecord}

-- What the first pass makes of the lines of a record with index zero.
def BssRecord.entries (record : BssRecord) : List (ByteString × PropertyValue) :=
  [(ProtocolHostapd.PropertyNameBss, ⟨record.interface, some 0⟩),
    (ProtocolHostapd.PropertyNameBssBssid, ⟨record.bssid, some 0⟩),
    (ProtocolHostapd.PropertyNameBssSsid, ⟨record.ssid, some 0⟩),
    (ProtocolHostapd.PropertyNameBssNumStations, ⟨decimal record.numSta, some 0⟩)]

theorem property_indexedLine {key value : ByteString} (hkey : key ∈ bssKeys)
    (hvalue : 61 ∉ value) :
    property (indexedLine key 0 value) = some (key, ⟨value, some 0⟩) := by
  have hdelimiter : (61 : UInt8) ∉ key ++ [91] ++ decimal 0 ++ [93] := by
    revert key
    decide +kernel
  have hkey' : splitKey (key ++ [91] ++ decimal 0 ++ [93]) = (key, some (decimal 0)) := by
    revert key
    decide +kernel
  have hread : readLine (indexedLine key 0 value) = some ⟨key, some (decimal 0), value⟩ := by
    have hsplit : split ProtocolWpa.KeyValueDelimiter (indexedLine key 0 value) =
        [key ++ [91] ++ decimal 0 ++ [93], value] := by
      rw [split, if_neg (by simp [indexedLine]), indexedLine, ProtocolWpa.KeyValueDelimiter,
        List.splitOn_append_cons_self_of_not_mem hdelimiter, List.splitOn_eq_singleton hvalue]
    simp only [readLine, hsplit, hkey']
    simp
  have hindex : stoul (decimal 0) = .ok 0 := stoul_decimal 0 (by decide)
  simp [property, hread, toProperty, hindex, Except.toOption]

theorem not_mem_statusText (text : StatusText) : 61 ∉ (text : ByteString) := by
  intro hmem
  exact text.property.2 61 hmem (by decide)

theorem not_mem_decimal (n : Nat) : 61 ∉ decimal n := by
  intro hmem
  have hdigit := isDigit_decimal hmem
  revert hdigit
  decide

theorem map_property_lines (record : BssRecord) :
    (record.lines 0).map property = record.entries.map some := by
  simp only [BssRecord.lines, BssRecord.entries, List.map_cons, List.map_nil]
  rw [property_indexedLine (by decide) (not_mem_statusText _),
    property_indexedLine (by decide) (not_mem_statusText _),
    property_indexedLine (by decide) (not_mem_statusText _),
    property_indexedLine (by decide) (not_mem_decimal _)]

theorem key_of_mem_entries {record : BssRecord} {entry : ByteString × PropertyValue}
    (h : entry ∈ record.entries) : entry.1 ∈ bssKeys ∧ entry.2.index = some 0 := by
  simp only [BssRecord.entries, List.mem_cons, List.not_mem_nil, or_false] at h
  rcases h with rfl | rfl | rfl | rfl <;> simp [bssKeys]

theorem eq_of_mem_entries {record : BssRecord} {key : ByteString} {value other : PropertyValue}
    (h : (key, value) ∈ record.entries) (hother : (key, other) ∈ record.entries) :
    value = other := by
  have hnodup : (record.entries.map Prod.fst).Nodup := by
    simp only [BssRecord.entries, List.map_cons, List.map_nil]
    decide
  exact congrArg Prod.snd (List.inj_on_of_nodup_map hnodup h hother rfl)

-- An entry of a BSS that the first pass leaves behind is one of the records'.
theorem mem_entries_of_lookup (hreports : Reports payload records) (hlength : records.length ≤ 1)
    {key : ByteString} {value : PropertyValue}
    (hlookup : (properties payload).lookup key = some value) (hkey : key ∈ bssKeys) :
    ∃ record ∈ records, (key, value) ∈ record.entries := by
  obtain ⟨line, hline, hproperty⟩ := lookup_properties hlookup
  have hmem := hreports.only line hline (isBssLine_of_property hproperty hkey)
  match records, hlength with
  | [], _ => simp [bssLines] at hmem
  | [record], _ =>
      have hlines : line ∈ record.lines 0 := by simpa [bssLines] using hmem
      have hentry := List.mem_map_of_mem (f := property) hlines
      rw [map_property_lines, hproperty, List.mem_map] at hentry
      obtain ⟨entry, hentry, heq⟩ := hentry
      obtain rfl := Option.some.inj heq
      exact ⟨record, List.mem_singleton_self record, hentry⟩

theorem lookup_of_mem_entries {record : BssRecord} (hreports : Reports payload [record])
    {entry : ByteString × PropertyValue} (hentry : entry ∈ record.entries) :
    (properties payload).lookup entry.1 = some entry.2 := by
  have hmap := List.mem_map_of_mem (f := some) hentry
  rw [← map_property_lines, List.mem_map] at hmap
  obtain ⟨line, hline, hproperty⟩ := hmap
  have hpayload := hreports.complete line (by simpa [bssLines] using hline)
  obtain ⟨value, hlookup⟩ := mem_properties hpayload hproperty
  obtain ⟨other, hother, hvalue⟩ := mem_entries_of_lookup hreports (Nat.le_refl 1) hlookup
    (key_of_mem_entries hentry).1
  obtain rfl := List.mem_singleton.mp hother
  rw [hlookup, eq_of_mem_entries hvalue hentry]

-- A field that one of the four properties assigns holds the value of that one.
theorem field_of_entries {γ : Type} {record : BssRecord}
    {steps : List (ByteString × PropertyValue)}
    (hsteps : ∀ entry, entry ∈ steps ↔ entry ∈ record.entries)
    (field : BssInfo → γ) (value : γ) (written : ByteString × PropertyValue)
    (hmem : written ∈ record.entries)
    (hwrites : ∀ info, field (assignBssProperty written info) = value)
    (hkeeps : ∀ entry ∈ record.entries, entry.1 ≠ written.1 →
      ∀ info, field (assignBssProperty entry info) = field info) :
    field (steps.foldl (fun info property => assignBssProperty property info) {}) = value := by
  apply foldl_constant (fun info property => assignBssProperty property info) field
    (fun entry => entry.1 = written.1) value steps {}
  · intro info entry hentry hkey
    have hsame : entry = written :=
      Prod.ext (by simpa using hkey) (eq_of_mem_entries
        (by simpa [← of_decide_eq_true hkey] using (hsteps entry).mp hentry) hmem)
    rw [hsame, hwrites]
  · intro info entry hentry hkey
    exact hkeeps entry ((hsteps entry).mp hentry) (of_decide_eq_false hkey) info
  · exact ⟨written, (hsteps written).mpr hmem, by simp⟩

theorem carries_of_entries {record : BssRecord} {steps : List (ByteString × PropertyValue)}
    (hsteps : ∀ entry, entry ∈ steps ↔ entry ∈ record.entries) :
    Carries (steps.foldl (fun info property => assignBssProperty property info) {}) record := by
  have hmem : ∀ entry ∈ record.entries, entry ∈ record.entries := fun _ h => h
  simp only [BssRecord.entries, List.forall_mem_cons] at hmem
  obtain ⟨hinterface, hbssid, hssid, hnumSta, _⟩ := hmem
  constructor
  · apply field_of_entries hsteps BssInfo.interface _ _ hinterface fun _ => rfl
    simp only [BssRecord.entries, List.forall_mem_cons]
    exact ⟨fun h => absurd rfl h, fun _ _ => rfl, fun _ _ => rfl, fun _ _ => rfl, by simp⟩
  · apply field_of_entries hsteps BssInfo.bssid _ _ hbssid fun _ => rfl
    simp only [BssRecord.entries, List.forall_mem_cons]
    exact ⟨fun _ _ => rfl, fun h => absurd rfl h, fun _ _ => rfl, fun _ _ => rfl, by simp⟩
  · apply field_of_entries hsteps BssInfo.ssid _ _ hssid fun _ => rfl
    simp only [BssRecord.entries, List.forall_mem_cons]
    exact ⟨fun _ _ => rfl, fun _ _ => rfl, fun h => absurd rfl h, fun _ _ => rfl, by simp⟩
  · apply field_of_entries hsteps BssInfo.numStations _ _ hnumSta
    · intro info
      exact congrArg Prod.fst (fromCharsInt_decimal record.numSta _ record.numSta.property)
    · simp only [BssRecord.entries, List.forall_mem_cons]
      exact ⟨fun _ _ => rfl, fun _ _ => rfl, fun _ _ => rfl, fun h => absurd rfl h, by simp⟩

end Records

section Parse

variable {bssCapacity : BssCapacity} {traversal : Table.Traversal ByteString PropertyValue}
  {payload : ByteString} {records : List BssRecord}

theorem parse_readable (h : ∀ line ∈ lines payload, readable line) :
    WpaStatusResponseParser.parse bssCapacity traversal payload =
      (WpaStatusResponseParser.parsePayload bssCapacity traversal (properties payload)).map
        some := by
  rw [WpaStatusResponseParser.parse, tryParse_readable (by decide) h]
  rfl

theorem parse_unreadable (bssCapacity : BssCapacity)
    (traversal : Table.Traversal ByteString PropertyValue)
    (h : ¬ ∀ line ∈ lines payload, readable line) :
    ∃ fault, WpaStatusResponseParser.parse bssCapacity traversal payload = .error fault := by
  have hparse : WpaStatusResponseParser.propertiesToParse ≠ [] := by decide
  obtain ⟨fault, hfault⟩ := tryParse_unreadable hparse h
  exact ⟨fault, by rw [WpaStatusResponseParser.parse, hfault]; rfl⟩

theorem mem_indexed {property : ByteString × PropertyValue} :
    property ∈ indexed (traversal.visit (properties payload)) ↔
      (properties payload).lookup property.1 = some property.2 ∧ property.1 ∈ bssKeys := by
  rw [indexed, List.mem_filter, traversal.mem_visit, decide_eq_true_eq]

theorem lossless_of_length_le_one (hreports : Reports payload records)
    (hlength : records.length ≤ 1) (hreadable : ∀ line ∈ lines payload, readable line) :
    Lossless bssCapacity traversal payload records := by
  have hsingular : ∀ property ∈ traversal.visit (properties payload), Singular property := by
    intro property hmem hkey
    obtain ⟨record, _, hentry⟩ :=
      mem_entries_of_lookup hreports hlength (traversal.mem_visit.mp hmem) hkey
    exact (key_of_mem_entries hentry).2
  obtain ⟨status, hok, hbss⟩ :=
    parsePayload_single {} hsingular (Nat.zero_le 1)
  have hparse : WpaStatusResponseParser.parse bssCapacity traversal payload =
      .ok (some status) := by
    rw [parse_readable hreadable, WpaStatusResponseParser.parsePayload, hok]
    rfl
  refine ⟨status, hparse, ?_⟩
  rw [hbss]
  match records, hlength with
  | [], _ =>
      have hnone : indexed (traversal.visit (properties payload)) = [] := by
        apply List.eq_nil_iff_forall_not_mem.mpr
        intro property hmem
        obtain ⟨hlookup, hkey⟩ := mem_indexed.mp hmem
        obtain ⟨record, hrecord, _⟩ := mem_entries_of_lookup hreports (Nat.zero_le 1) hlookup hkey
        cases hrecord
      rw [if_pos hnone]
      exact .nil
  | [record], _ =>
      have hsteps : ∀ property, property ∈ indexed (traversal.visit (properties payload)) ↔
          property ∈ record.entries := by
        intro property
        rw [mem_indexed]
        constructor
        · rintro ⟨hlookup, hkey⟩
          obtain ⟨other, hother, hentry⟩ :=
            mem_entries_of_lookup hreports (Nat.le_refl 1) hlookup hkey
          rwa [List.mem_singleton.mp hother] at hentry
        · intro hentry
          exact ⟨lookup_of_mem_entries hreports hentry, (key_of_mem_entries hentry).1⟩
      have hsome : indexed (traversal.visit (properties payload)) ≠ [] :=
        List.ne_nil_of_mem ((hsteps _).mpr List.mem_cons_self)
      rw [if_neg hsome]
      exact .cons (carries_of_entries hsteps) .nil

-- The keys of the properties have lost their indices, so that of several BSS
-- entries only one is left.
theorem length_le_one_of_lossless (h : Lossless bssCapacity traversal payload records) :
    records.length ≤ 1 := by
  obtain ⟨status, hparse, hcarries⟩ := h
  by_cases hreadable : ∀ line ∈ lines payload, readable line
  · rw [parse_readable hreadable] at hparse
    cases hpayload :
      WpaStatusResponseParser.parsePayload bssCapacity traversal (properties payload) with
    | error fault =>
        rw [hpayload] at hparse
        cases hparse
    | ok final =>
        rw [hpayload] at hparse
        have hsame : final = status := by simpa [Except.map] using hparse
        have hnamed := named_parsePayload hpayload
        rwa [hsame, named_of_carries hcarries] at hnamed
  · obtain ⟨fault, hfault⟩ := parse_unreadable bssCapacity traversal hreadable
    rw [hparse] at hfault
    cases hfault

theorem readable_of_lossless (h : Lossless bssCapacity traversal payload records) :
    ∀ line ∈ lines payload, readable line := by
  by_contra hunreadable
  obtain ⟨status, hparse, _⟩ := h
  obtain ⟨fault, hfault⟩ := parse_unreadable bssCapacity traversal hunreadable
  rw [hparse] at hfault
  cases hfault

end Parse

-- STATUS decoding keeps what the payload says about its BSS entries exactly when
-- there is at most one of them (and `std::stoul` reads the index of every line).
theorem status_lossless_iff (bssCapacity : BssCapacity)
    (traversal : Table.Traversal ByteString PropertyValue) (payload : ByteString)
    (records : List BssRecord) (hreports : Reports payload records) :
    Lossless bssCapacity traversal payload records ↔
      records.length ≤ 1 ∧ ∀ line ∈ lines payload, readable line := by
  constructor
  · intro h
    exact ⟨length_le_one_of_lossless h, readable_of_lossless h⟩
  · rintro ⟨hlength, hreadable⟩
    exact lossless_of_length_le_one hreports hlength hreadable

def wlan0 : BssRecord where
  interface := ⟨str "wlan0", by decide +kernel⟩
  bssid := ⟨str "02:00:00:00:00:00", by decide +kernel⟩
  ssid := ⟨str "corporate", by decide +kernel⟩
  numSta := ⟨3, by decide⟩

def wlan0Guest : BssRecord where
  interface := ⟨str "wlan0_1", by decide +kernel⟩
  bssid := ⟨str "02:00:00:00:00:01", by decide +kernel⟩
  ssid := ⟨str "guest", by decide +kernel⟩
  numSta := ⟨7, by decide⟩

def statusLines : List ByteString :=
  [str "state=ENABLED", str "ieee80211n=1", str "ieee80211ac=1", str "ieee80211ax=0"]

def statusPayload (records : List BssRecord) : ByteString :=
  [10].intercalate (statusLines ++ bssLines records)

theorem status_lossless_wlan0 : Lossless default default (statusPayload [wlan0]) [wlan0] := by
  apply (status_lossless_iff default default (statusPayload [wlan0]) [wlan0] _).mpr
  · exact ⟨by decide, by decide +kernel⟩
  · exact ⟨by decide +kernel, by decide +kernel⟩

theorem status_loses_wlan0 :
    Reports (statusPayload [wlan0, wlan0Guest]) [wlan0, wlan0Guest] ∧
      (WpaStatusResponseParser.parse default default (statusPayload [wlan0, wlan0Guest])).map
          (Option.map HostapdStatus.bss) =
        .ok (some [{}, ⟨0, 7, str "02:00:00:00:00:01", str "wlan0_1", str "guest"⟩]) ∧
      ¬ Lossless default default (statusPayload [wlan0, wlan0Guest]) [wlan0, wlan0Guest] := by
  refine ⟨⟨by decide +kernel, by decide +kernel⟩, by decide +kernel, ?_⟩
  intro h
  have hlength := length_le_one_of_lossless h
  revert hlength
  decide

end NetRemote.Wpa
