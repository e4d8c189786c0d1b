import NetRemote.Wpa.Hostapd.Theorems
import NetRemote.Wpa.WpaResponseParser.Theorems

namespace NetRemote.Wpa.WpaResponseParser

open Foundation Foundation.Bytes

-- A line of the format: a name without an index, and any value.
structure PayloadLine where
  key : ByteString
  value : ByteString
  key_ne_nil : key ≠ []
  key_plain : ∀ byte ∈ key, byte ∉ [10, 61, 91]
  value_plain : 10 ∉ value

def PayloadLine.text (line : PayloadLine) : ByteString := line.key ++ 61 :: line.value

def payloadOf (payloadLines : List PayloadLine) : ByteString :=
  [10].intercalate (payloadLines.map PayloadLine.text)

-- The parser leaves the keys with their complete values, and nothing else.
def ParsesWhole (propertiesToParse : List ByteString) (payloadLines : List PayloadLine) : Prop :=
  ∃ properties,
    tryParseProperties propertiesToParse (payloadOf payloadLines) = .ok (true, properties) ∧
    ∀ key property, properties.lookup key = some property ↔
      ∃ line ∈ payloadLines, line.key = key ∧ property = ⟨line.value, none⟩

-- What is taken for the value: it ends where another delimiter is.
def valueRead (value : ByteString) : ByteString := value.takeWhile (· ≠ 61)

section Format

theorem splitOn_valueRead (value : ByteString) :
    ∃ rest, value.splitOn 61 = valueRead value :: rest := by
  by_cases hmem : 61 ∈ value
  · obtain ⟨before, after, rfl, hbefore⟩ := List.eq_append_cons_of_mem hmem
    have hread : valueRead (before ++ 61 :: after) = before := by
      have hall : ∀ byte ∈ before, decide (byte ≠ 61) = true := by
        intro byte hbyte
        simp only [decide_eq_true_eq]
        rintro rfl
        exact hbefore hbyte
      rw [valueRead, List.takeWhile_append_of_pos hall, List.takeWhile_cons_of_neg (by simp),
        List.append_nil]
    rw [hread, List.splitOn_append_cons_self_of_not_mem hbefore]
    exact ⟨_, rfl⟩
  · have hread : valueRead value = value := by
      rw [valueRead, List.takeWhile_eq_self_iff]
      intro byte hbyte
      simp only [decide_eq_true_eq]
      rintro rfl
      exact hmem hbyte
    rw [hread, List.splitOn_eq_singleton hmem]
    exact ⟨[], rfl⟩

theorem valueRead_eq_iff (value : ByteString) : valueRead value = value ↔ 61 ∉ value := by
  rw [valueRead, List.takeWhile_eq_self_iff]
  constructor
  · intro h hmem
    simpa using h 61 hmem
  · intro h byte hbyte
    simp only [decide_eq_true_eq]
    rintro rfl
    exact h hbyte

theorem splitKey_plain {key : ByteString} (h : 91 ∉ key) : splitKey key = (key, none) := by
  have hstart : key.findIdx? (· = ProtocolWpa.KeyValueIndexDelimeterStart) = none := by
    rw [List.findIdx?_eq_none_iff]
    intro byte hbyte
    simp only [decide_eq_false_iff_not]
    rintro rfl
    exact h hbyte
  rw [splitKey, hstart]

variable (line : PayloadLine)

theorem readLine_text :
    readLine line.text = some ⟨line.key, none, valueRead line.value⟩ := by
  have hdelimiter : 61 ∉ line.key := fun hmem => line.key_plain 61 hmem (by decide)
  have hbracket : 91 ∉ line.key := fun hmem => line.key_plain 91 hmem (by decide)
  obtain ⟨rest, hrest⟩ := splitOn_valueRead line.value
  have hsplit : split ProtocolWpa.KeyValueDelimiter line.text =
      line.key :: valueRead line.value :: rest := by
    rw [split, if_neg (by simp [PayloadLine.text]), PayloadLine.text,
      ProtocolWpa.KeyValueDelimiter, List.splitOn_append_cons_self_of_not_mem hdelimiter, hrest]
  simp only [readLine, hsplit, if_neg line.key_ne_nil, splitKey_plain hbracket]

theorem property_text :
    property line.text = some (line.key, ⟨valueRead line.value, none⟩) := by
  rw [property, readLine_text]
  rfl

theorem readable_text : readable line.text := by
  rw [readable, readLine_text]
  rfl

theorem newline_not_mem_text : 10 ∉ line.text := by
  have hkey : 10 ∉ line.key := fun hmem => line.key_plain 10 hmem (by decide)
  have hvalue := line.value_plain
  simp [PayloadLine.text, hkey, hvalue]

theorem lines_payloadOf (payloadLines : List PayloadLine) :
    lines (payloadOf payloadLines) = payloadLines.map PayloadLine.text := by
  unfold lines split
  cases payloadLines with
  | nil => rfl
  | cons line payloadLines =>
      have hplain : ∀ text ∈ (line :: payloadLines).map PayloadLine.text, 10 ∉ text := by
        intro text htext
        obtain ⟨other, _, rfl⟩ := List.mem_map.mp htext
        exact newline_not_mem_text other
      have hsplit := List.splitOn_intercalate 10 hplain (by simp)
      have hne : payloadOf (line :: payloadLines) ≠ [] := by
        intro hnil
        unfold payloadOf at hnil
        rw [hnil, List.splitOn_nil, List.map_cons] at hsplit
        have htext : [] = line.text := (List.cons.inj hsplit).1
        simp [PayloadLine.text] at htext
      rw [if_neg hne]
      exact hsplit

variable {payloadLines : List PayloadLine}

-- Of lines with different keys none overwrites another.
theorem lookup_payloadOf (hdistinct : (payloadLines.map PayloadLine.key).Nodup)
    (key : ByteString) (property : PropertyValue) :
    (properties (payloadOf payloadLines)).lookup key = some property ↔
      ∃ line ∈ payloadLines, line.key = key ∧ property = ⟨valueRead line.value, none⟩ := by
  have hsource (key : ByteString) (property : PropertyValue)
      (h : (properties (payloadOf payloadLines)).lookup key = some property) :
      ∃ line ∈ payloadLines, line.key = key ∧ property = ⟨valueRead line.value, none⟩ := by
    obtain ⟨text, htext, hproperty⟩ := lookup_properties h
    rw [lines_payloadOf] at htext
    obtain ⟨line, hline, rfl⟩ := List.mem_map.mp htext
    rw [property_text] at hproperty
    obtain ⟨hkey, hvalue⟩ := Prod.mk.inj (Option.some.inj hproperty)
    exact ⟨line, hline, hkey, hvalue.symm⟩
  constructor
  · exact hsource key property
  · rintro ⟨line, hline, rfl, rfl⟩
    have htext : line.text ∈ lines (payloadOf payloadLines) := by
      rw [lines_payloadOf]
      exact List.mem_map_of_mem hline
    obtain ⟨value, hvalue⟩ := mem_properties htext (property_text line)
    obtain ⟨other, hother, hkey, rfl⟩ := hsource _ value hvalue
    obtain rfl := List.inj_on_of_nodup_map hdistinct hother hline hkey
    exact hvalue

theorem tryParse_whole_iff {propertiesToParse : List ByteString} (hparse : propertiesToParse ≠ [])
    (hdistinct : (payloadLines.map PayloadLine.key).Nodup) :
    ParsesWhole propertiesToParse payloadLines ↔ ∀ line ∈ payloadLines, 61 ∉ line.value := by
  have hreadable : ∀ line ∈ lines (payloadOf payloadLines), readable line := by
    rw [lines_payloadOf]
    intro text htext
    obtain ⟨line, _, rfl⟩ := List.mem_map.mp htext
    exact readable_text line
  have hparsed := tryParse_readable hparse hreadable
  constructor
  · rintro ⟨parsed, hok, hwhole⟩ line hline
    rw [hparsed] at hok
    obtain rfl : properties (payloadOf payloadLines) = parsed := by
      simpa using hok
    have hlookup := (hwhole line.key ⟨line.value, none⟩).mpr ⟨line, hline, rfl, rfl⟩
    obtain ⟨other, hother, hkey, hvalue⟩ := (lookup_payloadOf hdistinct _ _).mp hlookup
    obtain rfl := List.inj_on_of_nodup_map hdistinct hother hline hkey
    have hread : other.value = valueRead other.value := by simpa using hvalue
    exact (valueRead_eq_iff other.value).mp hread.symm
  · intro hvalues
    refine ⟨properties (payloadOf payloadLines), hparsed, ?_⟩
    intro key property
    rw [lookup_payloadOf hdistinct]
    constructor
    · rintro ⟨line, hline, hkey, rfl⟩
      rw [(valueRead_eq_iff line.value).mpr (hvalues line hline)]
      exact ⟨line, hline, hkey, rfl⟩
    · rintro ⟨line, hline, hkey, rfl⟩
      refine ⟨line, hline, hkey, ?_⟩
      rw [(valueRead_eq_iff line.value).mpr (hvalues line hline)]

def ssidLine (ssid : ByteString) (h : 10 ∉ ssid) : PayloadLine where
  key := str "ssid"
  value := ssid
  key_ne_nil := by decide
  key_plain := by decide +kernel
  value_plain := h

theorem tryParse_whole_guest :
    ParsesWhole WpaGetConfigResponseParser.propertiesToParse
      [ssidLine (str "guest") (by decide)] := by
  apply (tryParse_whole_iff (by decide) (by decide)).mpr
  decide

-- Of the SSID `a=b` the first letter is left.
theorem tryParse_cuts_ssid :
    (tryParseProperties WpaGetConfigResponseParser.propertiesToParse
        (payloadOf [ssidLine (str "a=b") (by decide)])).map
      (fun result => result.2.lookup (str "ssid")) =
        .ok (some ⟨str "a", none⟩) ∧
      ¬ ParsesWhole WpaGetConfigResponseParser.propertiesToParse
        [ssidLine (str "a=b") (by decide)] := by
  have hcut : (tryParseProperties WpaGetConfigResponseParser.propertiesToParse
      (payloadOf [ssidLine (str "a=b") (by decide)])).map
        (fun result => result.2.lookup (str "ssid")) = .ok (some ⟨str "a", none⟩) := by
    decide +kernel
  refine ⟨hcut, ?_⟩
  rintro ⟨parsed, hok, hwhole⟩
  have hlookup := (hwhole (str "ssid") ⟨str "a=b", none⟩).mpr
    ⟨_, List.mem_singleton_self _, rfl, rfl⟩
  rw [hok] at hcut
  have hfound : parsed.lookup (str "ssid") = some ⟨str "a", none⟩ := by
    simpa [Except.map] using hcut
  rw [hlookup] at hfound
  revert hfound
  decide

end Format

section Required

-- A property is named by a line, with or without an index.
def Occurs (payload name : ByteString) : Prop :=
  ∃ line ∈ lines payload, ∃ keyValueLine ∈ readLine line, keyValueLine.key = name

-- Every property of the two lists is a required one.
def AllOccur (required : List ByteString) (payload : ByteString) : Prop :=
  ∀ name ∈ required, Occurs payload name

-- An answer without a required property is turned into a null response, and the
-- query that got it throws.
structure Enforced {α : Type} (required : List ByteString) (payload : ByteString)
    (parsed : Except Fault (Option α)) (query : Action α) (command : WpaCommand) : Prop where
  complete : ∀ response, parsed = .ok (some response) → AllOccur required payload
  rejected : ¬ AllOccur required payload → parsed = .ok none
  throws : ¬ AllOccur required payload → ∀ outcome,
    query.Runs [⟨.SendCommand command, some payload⟩] outcome →
      ∃ message, outcome = .error (.Hostapd message)

theorem enforced_iff {α : Type} {required : List ByteString} {payload : ByteString}
    {parsed : Except Fault (Option α)} {query : Action α} {command : WpaCommand}
    (hnull : parsed ≠ .ok none) :
    Enforced required payload parsed query command ↔ AllOccur required payload := by
  constructor
  · intro henforced
    by_contra hmissing
    exact hnull (henforced.rejected hmissing)
  · intro hall
    exact ⟨fun _ _ => hall, fun hmissing => absurd hall hmissing,
      fun hmissing => absurd hall hmissing⟩

-- The first pass never says that something is missing.
theorem tryParse_parsed {propertiesToParse : List ByteString} {payload : ByteString} {parsed : Bool}
    {properties : Properties}
    (h : tryParseProperties propertiesToParse payload = .ok (parsed, properties)) :
    parsed = true := by
  unfold tryParseProperties at h
  by_cases hempty : propertiesToParse = []
  · rw [if_pos hempty] at h
    exact (Prod.mk.inj (Except.ok.inj h)).1.symm
  · rw [if_neg hempty] at h
    cases hfold : (lines payload).foldlM addLine (∅ : Properties) with
    | error fault =>
        rw [hfold] at h
        cases h
    | ok final =>
        rw [hfold] at h
        exact (Prod.mk.inj (Except.ok.inj h)).1.symm

theorem parseStatus_ne_none (bssCapacity : BssCapacity)
    (traversal : Table.Traversal ByteString PropertyValue) (payload : ByteString) :
    WpaStatusResponseParser.parse bssCapacity traversal payload ≠ .ok none := by
  unfold WpaStatusResponseParser.parse
  cases hparse : tryParseProperties WpaStatusResponseParser.propertiesToParse payload with
  | error fault => exact nofun
  | ok result =>
      obtain ⟨parsed, properties⟩ := result
      obtain rfl := tryParse_parsed hparse
      cases hpayload : WpaStatusResponseParser.parsePayload bssCapacity traversal properties with
      | error fault => simp [bind, Except.bind, hpayload]
      | ok status => simp [bind, Except.bind, hpayload]

theorem parseConfiguration_ne_none (traversal : Table.Traversal ByteString PropertyValue)
    (uninitialized : Int) (payload : ByteString) :
    WpaGetConfigResponseParser.parse traversal uninitialized payload ≠ .ok none := by
  unfold WpaGetConfigResponseParser.parse
  cases hparse : tryParseProperties WpaGetConfigResponseParser.propertiesToParse payload with
  | error fault => exact nofun
  | ok result =>
      obtain ⟨parsed, properties⟩ := result
      obtain rfl := tryParse_parsed hparse
      simp [bind, Except.bind]

abbrev StatusEnforced (platform : Platform) (payload : ByteString) : Prop :=
  Enforced WpaStatusResponseParser.propertiesToParse payload
    (WpaStatusResponseParser.parse platform.bssCapacity platform.properties payload)
    (Hostapd.getStatus platform) .Status

abbrev ConfigurationEnforced (platform : Platform) (payload : ByteString) : Prop :=
  Enforced WpaGetConfigResponseParser.propertiesToParse payload
    (WpaGetConfigResponseParser.parse platform.properties platform.uninitialized payload)
    (Hostapd.getConfiguration platform) .GetConfig

theorem parse_enforced_iff (platform : Platform) (payload : ByteString) :
    (StatusEnforced platform payload ↔
      AllOccur WpaStatusResponseParser.propertiesToParse payload) ∧
    (ConfigurationEnforced platform payload ↔
      AllOccur WpaGetConfigResponseParser.propertiesToParse payload) :=
  ⟨enforced_iff (parseStatus_ne_none _ _ payload),
    enforced_iff (parseConfiguration_ne_none _ _ payload)⟩

-- The answer to a command that fails is taken for a status without anything in it.
theorem parse_accepts_fail :
    WpaStatusResponseParser.parse default default (str "FAIL") = .ok (some {}) ∧
      ¬ StatusEnforced ⟨default, default, default, 0⟩ (str "FAIL") ∧
      WpaGetConfigResponseParser.parse default 0 (str "FAIL") = .ok (some {}) ∧
      ¬ ConfigurationEnforced ⟨default, default, default, 0⟩ (str "FAIL") := by
  have hstatus : WpaStatusResponseParser.parse default default (str "FAIL") = .ok (some {}) := by
    decide +kernel
  have hconfiguration : WpaGetConfigResponseParser.parse default 0 (str "FAIL") =
      .ok (some {}) := by decide +kernel
  have hmissing {name : ByteString} : ¬ Occurs (str "FAIL") name := by
    rintro ⟨line, hline, keyValueLine, hread, _⟩
    have hlines : lines (str "FAIL") = [str "FAIL"] := by decide
    rw [hlines, List.mem_singleton] at hline
    subst hline
    have hskipped : readLine (str "FAIL") = none := by decide
    rw [hskipped] at hread
    cases hread
  refine ⟨hstatus, ?_, hconfiguration, ?_⟩
  · intro henforced
    exact hmissing (henforced.complete _ hstatus _ List.mem_cons_self)
  · intro henforced
    exact hmissing (henforced.complete _ hconfiguration _ List.mem_cons_self)

end Required

end NetRemote.Wpa.WpaResponseParser
