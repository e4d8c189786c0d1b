import NetRemote.Wpa.WpaEvent

namespace NetRemote.Wpa.WpaEvent

open Foundation Foundation.Bytes ProtocolWpa

-- What hostapd writes: to the control socket of an interface the message alone, and to
-- the global one the interface before it.
inductive EventText where
  | PerInterface (logLevel : WpaLogLevel) (message : ByteString)
  | Global (logLevel : WpaLogLevel) (interfaceName message : ByteString)

def logLevelTag (logLevel : WpaLogLevel) : ByteString :=
  EventLogLevelDelimeterStart ++ signedDecimal logLevel.value ++ EventLogLevelDelimeterEnd

def EventText.text : EventText → ByteString
  | .PerInterface logLevel message => logLevelTag logLevel ++ message
  | .Global logLevel interfaceName message =>
      logLevelTag logLevel ++ (EventInterfaceNamePrefix ++ interfaceName ++ str " " ++ message)

def EventText.ReadBack (event : WpaEvent) : EventText → Prop
  | .PerInterface logLevel message =>
      event.logLevel = logLevel ∧ event.interface = none ∧ event.payload = message
  | .Global logLevel interfaceName message =>
      event.logLevel = logLevel ∧ event.interface = some interfaceName ∧ event.payload = message

def Inverts (eventText : EventText) : Prop :=
  ∃ event, parse eventText.text = some event ∧ eventText.ReadBack event

-- Somewhere in a message the prefix of an interface name stands, and later a space.
def NamesInterface (message : ByteString) : Prop :=
  ∃ before after, message = before ++ EventInterfaceNamePrefix ++ after ∧ 32 ∈ after

-- Where the message has an interface in it, from its prefix up to a space.
def interfaceIn (message : ByteString) : Option (Nat × Nat) := do
  let interfaceStart ← find message EventInterfaceNamePrefix 0
  let interfaceEnd ← find message (str " ") interfaceStart
  some (interfaceStart, interfaceEnd)

section Tag

theorem enumCast_value (logLevel : WpaLogLevel) :
    WpaLogLevel.enumCast logLevel.value = some logLevel := by
  cases logLevel <;> decide

theorem fromCharsValue_value (logLevel : WpaLogLevel) :
    fromCharsValue (signedDecimal logLevel.value) = some logLevel.value := by
  cases logLevel <;> decide

theorem end_not_mem_signedDecimal (logLevel : WpaLogLevel) :
    62 ∉ EventLogLevelDelimeterStart ++ signedDecimal logLevel.value := by
  cases logLevel <;> decide

theorem interface_not_mem_logLevelTag (logLevel : WpaLogLevel) : 73 ∉ logLevelTag logLevel := by
  cases logLevel <;> decide

theorem find_tag_start (logLevel : WpaLogLevel) (message : ByteString) :
    find (logLevelTag logLevel ++ message) EventLogLevelDelimeterStart 0 = some 0 := by
  rw [find_zero]
  apply indexOf_of_prefix
  rw [logLevelTag, List.append_assoc, List.append_assoc]
  exact List.prefix_append _ _

theorem find_tag_end (logLevel : WpaLogLevel) (message : ByteString) :
    find (logLevelTag logLevel ++ message) EventLogLevelDelimeterEnd 0 =
      some ((signedDecimal logLevel.value).length + 1) := by
  have htext : logLevelTag logLevel ++ message =
      (EventLogLevelDelimeterStart ++ signedDecimal logLevel.value) ++ 62 :: message := by
    rw [logLevelTag, List.append_assoc]
    rfl
  rw [find_zero, htext]
  have hfound : indexOf EventLogLevelDelimeterEnd
      ((EventLogLevelDelimeterStart ++ signedDecimal logLevel.value) ++ 62 :: message) = some _ :=
    indexOf_byte (end_not_mem_signedDecimal logLevel)
  rw [List.length_append, Nat.add_comm] at hfound
  exact hfound

theorem substr_tag (logLevel : WpaLogLevel) (message : ByteString) :
    substr (logLevelTag logLevel ++ message) 1 (signedDecimal logLevel.value).length =
      signedDecimal logLevel.value := by
  have htext : logLevelTag logLevel ++ message = EventLogLevelDelimeterStart ++
      (signedDecimal logLevel.value ++ (EventLogLevelDelimeterEnd ++ message)) := by
    rw [logLevelTag, List.append_assoc, List.append_assoc]
  rw [htext]
  exact (substr_append EventLogLevelDelimeterStart _ 0 _).trans List.take_left

theorem length_logLevelTag (logLevel : WpaLogLevel) :
    (logLevelTag logLevel).length = (signedDecimal logLevel.value).length + 1 + 1 := by
  rw [logLevelTag, List.length_append, List.length_append]
  exact congrArg (· + 1) (Nat.add_comm 1 _)

-- The tag only moves what is found in the message.
theorem interfaceIn_tag (logLevel : WpaLogLevel) (message : ByteString) :
    interfaceIn (logLevelTag logLevel ++ message) = (interfaceIn message).map fun bounds =>
      ((logLevelTag logLevel).length + bounds.1, (logLevelTag logLevel).length + bounds.2) := by
  have hstart : find (logLevelTag logLevel ++ message) EventInterfaceNamePrefix 0 =
      (find message EventInterfaceNamePrefix 0).map ((logLevelTag logLevel).length + ·) := by
    rw [find_zero, find_zero]
    exact indexOf_append (interface_not_mem_logLevelTag logLevel)
  unfold interfaceIn
  rw [hstart]
  cases find message EventInterfaceNamePrefix 0 with
  | none => rfl
  | some interfaceStart =>
      simp only [Option.map_some, Option.bind_eq_bind, Option.bind_some, find_append]
      cases find message (str " ") interfaceStart with
      | none => rfl
      | some interfaceEnd => rfl

theorem parse_of_logLevel {text : ByteString} {logLevelStart logLevelEnd : Nat} {value : Int}
    (hstart : find text EventLogLevelDelimeterStart 0 = some logLevelStart)
    (hend : find text EventLogLevelDelimeterEnd logLevelStart = some logLevelEnd)
    (hvalue : fromCharsValue
      (substr text (logLevelStart + 1) (logLevelEnd - logLevelStart - 1)) = some value) :
    parse text = some {
      logLevel := (WpaLogLevel.enumCast value).getD .Unknown
      interface := (interfaceIn text).map fun bounds =>
        substr text bounds.1 (bounds.2 - bounds.1)
      payload := text.drop ((interfaceIn text).elim (logLevelEnd + 1) fun bounds =>
        bounds.2 + 1) } := by
  simp only [parse, hstart, hend, hvalue, Option.bind_eq_bind, Option.bind_some]
  rfl

theorem parse_tag (logLevel : WpaLogLevel) (message : ByteString) :
    parse (logLevelTag logLevel ++ message) = some {
      logLevel := logLevel
      interface := (interfaceIn message).map fun bounds =>
        substr message bounds.1 (bounds.2 - bounds.1)
      payload := message.drop ((interfaceIn message).elim 0 fun bounds => bounds.2 + 1) } := by
  have hvalue : fromCharsValue (substr (logLevelTag logLevel ++ message) (0 + 1)
      ((signedDecimal logLevel.value).length + 1 - 0 - 1)) = some logLevel.value := by
    rw [Nat.zero_add, Nat.sub_zero, Nat.add_sub_cancel, substr_tag]
    exact fromCharsValue_value logLevel
  rw [parse_of_logLevel (find_tag_start logLevel message) (find_tag_end logLevel message) hvalue,
    interfaceIn_tag, enumCast_value, ← length_logLevelTag]
  cases interfaceIn message with
  | none =>
      have hdrop : (logLevelTag logLevel ++ message).drop (logLevelTag logLevel).length = message :=
        List.drop_left
      simp only [Option.map_none, Option.elim_none, Option.getD_some, hdrop, List.drop_zero]
  | some bounds =>
      have hname := substr_append (logLevelTag logLevel) message bounds.1 (bounds.2 - bounds.1)
      have hpayload : (logLevelTag logLevel ++ message).drop
          ((logLevelTag logLevel).length + bounds.2 + 1) = message.drop (bounds.2 + 1) :=
        List.drop_length_add_append (bounds.2 + 1)
      simp only [Option.map_some, Option.elim_some, Option.getD_some, Nat.add_sub_add_left, hname,
        hpayload]

end Tag

theorem interfaceIn_isSome_iff (message : ByteString) :
    (interfaceIn message).isSome ↔ NamesInterface message := by
  constructor
  · intro hsome
    obtain ⟨bounds, hbounds⟩ := Option.isSome_iff_exists.mp hsome
    obtain ⟨interfaceStart, hstart, hrest⟩ := Option.bind_eq_some_iff.mp hbounds
    obtain ⟨interfaceEnd, hend, -⟩ := Option.bind_eq_some_iff.mp hrest
    rw [find_zero] at hstart
    obtain ⟨before, after, rfl, rfl⟩ := exists_of_indexOf hstart
    rw [List.append_assoc] at hend
    have hspace : 32 ∈ EventInterfaceNamePrefix ++ after := by
      have hfound := (find_append before (EventInterfaceNamePrefix ++ after) (str " ") 0).symm.trans
        hend
      rw [find_zero, Option.map_eq_some_iff] at hfound
      obtain ⟨index, hindex, -⟩ := hfound
      exact indexOf_byte_isSome_iff.mp (Option.isSome_of_mem hindex)
    have hprefix : 32 ∉ EventInterfaceNamePrefix := by decide
    exact ⟨before, after, rfl, (List.mem_append.mp hspace).resolve_left hprefix⟩
  · rintro ⟨before, after, rfl, hspace⟩
    obtain ⟨index, hindex, hfound⟩ := indexOf_of_occurs before EventInterfaceNamePrefix after
    have hlater : 32 ∈ (before ++ EventInterfaceNamePrefix ++ after).drop index := by
      rw [List.append_assoc, List.drop_append_of_le_length hindex]
      exact List.mem_append_right _ (List.mem_append_right _ hspace)
    obtain ⟨position, hposition⟩ :=
      Option.isSome_iff_exists.mp (indexOf_byte_isSome_iff.mpr hlater)
    have hlength : ¬ (before ++ EventInterfaceNamePrefix ++ after).length < index := by
      rw [List.append_assoc, List.length_append]
      omega
    have hend : find (before ++ EventInterfaceNamePrefix ++ after) (str " ") index =
        some (index + position) := by
      rw [find, if_neg hlength]
      exact congrArg (Option.map (index + ·)) hposition
    rw [interfaceIn, find_zero, hfound, Option.bind_eq_bind, Option.bind_some, hend]
    rfl

-- What is reported of a global event is the interface with the prefix still before it.
theorem parse_global {interfaceName : ByteString} (logLevel : WpaLogLevel) (message : ByteString)
    (h : 32 ∉ interfaceName) :
    parse (EventText.Global logLevel interfaceName message).text = some {
      logLevel := logLevel
      interface := some (EventInterfaceNamePrefix ++ interfaceName)
      payload := message } := by
  have hprefix : 32 ∉ EventInterfaceNamePrefix ++ interfaceName := by
    rw [List.mem_append, not_or]
    exact ⟨by decide, h⟩
  have hname : EventInterfaceNamePrefix ++ interfaceName ++ str " " ++ message =
      (EventInterfaceNamePrefix ++ interfaceName) ++ 32 :: message :=
    List.append_assoc _ _ _
  have hstart : find ((EventInterfaceNamePrefix ++ interfaceName) ++ 32 :: message)
      EventInterfaceNamePrefix 0 = some 0 := by
    rw [find_zero, List.append_assoc]
    exact indexOf_of_prefix (List.prefix_append _ _)
  have hend : find ((EventInterfaceNamePrefix ++ interfaceName) ++ 32 :: message) (str " ") 0 =
      some (EventInterfaceNamePrefix ++ interfaceName).length :=
    find_zero.trans (indexOf_byte hprefix)
  have hinterface : interfaceIn ((EventInterfaceNamePrefix ++ interfaceName) ++ 32 :: message) =
      some (0, (EventInterfaceNamePrefix ++ interfaceName).length) := by
    rw [interfaceIn, hstart, Option.bind_eq_bind, Option.bind_some, hend]
    rfl
  have hdrop : ((EventInterfaceNamePrefix ++ interfaceName) ++ 32 :: message).drop
      ((EventInterfaceNamePrefix ++ interfaceName).length + 1) = message :=
    List.drop_length_add_append 1
  rw [EventText.text, hname, parse_tag, hinterface]
  simp only [Option.map_some, Option.elim_some, substr, List.drop_zero, Nat.sub_zero,
    List.take_left, hdrop]

theorem not_inverts_global (logLevel : WpaLogLevel) (interfaceName message : ByteString) :
    ¬ Inverts (.Global logLevel interfaceName message) := by
  rintro ⟨event, hparse, -, hinterface, -⟩
  by_cases hspace : 32 ∈ interfaceName
  · -- Up to the first space the name is read, and a name with a space is never read.
    obtain ⟨front, rest, rfl, hfront⟩ := List.eq_append_cons_of_mem hspace
    have htext : (EventText.Global logLevel (front ++ 32 :: rest) message).text =
        (EventText.Global logLevel front (rest ++ str " " ++ message)).text := by
      simp only [EventText.text, List.append_assoc, List.cons_append]
      rfl
    rw [htext, parse_global logLevel _ hfront] at hparse
    obtain rfl := Option.some.inj hparse
    have hmem : 32 ∈ EventInterfaceNamePrefix ++ front := by
      rw [Option.some.inj hinterface]
      exact hspace
    exact hfront ((List.mem_append.mp hmem).resolve_left (by decide))
  · rw [parse_global logLevel message hspace] at hparse
    obtain rfl := Option.some.inj hparse
    have hlength := congrArg List.length (Option.some.inj hinterface)
    rw [List.length_append] at hlength
    exact absurd hlength (by simp [EventInterfaceNamePrefix, str])

theorem inverts_perInterface_iff (logLevel : WpaLogLevel) (message : ByteString) :
    Inverts (.PerInterface logLevel message) ↔ ¬ NamesInterface message := by
  rw [← interfaceIn_isSome_iff]
  constructor
  · rintro ⟨event, hparse, -, hinterface, -⟩ hsome
    rw [EventText.text, parse_tag] at hparse
    obtain rfl := Option.some.inj hparse
    rw [Option.map_eq_none_iff.mp hinterface] at hsome
    cases hsome
  · intro hnone
    have hinterface := Option.not_isSome_iff_eq_none.mp hnone
    refine ⟨_, parse_tag logLevel message, rfl, ?_, ?_⟩
    · rw [hinterface]
      rfl
    · rw [hinterface]
      rfl

-- Nowhere in a message of the form without an interface may the text of one stand.
def EventText.LeavesNoInterface : EventText → Prop
  | .PerInterface _ message => ¬ NamesInterface message
  | .Global _ _ _ => False

theorem parse_inverts_iff (eventText : EventText) :
    Inverts eventText ↔ eventText.LeavesNoInterface := by
  cases eventText with
  | PerInterface logLevel message => exact inverts_perInterface_iff logLevel message
  | Global logLevel interfaceName message =>
      exact iff_of_false (not_inverts_global logLevel interfaceName message) id

-- The message of a remote station is cut short, and an interface keeps its prefix.
theorem parse_misreadsMessage :
    (parse (EventText.PerInterface .Info (str "WPS-ENROLLEE-SEEN IFNAME=a b")).text = some {
        logLevel := .Info, interface := some (str "IFNAME=a"), payload := str "b" } ∧
      ¬ Inverts (.PerInterface .Info (str "WPS-ENROLLEE-SEEN IFNAME=a b"))) ∧
    parse (EventText.Global .Info (str "wlan0") (str "AP-ENABLED")).text = some {
        logLevel := .Info, interface := some (str "IFNAME=wlan0"), payload := str "AP-ENABLED" } ∧
      ¬ Inverts (.Global .Info (str "wlan0") (str "AP-ENABLED")) := by
  refine ⟨⟨by decide, ?_⟩, by decide, not_inverts_global _ _ _⟩
  rw [inverts_perInterface_iff, not_not]
  exact ⟨str "WPS-ENROLLEE-SEEN ", str "a b", by decide, by decide⟩

end NetRemote.Wpa.WpaEvent
