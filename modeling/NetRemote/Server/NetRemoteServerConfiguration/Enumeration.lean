import NetRemote.Server.NetRemoteServerConfiguration

namespace NetRemote.Server.NetRemoteServerConfiguration

open Foundation Foundation.Bytes Wifi Wpa Service.Enumerate NetRemoteServerJsonConfiguration

section Parse

variable (parse : Json.Parser) (file : ByteString → ByteString)
  (options : NetRemoteServerConfiguration)

-- What a configuration file is parsed to, if one was given.
def Parsed (outcome : Except Json.Exception Json) : Prop :=
  options.jsonConfigurationFilePath ≠ [] ∧
    parse (file options.jsonConfigurationFilePath) = outcome

-- The attributes are those that the file has, and all else are the options; a text that
-- is no document leaves every option at its default.
structure Configured (configuration : NetRemoteServerConfiguration) : Prop where
  kept : (Parsed parse file options (.error .ParseError) ∧ configuration = {}) ∨
    configuration =
      { options with accessPointAttributes := configuration.accessPointAttributes }
  held : ∀ interfaceName property text,
    (∃ accessPointAttributes,
        configuration.accessPointAttributes.lookup interfaceName = some accessPointAttributes ∧
          accessPointAttributes.properties.lookup property = some text) ↔
      ∃ document, Parsed parse file options (.ok document) ∧
        At (PropertyPath interfaceName property) document (.String text)

variable {parse file options}

theorem Parsed.unique {outcome other : Except Json.Exception Json}
    (h : Parsed parse file options outcome) (hother : Parsed parse file options other) :
    outcome = other :=
  h.2.symm.trans hother.2

theorem not_at_of_none {document : Json}
    (h : ∀ value, ¬ At [AccessPointAttributesKey] document value)
    (interfaceName property : ByteString) (text : Json) :
    ¬ At (PropertyPath interfaceName property) document text := by
  rintro ⟨members, value, rfl, hlookup, -⟩
  exact h value ⟨members, value, rfl, hlookup, rfl⟩

-- What is stored is nothing, and neither is there anything in the document.
theorem configured_of_empty {configuration : NetRemoteServerConfiguration}
    (hoptions : (Parsed parse file options (.error .ParseError) ∧ configuration = {}) ∨
      configuration =
        { options with accessPointAttributes := configuration.accessPointAttributes })
    (hempty : configuration.accessPointAttributes = ∅)
    (hnone : ∀ document, Parsed parse file options (.ok document) →
      ∀ value, ¬ At [AccessPointAttributesKey] document value) :
    Configured parse file options configuration where
  kept := hoptions
  held := by
    intro interfaceName property text
    constructor
    · rintro ⟨accessPointAttributes, hlookup, -⟩
      rw [hempty] at hlookup
      cases hlookup
    · rintro ⟨document, hparsed, hat⟩
      exact absurd hat (not_at_of_none (hnone document hparsed) interfaceName property _)

-- How a start can end, by what the configuration file is parsed to.
def Starts (parse : Json.Parser) (file : ByteString → ByteString)
    (options : NetRemoteServerConfiguration) :
    Except Fault NetRemoteServerConfiguration → Prop
  | .ok configuration => Configured parse file options configuration ∧
      (∀ exception, Parsed parse file options (.error exception) → exception = .ParseError) ∧
      ∀ document, Parsed parse file options (.ok document) → Accepted document
  | .error .Terminate =>
      ∃ exception, Parsed parse file options (.error exception) ∧ exception ≠ .ParseError
  | .error .UndefinedBehavior =>
      ∃ document, Parsed parse file options (.ok document) ∧ ¬ Accepted document
  | .error _ => False

theorem parseCliAppOptions_of_exception {exception : Json.Exception}
    (hparsed : Parsed parse file options (.error exception)) :
    Starts parse file options (parseCliAppOptions parse file options) := by
  have hdocument : ∀ document, ¬ Parsed parse file options (.ok document) :=
    fun document hother => nomatch hparsed.unique hother
  rw [parseCliAppOptions, if_neg hparsed.1, parseFromFile, hparsed.2]
  cases exception with
  | ParseError =>
      refine ⟨configured_of_empty (.inl ⟨hparsed, rfl⟩) rfl ?_, fun other hother => ?_, ?_⟩
      · exact fun document hother => absurd hother (hdocument document)
      · exact (Except.error.inj (hparsed.unique hother)).symm
      · exact fun document hother => absurd hother (hdocument document)
  | TypeError id => exact ⟨_, hparsed, nofun⟩
  | OutOfRange id => exact ⟨_, hparsed, nofun⟩

theorem parseCliAppOptions_of_document {document : Json}
    (hparsed : Parsed parse file options (.ok document))
    (hnone : options.accessPointAttributes = ∅) :
    Starts parse file options (parseCliAppOptions parse file options) := by
  have hsame : ∀ other, Parsed parse file options (.ok other) → other = document :=
    fun other hother => Except.ok.inj (hother.unique hparsed)
  have hexception : ∀ exception, Parsed parse file options (.error exception) →
      exception = .ParseError := fun exception hother => nomatch hparsed.unique hother
  rw [parseCliAppOptions, if_neg hparsed.1, parseFromFile, hparsed.2]
  simp only [bind, Except.bind]
  rcases tryParseFromJson_cases document with
    ⟨haccepted, attributes, hread, habsent, hpresent⟩ | ⟨hrejected, hread⟩
  · have hall : ∀ other, Parsed parse file options (.ok other) → Accepted other :=
      fun other hother => hsame other hother ▸ haccepted
    rw [hread]
    cases attributes with
    | none =>
        refine ⟨configured_of_empty (.inr rfl) hnone fun other hother => ?_, hexception, hall⟩
        rw [hsame other hother]
        exact habsent rfl
    | some attributes =>
        obtain ⟨value, hvalue, hdenotes⟩ := hpresent attributes rfl
        refine ⟨⟨.inr rfl, fun interfaceName property text => ?_⟩, hexception, hall⟩
        rw [property_iff hvalue hdenotes]
        constructor
        · exact fun hat => ⟨document, hparsed, hat⟩
        · rintro ⟨other, hother, hat⟩
          rwa [← hsame other hother]
  · rw [hread]
    exact ⟨document, hparsed, hrejected⟩

theorem parseCliAppOptions_starts (hnone : options.accessPointAttributes = ∅) :
    Starts parse file options (parseCliAppOptions parse file options) := by
  by_cases hpath : options.jsonConfigurationFilePath = []
  · rw [parseCliAppOptions, if_pos hpath]
    refine ⟨configured_of_empty (.inr rfl) hnone ?_, ?_, ?_⟩
    all_goals exact fun _ hparsed => absurd hpath hparsed.1
  · cases hparse : parse (file options.jsonConfigurationFilePath) with
    | error exception => exact parseCliAppOptions_of_exception ⟨hpath, hparse⟩
    | ok document => exact parseCliAppOptions_of_document ⟨hpath, hparse⟩ hnone

end Parse

section Items

theorem exists_of_mem_mapM {ε α β : Type} {f : α → Except ε β} {as : List α} {bs : List β}
    (h : as.mapM f = .ok bs) {b : β} (hb : b ∈ bs) : ∃ a ∈ as, f a = .ok b := by
  induction as generalizing bs with
  | nil =>
      cases h
      cases hb
  | cons a as ih =>
      rw [List.mapM_cons] at h
      cases hfirst : f a with
      | error fault =>
          rw [hfirst] at h
          cases h
      | ok first =>
          cases hrest : as.mapM f with
          | error fault =>
              rw [hfirst, hrest] at h
              cases h
          | ok rest =>
              rw [hfirst, hrest] at h
              cases h
              rcases List.mem_cons.mp hb with rfl | hmem
              · exact ⟨a, List.mem_cons_self, hfirst⟩
              · obtain ⟨other, hother, hvalue⟩ := ih hrest hmem
                exact ⟨other, List.mem_cons_of_mem _ hother, hvalue⟩

-- An item that is not marked is that of an access point, with its attributes.
theorem attributes_of_item {accessPoint : Service.Enumerate.AccessPoint}
    {item : WifiAccessPointsEnumerateResultItem}
    (h : accessPointToNetRemoteAccessPointResultItem accessPoint = .ok item)
    (hvalid : item.accessPointId ≠ AccessPointIdInvalid) :
    item.accessPointId = accessPoint.interfaceName ∧
      item.attributes = some (toDot11AccessPointAttributes accessPoint.attributes) := by
  unfold accessPointToNetRemoteAccessPointResultItem at h
  cases hcontroller : accessPoint.createController with
  | error fault =>
      rw [hcontroller] at h
      cases h
  | ok created =>
      rw [hcontroller] at h
      cases created with
      | none =>
          cases h
          exact absurd rfl hvalid
      | some accessPointController =>
          cases h
          simp only [Option.elim_some, resultItemOf] at hvalid ⊢
          split_ifs at hvalid ⊢
          · exact absurd rfl hvalid
          · exact absurd rfl hvalid
          · exact ⟨rfl, rfl⟩

theorem reported_of_configured {parse : Json.Parser} {file : ByteString → ByteString}
    {options configuration : NetRemoteServerConfiguration}
    (hconfigured : Configured parse file options configuration)
    {nl80211Interfaces : List Interface} {result : WifiAccessPointsEnumerateResult}
    (hresult : enumerateConfigured configuration nl80211Interfaces = .ok result)
    {item : WifiAccessPointsEnumerateResultItem} (hitem : item ∈ result.accessPoints) :
    ∃ attributes, item.attributes = some attributes ∧ ∀ property text,
      attributes.properties.lookup property = some text ↔
        ∃ document, Parsed parse file options (.ok document) ∧
          At (PropertyPath item.accessPointId property) document (.String text) := by
  unfold enumerateConfigured wifiAccessPointsEnumerate at hresult
  cases hitems : (nl80211Interfaces.map fun nl80211Interface =>
      some (makeAccessPoint configuration.accessPointAttributes nl80211Interface)).mapM
        accessPointWeakToNetRemoteAccessPointResultItem with
  | error fault =>
      rw [hitems] at hresult
      cases hresult
  | ok items =>
      rw [hitems] at hresult
      cases hresult
      obtain ⟨hmem, hvalid⟩ := List.mem_filter.mp hitem
      obtain ⟨accessPointWeak, hmade, hreported⟩ := exists_of_mem_mapM hitems hmem
      obtain ⟨nl80211Interface, -, rfl⟩ := List.mem_map.mp hmade
      obtain ⟨hid, hattributes⟩ := attributes_of_item hreported (by
        simpa [netRemoteAccessPointResultItemIsInvalid] using hvalid)
      refine ⟨_, hattributes, fun property text => ?_⟩
      rw [hid, ← hconfigured.held]
      change ((configuration.accessPointAttributes.lookup nl80211Interface.name).getD
        {}).properties.lookup property = some text ↔
          ∃ accessPointAttributes,
            configuration.accessPointAttributes.lookup nl80211Interface.name =
              some accessPointAttributes ∧
            accessPointAttributes.properties.lookup property = some text
      cases configuration.accessPointAttributes.lookup nl80211Interface.name <;> simp

end Items

-- The properties in a configuration file are those that are reported, for each access
-- point under its own name.
theorem configured_reported (parse : Json.Parser) (file : ByteString → ByteString)
    (options : NetRemoteServerConfiguration) (hnone : options.accessPointAttributes = ∅) :
    Starts parse file options (parseCliAppOptions parse file options) ∧
      ∀ configuration, parseCliAppOptions parse file options = .ok configuration →
        ∀ nl80211Interfaces result,
          enumerateConfigured configuration nl80211Interfaces = .ok result →
          ∀ item ∈ result.accessPoints,
            ∃ attributes, item.attributes = some attributes ∧ ∀ property text,
              attributes.properties.lookup property = some text ↔
                ∃ document, Parsed parse file options (.ok document) ∧
                  At (PropertyPath item.accessPointId property) document (.String text) := by
  have hstarts : Starts parse file options (parseCliAppOptions parse file options) :=
    parseCliAppOptions_starts hnone
  refine ⟨hstarts, fun configuration hok nl80211Interfaces result hresult item hitem => ?_⟩
  rw [hok] at hstarts
  exact reported_of_configured hstarts.1 hresult hitem

def siteDocument : Json :=
  .Object [(AccessPointAttributesKey,
    .Object [(str "wlan0",
      .Object [(str "Properties", .Object [(str "site", .String (str "7"))])])])]

-- A text of that document, a number that is too large, and attributes that are no object.
def parseSites (json : ByteString) : Except Json.Exception Json :=
  if json = str "sites" then .ok siteDocument
  else if json = str "1e999" then .error (.OutOfRange 406)
  else .ok (.Object [(AccessPointAttributesKey, .Null)])

def atPath (path : ByteString) : NetRemoteServerConfiguration :=
  { jsonConfigurationFilePath := path }

theorem configured_reported_site :
    parseCliAppOptions parseSites id (atPath (str "1e999")) = .error .Terminate ∧
      parseCliAppOptions parseSites id (atPath (str "null")) = .error .UndefinedBehavior ∧
      Starts parseSites id (atPath (str "sites"))
        (parseCliAppOptions parseSites id (atPath (str "sites"))) ∧
      ∀ configuration, parseCliAppOptions parseSites id (atPath (str "sites")) = .ok configuration →
        ∀ nl80211Interfaces result,
          enumerateConfigured configuration nl80211Interfaces = .ok result →
          ∀ item ∈ result.accessPoints,
            ∃ attributes, item.attributes = some attributes ∧ ∀ property text,
              attributes.properties.lookup property = some text ↔
                ∃ document, Parsed parseSites id (atPath (str "sites")) (.ok document) ∧
                  At (PropertyPath item.accessPointId property) document (.String text) :=
  ⟨rfl, rfl, configured_reported parseSites id (atPath (str "sites")) rfl⟩

end NetRemote.Server.NetRemoteServerConfiguration
