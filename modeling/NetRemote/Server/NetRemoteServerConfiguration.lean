import NetRemote.Service.NetRemoteService.Enumerate

namespace NetRemote.Server

open Foundation Foundation.Bytes Wifi Wpa Service.Enumerate

def AddressDefault : ByteString := str "0.0.0.0:5047"
def LogVerbosityDefault : UInt32 := 3

structure NetRemoteServerConfiguration where
  serverAddress : ByteString := AddressDefault
  runInBackground : Bool := false
  logVerbosity : UInt32 := LogVerbosityDefault
  enableFileLogging : Bool := false
  discoveryServiceFactory : Bool := false
  jsonConfigurationFilePath : ByteString := []
  accessPointAttributes : Table ByteString AccessPointAttributes := ∅

structure NetRemoteServerJsonConfiguration where
  accessPointAttributes : Option (Table ByteString AccessPointAttributes) := none

namespace NetRemoteServerJsonConfiguration

def AccessPointAttributesKey : ByteString := str "WifiAccessPointAttributes"

-- Only the exception of a malformed text is caught. A file that cannot be read is empty.
def parseFromFile (parse : Json.Parser) (file : ByteString) : Except Fault (Option Json) :=
  match parse file with
  | .ok configurationJson => .ok (some configurationJson)
  | .error .ParseError => .ok none
  | .error _ => .error .Terminate

def isObject : Json → Bool
  | .Object _ => true
  | _ => false

def contains (key : ByteString) : Json → Bool
  | .Object members => (members.lookup key).isSome
  | _ => false

def tryParseFromJson (configurationJson : Json) : Option NetRemoteServerJsonConfiguration :=
  if contains AccessPointAttributesKey configurationJson then
    let accessPointAttributes := do
      let accessPointAttributesJson ← Json.valueAt AccessPointAttributesKey configurationJson
      if !isObject accessPointAttributesJson then return none
      else
        let accessPointAttributes ←
          Json.getObject AccessPointAttributes.fromJson accessPointAttributesJson
        return some accessPointAttributes
    match accessPointAttributes with
    | .ok (some accessPointAttributes) => some { accessPointAttributes }
    | .ok none => none
    | .error _ => none
  else some {}

end NetRemoteServerJsonConfiguration

namespace NetRemoteServerConfiguration

-- The options of the command line are those that were stored. Whether the configuration
-- could be parsed is not looked at: what is checked once more is the document.
def parseCliAppOptions (parse : Json.Parser) (file : ByteString → ByteString)
    (configuration : NetRemoteServerConfiguration) : Except Fault NetRemoteServerConfiguration :=
  if configuration.jsonConfigurationFilePath = [] then .ok configuration
  else do
    let configurationJsonObject ← NetRemoteServerJsonConfiguration.parseFromFile parse
      (file configuration.jsonConfigurationFilePath)
    match configurationJsonObject with
    | none => .ok {}
    | some configurationJsonObject =>
        match NetRemoteServerJsonConfiguration.tryParseFromJson configurationJsonObject with
        | none => .error .UndefinedBehavior
        | some configurationJson =>
            match configurationJson.accessPointAttributes with
            | none => .ok configuration
            | some accessPointAttributes => .ok { configuration with accessPointAttributes }

end NetRemoteServerConfiguration

def AccessPointManager.getAccessPointAttributes
    (accessPointAttributes : Table ByteString AccessPointAttributes) (interfaceName : ByteString) :
    Option AccessPointAttributes :=
  accessPointAttributes.lookup interfaceName

-- An interface that was found, and what becomes of an attempt to control it.
structure Interface where
  name : ByteString
  macAddress : Ieee80211MacAddress
  createController : Except Fault (Option ((query : Controller.Request) → Controller.Reply query))

def makeAccessPoint (accessPointAttributes : Table ByteString AccessPointAttributes)
    (nl80211Interface : Interface) : Service.Enumerate.AccessPoint where
  interfaceName := nl80211Interface.name
  macAddress := nl80211Interface.macAddress
  attributes :=
    (AccessPointManager.getAccessPointAttributes accessPointAttributes
      nl80211Interface.name).getD {}
  createController := nl80211Interface.createController

-- The access points are those that were made for the interfaces.
def enumerateConfigured (configuration : NetRemoteServerConfiguration)
    (nl80211Interfaces : List Interface) : Except Fault WifiAccessPointsEnumerateResult :=
  wifiAccessPointsEnumerate (nl80211Interfaces.map fun nl80211Interface =>
    some (makeAccessPoint configuration.accessPointAttributes nl80211Interface))

namespace NetRemoteServerConfiguration

-- What a document has under a path of keys.
def At : List ByteString → Json → Json → Prop
  | [], json, value => json = value
  | key :: keys, json, value =>
      ∃ members member, json = .Object members ∧ members.lookup key = some member ∧
        At keys member value

def PropertyPath (interfaceName property : ByteString) : List ByteString :=
  [NetRemoteServerJsonConfiguration.AccessPointAttributesKey, interfaceName, str "Properties",
    property]

-- A document without attributes, or with attributes that are an object of objects.
def Accepted (document : Json) : Prop :=
  ∀ value, At [NetRemoteServerJsonConfiguration.AccessPointAttributesKey] document value →
    AccessPointAttributes.MapShaped value

open NetRemoteServerJsonConfiguration Json

section Parse

theorem tryParseFromJson_of_lookup {members : List (ByteString × Json)} {value : Json}
    (h : members.lookup AccessPointAttributesKey = some value) :
    tryParseFromJson (.Object members) =
      (getObject AccessPointAttributes.fromJson value).toOption.map fun accessPointAttributes =>
        { accessPointAttributes := some accessPointAttributes } := by
  have hcontains : contains AccessPointAttributesKey (.Object members) = true := by
    rw [contains, h, Option.isSome_some]
  rw [tryParseFromJson, if_pos hcontains]
  simp only [valueAt, h, Option.elim, bind, Except.bind]
  cases value with
  | Object entries =>
      cases getObject AccessPointAttributes.fromJson (.Object entries) <;> rfl
  | _ => rfl

theorem tryParseFromJson_of_none {document : Json}
    (h : ∀ value, ¬ At [AccessPointAttributesKey] document value) :
    tryParseFromJson document = some {} := by
  apply if_neg
  cases document with
  | Object members =>
      intro hcontains
      obtain ⟨value, hvalue⟩ := Option.isSome_iff_exists.mp hcontains
      exact h value ⟨members, value, rfl, hvalue, rfl⟩
  | _ => nofun

-- A document is accepted if and only if it yields what it stands for.
theorem tryParseFromJson_cases (document : Json) :
    (Accepted document ∧ ∃ accessPointAttributes : Option (Table ByteString AccessPointAttributes),
        tryParseFromJson document = some ⟨accessPointAttributes⟩ ∧
          (accessPointAttributes = none →
            ∀ value, ¬ At [AccessPointAttributesKey] document value) ∧
          ∀ attributes ∈ accessPointAttributes, ∃ value,
            At [AccessPointAttributesKey] document value ∧
              AccessPointAttributes.MapDenotes value attributes) ∨
      ¬ Accepted document ∧ tryParseFromJson document = none := by
  by_cases hnone : ∀ value, ¬ At [AccessPointAttributesKey] document value
  · refine .inl ⟨fun value hvalue => absurd hvalue (hnone value), none,
      tryParseFromJson_of_none hnone, fun _ => hnone, nofun⟩
  · obtain ⟨value, hvalue⟩ := not_forall_not.mp hnone
    have ⟨members, _, hdocument, hlookup, heq⟩ := hvalue
    cases heq
    subst hdocument
    have hreads := getObject_reads AccessPointAttributes.fromJson_reads
    rw [tryParseFromJson_of_lookup hlookup]
    cases hread : getObject AccessPointAttributes.fromJson value with
    | ok attributes =>
        have hdenotes := hreads.sound value attributes hread
        refine .inl ⟨?_, some attributes, rfl, nofun, ?_⟩
        · rintro other ⟨_, _, heq, hother, rfl⟩
          cases heq
          cases hlookup.symm.trans hother
          exact (AccessPointAttributes.exists_mapDenotes_iff _).mp ⟨attributes, hdenotes⟩
        · rintro _ ⟨⟩
          exact ⟨value, hvalue, hdenotes⟩
    | error exception =>
        refine .inr ⟨fun haccepted => ?_, rfl⟩
        obtain ⟨attributes, hdenotes⟩ :=
          (AccessPointAttributes.exists_mapDenotes_iff _).mpr (haccepted value hvalue)
        obtain ⟨read, hok⟩ := hreads.complete value attributes hdenotes
        cases hread.symm.trans hok

theorem at_object {members : List (ByteString × Json)} {key : ByteString} {keys : List ByteString}
    {value : Json} :
    At (key :: keys) (.Object members) value ↔
      ∃ member, members.lookup key = some member ∧ At keys member value := by
  constructor
  · rintro ⟨_, member, ⟨⟩, hlookup, hvalue⟩
    exact ⟨member, hlookup, hvalue⟩
  · rintro ⟨member, hlookup, hvalue⟩
    exact ⟨members, member, rfl, hlookup, hvalue⟩

-- What is looked up in a table is what the document has under the key.
theorem at_objectIs {ν : Type} {denotes : Json → ν → Prop} {json : Json}
    {table : Table ByteString ν} (h : ObjectIs denotes json table) (key : ByteString)
    {keys : List ByteString} {value : Json} {described : ν → Prop}
    (hdescribed : ∀ member content, denotes member content →
      (At keys member value ↔ described content)) :
    At (key :: keys) json value ↔
      ∃ content, table.lookup key = some content ∧ described content := by
  obtain ⟨members, rfl, -, hrelated⟩ := h
  rw [at_object]
  have hkey := hrelated key
  cases hmember : members.lookup key with
  | none =>
      rw [hmember] at hkey
      cases hcontent : table.lookup key with
      | none => simp
      | some content =>
          rw [hcontent] at hkey
          cases hkey
  | some member =>
      rw [hmember] at hkey
      cases hcontent : table.lookup key with
      | none =>
          rw [hcontent] at hkey
          cases hkey
      | some content =>
          rw [hcontent] at hkey
          cases hkey with
          | some hdenotes => simpa using hdescribed member content hdenotes

theorem property_iff {document value : Json} {attributes : Table ByteString AccessPointAttributes}
    (hvalue : At [AccessPointAttributesKey] document value)
    (hdenotes : AccessPointAttributes.MapDenotes value attributes)
    (interfaceName property text : ByteString) :
    (∃ accessPointAttributes, attributes.lookup interfaceName = some accessPointAttributes ∧
        accessPointAttributes.properties.lookup property = some text) ↔
      At (PropertyPath interfaceName property) document (.String text) := by
  obtain ⟨members, _, rfl, hlookup, heq⟩ := hvalue
  cases heq
  have hproperties : ∀ member (accessPointAttributes : AccessPointAttributes),
      AccessPointAttributes.Denotes member accessPointAttributes →
        (At [str "Properties", property] member (.String text) ↔
          accessPointAttributes.properties.lookup property = some text) := by
    rintro _ accessPointAttributes ⟨others, properties, rfl, hproperties, hobject⟩
    have hstring : ∀ member content, StringIs member content →
        (At [] member (.String text) ↔ content = text) := by
      rintro _ content rfl
      exact Json.String.injEq content text ▸ Iff.rfl
    have hproperty := at_objectIs hobject property hstring
    rw [at_object]
    simpa [hproperties] using hproperty
  have hinterface := at_objectIs hdenotes interfaceName hproperties
  rw [PropertyPath, at_object]
  simpa [hlookup] using hinterface.symm

end Parse

end NetRemoteServerConfiguration

end NetRemote.Server
