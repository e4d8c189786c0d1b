import NetRemote.Foundation.Json

namespace NetRemote.Wifi

open Foundation Foundation.Bytes

structure AccessPointAttributes where
  properties : Table ByteString ByteString := ∅

namespace AccessPointAttributes

open Json

def fromJson : Json.Conversion AccessPointAttributes := fun accessPointAttributesJson =>
  (getAt (str "Properties") (getObject getString) accessPointAttributesJson).map fun properties =>
    { properties }

def toJson (traversal : Table.Traversal ByteString ByteString)
    (accessPointAttributes : AccessPointAttributes) : Json :=
  .Object [(str "Properties", ofTable traversal .String accessPointAttributes.properties)]

-- Only the exception of a malformed text is caught.
def parseAccessPointAttributesFromJson (parse : Json.Parser) (json : ByteString) :
    Except Json.Exception (Option (Table ByteString AccessPointAttributes)) :=
  let accessPointAttributesMap := do
    let accessPointAttributesJson ← parse json
    getObject fromJson accessPointAttributesJson
  match accessPointAttributesMap with
  | .ok accessPointAttributesMap => .ok (some accessPointAttributesMap)
  | .error .ParseError => .ok none
  | .error exception => .error exception

section Denotation

-- The attributes that a document stands for.
def Denotes (json : Json) (accessPointAttributes : AccessPointAttributes) : Prop :=
  MemberIs (ObjectIs StringIs) (str "Properties") json accessPointAttributes.properties

def MapDenotes : Json → Table ByteString AccessPointAttributes → Prop := ObjectIs Denotes

theorem fromJson_reads : fromJson.Reads Denotes :=
  (getAt_reads (str "Properties") (getObject_reads getString_reads)).map _
    (fun _ _ hproperties => hproperties)
    (fun _ accessPointAttributes hproperties => ⟨accessPointAttributes.properties, hproperties⟩)

theorem toJson_denotes (traversal : Table.Traversal ByteString ByteString)
    (accessPointAttributes : AccessPointAttributes) :
    Denotes (accessPointAttributes.toJson traversal) accessPointAttributes :=
  ⟨_, _, rfl, List.lookup_cons_self, ofTable_objectIs traversal (fun _ => rfl) _⟩

theorem Denotes.lookup_eq {json : Json} {accessPointAttributes other : AccessPointAttributes}
    (h : Denotes json accessPointAttributes) (hother : Denotes json other) (key : ByteString) :
    accessPointAttributes.properties.lookup key = other.properties.lookup key := by
  obtain ⟨members, properties, rfl, hlookup, hproperties⟩ := h
  obtain ⟨others, otherProperties, hjson, hlookupOther, hotherProperties⟩ := hother
  obtain rfl := Json.Object.inj hjson
  obtain rfl := Option.some.inj (hlookup.symm.trans hlookupOther)
  refine ObjectIs.lookup_eq ?_ hproperties hotherProperties key
  rintro _ text other rfl hother
  exact Json.String.inj hother

-- Attributes that are written out are read back, with the same properties.
theorem fromJson_toJson (traversal : Table.Traversal ByteString ByteString)
    (accessPointAttributes : AccessPointAttributes) :
    ∃ read, fromJson (accessPointAttributes.toJson traversal) = .ok read ∧
      ∀ key, read.properties.lookup key = accessPointAttributes.properties.lookup key := by
  have hdenotes := toJson_denotes traversal accessPointAttributes
  obtain ⟨read, hread⟩ := fromJson_reads.complete _ _ hdenotes
  exact ⟨read, hread, (fromJson_reads.sound _ _ hread).lookup_eq hdenotes⟩

end Denotation

section Shape

-- An object of objects, each with an object of strings for its properties.
def PropertiesShaped (json : Json) : Prop :=
  ∃ members, json = .Object members ∧ ∀ member ∈ members, ∃ text, member.2 = .String text

def AttributesShaped (json : Json) : Prop :=
  ∃ members properties, json = .Object members ∧
    members.lookup (str "Properties") = some properties ∧ PropertiesShaped properties

def MapShaped (json : Json) : Prop :=
  ∃ members, json = .Object members ∧ ∀ member ∈ members, AttributesShaped member.2

theorem exists_denotes_iff (json : Json) :
    (∃ accessPointAttributes, Denotes json accessPointAttributes) ↔ AttributesShaped json := by
  constructor
  · rintro ⟨accessPointAttributes, members, properties, hjson, hlookup, hproperties⟩
    have hshaped := (exists_objectIs_iff getString_reads properties).mp ⟨_, hproperties⟩
    exact ⟨members, properties, hjson, hlookup, hshaped⟩
  · rintro ⟨members, properties, hjson, hlookup, hshaped⟩
    obtain ⟨table, htable⟩ := (exists_objectIs_iff getString_reads properties).mpr hshaped
    exact ⟨⟨table⟩, members, properties, hjson, hlookup, htable⟩

theorem exists_mapDenotes_iff (json : Json) :
    (∃ accessPointAttributesMap, MapDenotes json accessPointAttributesMap) ↔ MapShaped json := by
  rw [MapDenotes, exists_objectIs_iff fromJson_reads]
  simp only [exists_denotes_iff, MapShaped]

end Shape

section Parse

variable (parse : Json.Parser) (json : ByteString)

-- The text is answered with the map that it stands for, or with no map if it stands for
-- none.
def Reported : Prop :=
  ∃ reported, parseAccessPointAttributesFromJson parse json = .ok reported ∧
    (∀ accessPointAttributesMap, reported = some accessPointAttributesMap →
      ∃ document, parse json = .ok document ∧ MapDenotes document accessPointAttributesMap) ∧
    (reported = none →
      ∀ document, parse json = .ok document →
        ¬∃ accessPointAttributesMap, MapDenotes document accessPointAttributesMap)

theorem parseAccessPointAttributesFromJson_malformed (h : parse json = .error .ParseError) :
    parseAccessPointAttributesFromJson parse json = .ok none := by
  simp only [parseAccessPointAttributesFromJson, h, bind, Except.bind]

theorem parseAccessPointAttributesFromJson_failed {exception : Json.Exception}
    (h : parse json = .error exception) (hne : exception ≠ .ParseError) :
    parseAccessPointAttributesFromJson parse json = .error exception := by
  cases exception with
  | ParseError => exact absurd rfl hne
  | TypeError => simp only [parseAccessPointAttributesFromJson, h, bind, Except.bind]
  | OutOfRange => simp only [parseAccessPointAttributesFromJson, h, bind, Except.bind]

-- A document's fault is never a parse error, so that nothing catches it.
theorem parseAccessPointAttributesFromJson_document {document : Json}
    (h : parse json = .ok document) :
    parseAccessPointAttributesFromJson parse json = (getObject fromJson document).map some := by
  have hstructural := (getObject_reads fromJson_reads).structural document
  simp only [parseAccessPointAttributesFromJson, h, bind, Except.bind]
  cases hread : getObject fromJson document with
  | ok => rfl
  | error exception =>
      cases exception with
      | ParseError => exact absurd hread hstructural
      | TypeError => rfl
      | OutOfRange => rfl

theorem parseAccessPointAttributesFromJson_reported_iff :
    Reported parse json ↔
      parse json = .error .ParseError ∨
        ∃ document, parse json = .ok document ∧ MapShaped document := by
  have hreads := getObject_reads fromJson_reads
  constructor
  · rintro ⟨reported, hreported, -, -⟩
    cases hparse : parse json with
    | error exception =>
        by_cases hmalformed : exception = .ParseError
        · exact .inl (congrArg _ hmalformed)
        · rw [parseAccessPointAttributesFromJson_failed parse json hparse hmalformed] at hreported
          cases hreported
    | ok document =>
        rw [parseAccessPointAttributesFromJson_document parse json hparse] at hreported
        refine .inr ⟨document, rfl, (exists_mapDenotes_iff document).mp ?_⟩
        cases hread : getObject fromJson document with
        | error exception =>
            rw [hread] at hreported
            cases hreported
        | ok accessPointAttributesMap => exact ⟨_, hreads.sound document _ hread⟩
  · rintro (hmalformed | ⟨document, hparse, hshaped⟩)
    · refine ⟨none, parseAccessPointAttributesFromJson_malformed parse json hmalformed, nofun, ?_⟩
      intro _ document hparse
      cases hmalformed.symm.trans hparse
    · obtain ⟨_, hdenotes⟩ := (exists_mapDenotes_iff document).mpr hshaped
      obtain ⟨accessPointAttributesMap, hread⟩ := hreads.complete document _ hdenotes
      refine ⟨some accessPointAttributesMap, ?_, ?_, nofun⟩
      · rw [parseAccessPointAttributesFromJson_document parse json hparse, hread]
        rfl
      · intro other hother
        obtain rfl := Option.some.inj hother
        exact ⟨document, hparse, hreads.sound document _ hread⟩

-- An empty array and an access point without properties are well-formed texts.
def parseWrongShapes (json : ByteString) : Except Json.Exception Json :=
  if json = str "[]" then .ok (.Array [])
  else if json = str "\x7b\"wlan0\":\x7b\x7d\x7d" then .ok (.Object [(str "wlan0", .Object [])])
  else .error .ParseError

theorem wrongShapes_thrown :
    parseAccessPointAttributesFromJson parseWrongShapes (str "[]") = .error .mustBeOfType ∧
      parseAccessPointAttributesFromJson parseWrongShapes (str "\x7b\"wlan0\":\x7b\x7d\x7d") =
        .error .keyNotFound ∧
      ¬Reported parseWrongShapes (str "[]") ∧
      ¬Reported parseWrongShapes (str "\x7b\"wlan0\":\x7b\x7d\x7d") := by
  refine ⟨rfl, rfl, ?_, ?_⟩
  · rintro ⟨reported, hreported, -⟩
    cases hreported
  · rintro ⟨reported, hreported, -⟩
    cases hreported

end Parse

end AccessPointAttributes

end NetRemote.Wifi
