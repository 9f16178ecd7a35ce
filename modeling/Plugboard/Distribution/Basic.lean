import Plugboard.Json.Decode
import Plugboard.Text.Blank
import Plugboard.Text.Lines
import Plugboard.Text.Lowercase

/-!
# Distributions

A distribution is an installed package: a name, a version, headers that describe it, and the entry
points that it advertises. Names of headers compare without regard to the case of ASCII letters, and
a header may occur more than once.

An entry point names an object under a group by a value of the form `module:attribute [extras]`.
-/

namespace Plugboard

/-- Headers in the order in which they were given. -/
structure Headers where
  /-- Names and values. -/
  entries : List (String × String) := []
  deriving Repr, DecidableEq

namespace Headers

/-- Whether a header has a name, up to the case of ASCII letters. -/
def named (name : String) (header : String × String) : Bool :=
  Text.asciiLowercase header.1 = Text.asciiLowercase name

/-- Adds a header at the end. -/
def insert (h : Headers) (name value : String) : Headers := ⟨h.entries ++ [(name, value)]⟩

/-- The first value of a header. -/
def get? (h : Headers) (name : String) : Option String := (h.entries.find? (named name)).map (·.2)

/-- Every value of a header, in order. -/
def getAll (h : Headers) (name : String) : List String :=
  (h.entries.filter (named name)).map (·.2)

/-- Whether there is a header of a name. -/
def contains (h : Headers) (name : String) : Bool := (h.get? name).isSome

/-- The number of headers. -/
def size (h : Headers) : Nat := h.entries.length

/-- Headers in serialized form. -/
def toJson (h : Headers) : Json :=
  .obj [("entries", .arr (h.entries.map fun (name, value) => .arr [.str name, .str value]))]

/-- Headers from their serialized form. -/
def ofJson : Json → Json.Decoded Headers
  | .obj fields => do
    let entries? ← Json.field? fields "entries" (Json.asList Json.asPair)
    return ⟨← Json.present "entries" entries?⟩
  | .arr items => do
    let entries ← Json.itemAt "struct MetadataMap with 1 element" items 0 (Json.asList Json.asPair)
    Json.atMost 1 items
    return ⟨entries⟩
  | v => .error (.wrongType v "struct MetadataMap")

/-- The first value is the first of all values. -/
theorem get?_eq_head?_getAll (h : Headers) (name : String) :
    h.get? name = (h.getAll name).head? := by
  simp [get?, getAll, List.head?_filter]

end Headers

/-- An object that a distribution advertises. -/
structure EntryPoint where
  /-- The name that its plugin is registered under. -/
  name : String
  /-- The group that it belongs to. -/
  group : String
  /-- Where the object is found. -/
  value : String
  deriving Repr, DecidableEq

namespace EntryPoint

/-- The module of the value: what stands before the first colon. -/
def module (e : EntryPoint) : String :=
  match Text.cut? ':' e.value with
  | some (module, _) => Text.trim module
  | none => Text.trim e.value

/-- The attribute of the value: what stands after the first colon, without extras. -/
def attribute? (e : EntryPoint) : Option String :=
  (Text.cut? ':' e.value).map fun (_, rest) =>
    match Text.cut? '[' rest with
    | some (attr, _) => Text.trim attr
    | none => Text.trim rest

/-- An entry point in serialized form. -/
def toJson (e : EntryPoint) : Json :=
  .obj [("name", .str e.name), ("group", .str e.group), ("value", .str e.value)]

/-- An entry point from its serialized form. -/
def ofJson : Json → Json.Decoded EntryPoint
  | .obj fields => do
    let group? ← Json.field? fields "group" Json.asText
    let name? ← Json.field? fields "name" Json.asText
    let value? ← Json.field? fields "value" Json.asText
    let name ← Json.present "name" name?
    let group ← Json.present "group" group?
    let value ← Json.present "value" value?
    return { name, group, value }
  | .arr items => do
    let wanted := "struct EntryPoint with 3 elements"
    let name ← Json.itemAt wanted items 0 Json.asText
    let group ← Json.itemAt wanted items 1 Json.asText
    let value ← Json.itemAt wanted items 2 Json.asText
    Json.atMost 3 items
    return { name, group, value }
  | v => .error (.wrongType v "struct EntryPoint")

end EntryPoint

/-- An installed package. -/
structure Distribution where
  /-- Its name. -/
  name : String
  /-- Its version. -/
  version : String
  /-- The headers that describe it. -/
  headers : Headers
  /-- The entry points that it advertises. -/
  entryPoints : List EntryPoint
  deriving Repr, DecidableEq

namespace Distribution

/-- A distribution with the headers that state its name and version. -/
def new (name version : String) : Distribution :=
  { name, version
    headers := ⟨[("Metadata-Version", "2.1"), ("Name", name), ("Version", version)]⟩
    entryPoints := [] }

/-- The distribution that headers describe, if they state a name and a version. -/
def ofHeaders? (headers : Headers) (entryPoints : List EntryPoint) : Option Distribution := do
  let name ← headers.get? "Name"
  let version ← headers.get? "Version"
  return { name := Text.trim name, version := Text.trim version, headers, entryPoints }

/-- Adds a header. -/
def withHeader (d : Distribution) (name value : String) : Distribution :=
  { d with headers := d.headers.insert name value }

/-- Adds an entry point. -/
def withEntryPoint (d : Distribution) (group name value : String) : Distribution :=
  { d with entryPoints := d.entryPoints ++ [{ name, group, value }] }

/-- The entry points of a group. -/
def entryPointsIn (d : Distribution) (group : String) : List EntryPoint :=
  d.entryPoints.filter (·.group = group)

/-- A distribution as a message shows it. -/
def describe (d : Distribution) : String :=
  "DistFacade \x7b project_name: " ++ Text.quote d.name ++ ", version: " ++
    Text.quote d.version ++ " \x7d"

/-- A distribution in serialized form. -/
def toJson (d : Distribution) : Json :=
  .obj [("name", .str d.name), ("version", .str d.version), ("metadata", d.headers.toJson),
    ("entry_points", .arr (d.entryPoints.map EntryPoint.toJson))]

/-- A distribution from its serialized form. -/
def ofJson : Json → Json.Decoded Distribution
  | .obj fields => do
    let entryPoints? ← Json.field? fields "entry_points" (Json.asList EntryPoint.ofJson)
    let headers? ← Json.field? fields "metadata" Headers.ofJson
    let name? ← Json.field? fields "name" Json.asText
    let version? ← Json.field? fields "version" Json.asText
    let name ← Json.present "name" name?
    let version ← Json.present "version" version?
    let headers ← Json.present "metadata" headers?
    let entryPoints ← Json.present "entry_points" entryPoints?
    return { name, version, headers, entryPoints }
  | .arr items => do
    let wanted := "struct Distribution with 4 elements"
    let name ← Json.itemAt wanted items 0 Json.asText
    let version ← Json.itemAt wanted items 1 Json.asText
    let headers ← Json.itemAt wanted items 2 Headers.ofJson
    let entryPoints ← Json.itemAt wanted items 3 (Json.asList EntryPoint.ofJson)
    Json.atMost 4 items
    return { name, version, headers, entryPoints }
  | v => .error (.wrongType v "struct Distribution")

end Distribution

end Plugboard
