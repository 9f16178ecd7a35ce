import Plugboard.Distribution.Basic
import Plugboard.Text.Order

/-!
# What a distribution says about its plugin

A `DistMeta` is the short description of a plugin that administrators see. It is drawn from the
headers of the plugin's distribution: who wrote it, under which license, and where its home page is.
What the headers do not say is empty.
-/

namespace Plugboard

/-- The short description of a plugin. -/
structure DistMeta where
  /-- The name of the plugin. -/
  name : String
  /-- The name of its distribution. -/
  packageName : String
  /-- The version of its distribution. -/
  version : String
  /-- What it does, in a line. -/
  summary : String
  /-- Who maintains it, or who wrote it. -/
  author : String
  /-- Its license, or where to read it. -/
  license : String
  /-- Its home page. -/
  url : String
  deriving Repr, DecidableEq

namespace DistMeta

/-- The labels under which the address of a home page is given. -/
def urlLabels : List String := ["homepage", "source", "sourcecode", "repository"]

/-- A label in lower case, without punctuation and white space. -/
def normalizeLabel (label : String) : String :=
  .ofList ((label.toList.filter fun c => !Text.isAsciiPunctuation c && !Text.isBlank c).flatMap
    Text.lowerChar)

/-- The parts of an address list between the commas outside double quotes, as byte offsets: where a
    part begins, and where it ends. `here` is the offset of the characters that are left, `start`
    where the part that is open begins, and `quoted` says whether what is left is inside quotes. -/
def addressSpans (quoted : Bool) (start here : String.Pos.Raw) :
    List Char → List (String.Pos.Raw × String.Pos.Raw)
  | [] => [(start, here)]
  | c :: rest =>
    if c = ',' ∧ quoted = false then
      (start, here) :: addressSpans quoted ⟨here.byteIdx + 1⟩ (here + c) rest
    else addressSpans (if c = '"' then !quoted else quoted) start (here + c) rest

/-- The addresses of an address list: what it holds between the offsets of each part. -/
def splitAddresses (value : String) : List String :=
  (addressSpans false 0 0 value.toList).map fun (start, stop) =>
    String.Pos.Raw.extract value start stop

/-- Characters without the double quotes at both ends. -/
def trimQuotes (cs : List Char) : List Char :=
  ((cs.dropWhile (· = '"')).reverse.dropWhile (· = '"')).reverse

/-- The name shown for an address: what stands before the first `<`, without quotes. -/
def displayName (address : String) : String :=
  let before := address.toList.takeWhile (· ≠ '<')
  .ofList (Text.trimChars (trimQuotes (Text.trimChars before)))

/-- The names shown for the addresses of some address lists, if there are any. -/
def displayNames? (values : List String) : Option String :=
  let names := ((values.flatMap splitAddresses).map displayName).filter (· ≠ "")
  if names.isEmpty then none else some (Text.joinWith ", " names)

/-- The maintainers, or else the authors. -/
def authorOf (h : Headers) : String :=
  (Text.nonBlank? (h.get? "Maintainer")
    <|> displayNames? (h.getAll "Maintainer-Email")
    <|> Text.nonBlank? (h.get? "Author")
    <|> displayNames? (h.getAll "Author-Email")).getD ""

/-- The license, or else the file that holds it. -/
def licenseOf (h : Headers) : String :=
  match Text.nonBlank? (h.get? "License-Expression") with
  | some expression => expression
  | none =>
    match Text.nonBlank? (h.get? "License-File") with
    | some file => "See the provided " ++ file
    | none => ""

/-- The address of the home page: of the project addresses with a label for it, the first in order
    of their text. -/
def urlOf (h : Headers) : String :=
  let labelled := (Text.sort (h.getAll "Project-Url")).filterMap (Text.cut? ',')
  match labelled.find? fun (label, _) => urlLabels.contains (normalizeLabel label) with
  | some (_, url) => Text.trim url
  | none => ""

/-- The description of a plugin loaded under a name. -/
def ofDistribution (name : String) (d : Distribution) : DistMeta :=
  { name
    packageName := d.name
    version := d.version
    summary := Text.trim ((d.headers.get? "Summary").getD "")
    author := authorOf d.headers
    license := licenseOf d.headers
    url := urlOf d.headers }

/-- A description in serialized form. -/
def toJson (m : DistMeta) : Json :=
  .obj [("name", .str m.name), ("package_name", .str m.packageName), ("version", .str m.version),
    ("summary", .str m.summary), ("author", .str m.author), ("license", .str m.license),
    ("url", .str m.url)]

end DistMeta

end Plugboard
