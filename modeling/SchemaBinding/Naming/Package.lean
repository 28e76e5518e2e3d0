import SchemaBinding.Naming.Words

/-! # Package names from namespaces
A namespace names a package by its parts: those of a URN in order, or the host of a URL reversed and
then its path. -/

namespace SchemaBinding.Naming

open SchemaBinding.Text

/-- The parts of a text between separators, empty ones left out. -/
def parts (sep : Char) (text : List Char) : List (List Char) :=
  (splitOn sep text).filter fun part => !part.isEmpty

/-- A file name without its extension. Only an extension of two to four bytes after a nonempty stem
counts as one. -/
def withoutExtension (name : List Char) : List Char :=
  match cutAtLast '.' name with
  | some (stem, extension) =>
    if !stem.isEmpty && 2 ≤ byteLength extension && byteLength extension ≤ 4 then stem else name
  | none => name

/-- The host of a URL as package parts: cut at its first colon, without a leading `www`, the most
significant label first. -/
def hostParts (authority : List Char) : List (List Char) :=
  let host := match cutAt ':' authority with
    | some (host, _) => host
    | none => authority
  let labels := parts '.' host
  let labels := match labels with
    | first :: rest => if first = ['w', 'w', 'w'] then rest else first :: rest
    | [] => []
  labels.reverse

/-- Changes the last element of a list. -/
def mapLast {α : Type} (f : α → α) : List α → List α
  | [] => []
  | [last] => [f last]
  | first :: second :: rest => first :: mapLast f (second :: rest)

/-- The path of a URL as package parts; the last one loses its extension. -/
def pathParts (path : List Char) : List (List Char) :=
  mapLast withoutExtension (parts '/' path)

/-- The parts that a namespace contributes to a package name. -/
def namespaceParts (ns : List Char) : List (List Char) :=
  match afterStart ['u', 'r', 'n', ':'] ns with
  | some rest => splitOn ':' rest
  | none =>
    let rest := match afterFirst [':', '/', '/'] ns with
      | some rest => rest
      | none => ns
    let (authority, path) := match cutAt '/' rest with
      | some cut => cut
      | none => (rest, [])
    hostParts authority ++ pathParts path

/-- A part made into a segment of a package name: in lower case, with `_` for every character that
is neither letter nor number. -/
def packageSegment (part : List Char) : List Char :=
  guardReserved <| guardNumber <| (lowercase part).map fun c =>
    if isAlphanumeric c || c == '_' then c else '_'

/-- The package name for a namespace; none for a namespace without parts. -/
def packageName (ns : String) : Option String :=
  match (namespaceParts ns.toList).filter fun part => !part.isEmpty with
  | [] => none
  | segments =>
    some (String.intercalate "." (segments.map fun part => String.ofList (packageSegment part)))

end SchemaBinding.Naming
