import SchemaBinding.Toml.Scalar
import SchemaBinding.Toml.Table

/-! # Documents
A document is a sequence of lines: keys with their values, headers, comments and empty lines. Each
header starts a section. `Value.ofText?` reads a text as the table it describes. -/

namespace SchemaBinding.Toml

/-- A key with its value, on either side of the equals sign. -/
def pair (value : Scan Value) : Scan (List String × String × Value) := do
  let (path, key) ← dottedKey
  Scan.char '='
  blanks
  return (path, key, ← value)

/-- An array of values; a comma may follow the last one. -/
def arrayOf (value : Scan Value) : Scan Value := do
  Scan.char '['
  let items ← Scan.sepBy (do gap; let v ← value; gap; return v) (Scan.char ',')
  if !items.isEmpty then
    let _ ← Scan.optional (Scan.char ',')
  gap
  Scan.char ']'
  return .array items

/-- A table between braces, on one line of its own. -/
def inlineTableOf (value : Scan Value) : Scan Value := do
  Scan.char '\x7b'
  let pairs ← Scan.sepBy (do let p ← pair value; blanks; return p) (Scan.char ',')
  blanks
  Scan.char '\x7d'
  match defineAll pairs [] with
  | some entries => return .table .inline (sealedEntries entries)
  | none => failure

/-- A value with at most the given number of levels of arrays and inline tables. -/
def valueWithin : Nat → Scan Value
  | 0 => scalar
  | levels + 1 => do
    match ← Scan.peek with
    | some '[' => arrayOf (valueWithin levels)
    | some '\x7b' => inlineTableOf (valueWithin levels)
    | _ => scalar

/-- What a line of a document holds. -/
inductive Line where
  | blank
  | pair (path : List String) (key : String) (value : Value)
  | header (header : Header)

/-- A header between brackets, with the line that it stands on. -/
def headerLine : Scan Line :=
  Scan.or
    (do
      Scan.chars ['[', '[']
      let (path, key) ← dottedKey
      Scan.chars [']', ']']
      lineEnd
      return .header (.tables path key))
    (do
      Scan.char '['
      let (path, key) ← dottedKey
      Scan.char ']'
      lineEnd
      return .header (.table path key))

/-- A line of a document. -/
def line : Scan Line := do
  blanks
  match ← Scan.peek with
  | some '[' => headerLine
  | some '#' | some '\n' | some '\r' => do lineEnd; return .blank
  | _ =>
    let (path, key, v) ← pair (valueWithin nestingLimit)
    lineEnd
    return .pair path key v

/-- The sections of a list of lines, where `header` and `pairs` are those of the section under
construction, the last pair first. -/
def sectionsFrom (header : Header) (pairs : List (List String × String × Value)) :
    List Line → List Section
  | [] => [⟨header, pairs.reverse⟩]
  | .blank :: rest => sectionsFrom header pairs rest
  | .pair path key v :: rest => sectionsFrom header ((path, key, v) :: pairs) rest
  | .header next :: rest => ⟨header, pairs.reverse⟩ :: sectionsFrom next [] rest

/-- The lines of a document, possibly behind a byte order mark. -/
def document : Scan (List Line) := do
  let _ ← Scan.optional (Scan.char '\ufeff')
  let lines ← Scan.many line
  blanks
  Scan.eof
  return lines

/-- The table that a text describes; none for a text that is not a document. -/
def Value.ofText? (text : String) : Option Value := do
  let (lines, _) ← document (Input.ofString text)
  let entries ← assemble (sectionsFrom .document [] lines)
  return .table .header entries

end SchemaBinding.Toml
