import SchemaBinding.Source.Locator
import SchemaBinding.Text.Split

/-! # Registered sources
The texts that locators point into. A locator is resolved to a range of bytes: its own span, or the
line it names with the line feed that ends it. -/

namespace SchemaBinding

/-- A registered source text. -/
structure SourceFile where
  name : String
  text : String
  deriving DecidableEq, Repr, Inhabited

/-- A range of bytes in a registered source. -/
structure Location where
  file : Nat
  start : Nat
  stop : Nat
  deriving DecidableEq, Repr, Inhabited

/-- The lines of a text, each with the line feed that ends it. The last line has none, and is
empty after a final line feed. -/
def sourceLines : List Char → List (List Char)
  | [] => [[]]
  | c :: rest =>
    if c = '\n' then [c] :: sourceLines rest
    else match sourceLines rest with
      | [] => [[c]]
      | line :: lines => (c :: line) :: lines

/-- The byte range of the line at an index, counted from zero. -/
def lineRange? (text : List Char) (index : Nat) : Option (Nat × Nat) :=
  let lines := sourceLines text
  lines[index]?.map fun line =>
    let start := Text.byteLength (lines.take index).flatten
    (start, start + Text.byteLength line)

/-- The line and the column of a byte offset, counted in characters from the given ones. -/
def positionFrom (line column : Nat) : List Char → Nat → Nat × Nat
  | [], _ => (line, column)
  | c :: rest, offset =>
    if offset < c.utf8Size then (line, column)
    else if c = '\n' then positionFrom (line + 1) 1 rest (offset - c.utf8Size)
    else positionFrom line (column + 1) rest (offset - c.utf8Size)

/-- The **registered sources**, in the order of registration. -/
structure Sources where
  files : List SourceFile := []
  deriving DecidableEq, Repr, Inhabited

namespace Sources

/-- The index of a source by its name. -/
def index? (s : Sources) (name : String) : Option Nat :=
  (s.files.map SourceFile.name).idxOf? name

/-- Registers a source and gives its index. A name keeps the text it was first registered with. -/
def add (s : Sources) (name text : String) : Nat × Sources :=
  match s.index? name with
  | some index => (index, s)
  | none => (s.files.length, ⟨s.files ++ [⟨name, text⟩]⟩)

/-- Where a location begins: the name of its source, the line and the column. -/
def place? (s : Sources) (l : Location) : Option String :=
  s.files[l.file]?.map fun file =>
    let (line, column) := positionFrom 1 1 file.text.toList l.start
    file.name ++ ":" ++ toString line ++ ":" ++ toString column

/-- The range that a locator stands for. A span is taken as it is; a line has to exist in the
source. -/
def locate? (s : Sources) (l : Locator) : Option Location := do
  let name ← l.fileName?
  let index ← s.index? name
  match l.span with
  | some (start, stop) => return ⟨index, start, stop⟩
  | none =>
    let file ← s.files[index]?
    match ← l.line with
    | 0 => none
    | line + 1 =>
      let (start, stop) ← lineRange? file.text.toList line
      return ⟨index, start, stop⟩

end Sources

end SchemaBinding
