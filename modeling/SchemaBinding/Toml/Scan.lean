/-! # Scanning characters
A scanner reads the beginning of a text and gives what it stands for and the rest. It fails without
a reason, because a malformed document is refused as a whole. -/

namespace SchemaBinding.Toml

/-- The **input** of a scanner: characters, with their number at hand. -/
structure Input where
  chars : List Char
  left : Nat
  left_eq : left = chars.length

namespace Input

/-- A text as an input. -/
def ofString (text : String) : Input := ⟨text.toList, text.toList.length, rfl⟩

/-- The first character and what follows it. -/
def next? : Input → Option (Char × Input)
  | ⟨[], _, _⟩ => none
  | ⟨c :: rest, left, h⟩ => some (c, ⟨rest, left - 1, by simp [h]⟩)

/-- As many characters of a class as there are, and what follows them. -/
def span (p : Char → Bool) (input : Input) : List Char × Input :=
  let found := input.chars.takeWhile p
  (found, ⟨input.chars.dropWhile p, input.left - found.length, by
    have h : found.length + (input.chars.dropWhile p).length = input.chars.length := by
      rw [← List.length_append, List.takeWhile_append_dropWhile]
    have := input.left_eq
    omega⟩)

end Input

/-- A **scanner** of values of a type. -/
abbrev Scan (α : Type) := StateT Input Option α

namespace Scan

variable {α β : Type}

/-- A scanner by its effect on an input. -/
def of (f : Input → Option (α × Input)) : Scan α := f

/-- The next character, left in place; none at the end. -/
def peek : Scan (Option Char) := of fun input => some (input.chars.head?, input)

/-- A character of a class. -/
def charOf (p : Char → Bool) : Scan Char := of fun input => do
  let (c, rest) ← input.next?
  if p c then some (c, rest) else none

/-- A given character. -/
def char (c : Char) : Scan Unit := do let _ ← charOf (· == c)

/-- Given characters in a row. -/
def chars : List Char → Scan Unit
  | [] => pure ()
  | c :: cs => do char c; chars cs

/-- As many characters of a class as there are. -/
def span (p : Char → Bool) : Scan (List Char) := of fun input => some (input.span p)

/-- At least one character of a class. -/
def span1 (p : Char → Bool) : Scan (List Char) := do
  let c ← charOf p
  return c :: (← span p)

/-- A given number of characters of a class. -/
def exactly (p : Char → Bool) : Nat → Scan (List Char)
  | 0 => pure []
  | n + 1 => do
    let c ← charOf p
    return c :: (← exactly p n)

/-- One scanner, or the other from the same place. -/
def or (p q : Scan α) : Scan α := of fun input =>
  match p input with
  | some result => some result
  | none => q input

/-- What a scanner finds, or none from the same place. -/
def optional (p : Scan α) : Scan (Option α) := of fun input =>
  match p input with
  | some (a, rest) => some (some a, rest)
  | none => some (none, input)

/-- Repeats a scanner while it succeeds and moves on. -/
def manyOf (p : Scan α) (input : Input) : List α × Input :=
  match p input with
  | some (a, rest) =>
    if rest.left < input.left then
      let (found, rest) := manyOf p rest
      (a :: found, rest)
    else ([], input)
  | none => ([], input)
termination_by input.left

/-- What a scanner finds in repetition. -/
def many (p : Scan α) : Scan (List α) := of fun input => some (manyOf p input)

/-- What a scanner finds between separators, at least once. -/
def sepBy1 (p : Scan α) (sep : Scan Unit) : Scan (List α) := do
  let first ← p
  let rest ← many do sep; p
  return first :: rest

/-- What a scanner finds between separators. -/
def sepBy (p : Scan α) (sep : Scan Unit) : Scan (List α) := or (sepBy1 p sep) (pure [])

/-- The end of the text. -/
def eof : Scan Unit := do
  if (← peek).isSome then failure

end Scan

/-- Spaces and tabs. -/
def isBlank (c : Char) : Bool := c == ' ' || c == '\t'

/-- Characters beyond ASCII, which strings and comments take as they are. -/
def isBeyondAscii (c : Char) : Bool := 0x80 ≤ c.toNat

/-- The characters of a comment: all but controls other than the tab. -/
def isCommentChar (c : Char) : Bool :=
  c == '\t' || (0x20 ≤ c.toNat && c.toNat ≤ 0x7e) || isBeyondAscii c

/-- Blanks, possibly none. -/
def blanks : Scan Unit := do let _ ← Scan.span isBlank

/-- A line feed, possibly after a carriage return. -/
def newline : Scan Unit := Scan.or (Scan.char '\n') (Scan.chars ['\r', '\n'])

/-- A comment up to the end of its line. -/
def comment : Scan Unit := do
  Scan.char '#'
  let _ ← Scan.span isCommentChar

/-- The end of a line: blanks, possibly a comment, and a line feed or the end of the text. -/
def lineEnd : Scan Unit := do
  blanks
  let _ ← Scan.optional comment
  Scan.or newline Scan.eof

/-- Blanks, comments and line feeds between the items of an array. -/
def gap : Scan Unit := do
  blanks
  let _ ← Scan.many do
    let _ ← Scan.optional comment
    newline
    blanks

end SchemaBinding.Toml
