import SchemaBinding.Toml.Scan

/-! # Strings and keys
The four kinds of strings. Basic strings have escapes, literal strings have none; between three
quotation marks a string may span lines, and a line feed right after the opening marks is left
out. -/

namespace SchemaBinding.Toml

/-- The value of a hexadecimal digit. -/
def hexValue? (c : Char) : Option Nat :=
  if '0' ≤ c && c ≤ '9' then some (c.toNat - '0'.toNat)
  else if 'a' ≤ c && c ≤ 'f' then some (c.toNat - 'a'.toNat + 10)
  else if 'A' ≤ c && c ≤ 'F' then some (c.toNat - 'A'.toNat + 10)
  else none

/-- The number that hexadecimal digits stand for. -/
def hexNumber? (digits : List Char) : Option Nat :=
  digits.foldlM (fun n c => (hexValue? c).map (16 * n + ·)) 0

/-- The character of a code point, unless it is a surrogate or out of range. -/
def charOfCode? (code : Nat) : Option Char :=
  if code.isValidChar then some (Char.ofNat code) else none

/-- The character that an escape of one letter stands for. -/
def escaped? : Char → Option Char
  | 'b' => some '\x08'
  | 't' => some '\t'
  | 'n' => some '\n'
  | 'f' => some '\x0c'
  | 'r' => some '\r'
  | '"' => some '"'
  | '\\' => some '\\'
  | _ => none

/-- The character of a code point in a given number of hexadecimal digits. -/
def codePoint (count : Nat) : Scan Char := do
  let digits ← Scan.exactly (fun c => (hexValue? c).isSome) count
  StateT.lift ((hexNumber? digits).bind charOfCode?)

/-- An escaped character, behind the backslash. -/
def escape : Scan Char := do
  match ← Scan.charOf fun _ => true with
  | 'u' => codePoint 4
  | 'U' => codePoint 8
  | c => StateT.lift (escaped? c)

/-- The characters that stand for themselves in a basic string, line feeds apart. -/
def isBasicChar (c : Char) : Bool := isCommentChar c && c != '"' && c != '\\'

/-- The characters of a literal string, line feeds apart. -/
def isLiteralChar (c : Char) : Bool := isCommentChar c && c != '\''

/-- A character of a basic string, escaped or not. -/
def basicChar : Scan Char :=
  Scan.or (Scan.charOf isBasicChar) do
    Scan.char '\\'
    escape

/-- A basic string on one line. -/
def basicString : Scan String := do
  Scan.char '"'
  let cs ← Scan.many basicChar
  Scan.char '"'
  return String.ofList cs

/-- A literal string on one line. -/
def literalString : Scan String := do
  Scan.char '\''
  let cs ← Scan.span isLiteralChar
  Scan.char '\''
  return String.ofList cs

/-- A line feed as it counts in a string: without its carriage return. -/
def lineFeed : Scan (List Char) := do newline; return ['\n']

/-- A backslash at the end of a line, with all blanks and line feeds that follow. -/
def foldedLine : Scan (List Char) := do
  Scan.char '\\'
  blanks
  newline
  let _ ← Scan.many (Scan.or newline (do let _ ← Scan.charOf isBlank))
  return []

/-- One or two quotation marks before something else than a quotation mark. -/
def innerMarks (mark : Char) : Scan (List Char) := do
  let marks ← Scan.span (· == mark)
  match ← Scan.peek with
  | none => failure
  | some _ => if marks.isEmpty || 2 < marks.length then failure else return marks

/-- Three quotation marks, and up to two before them that belong to the string. -/
def closingMarks (mark : Char) : Scan (List Char) := do
  let marks ← Scan.span (· == mark)
  if marks.length < 3 || 5 < marks.length then failure else return marks.drop 3

/-- A string between three quotation marks, from its pieces. -/
def multilineString (mark : Char) (piece : Scan (List Char)) : Scan String := do
  Scan.chars [mark, mark, mark]
  let _ ← Scan.optional newline
  let pieces ← Scan.many (Scan.or piece (innerMarks mark))
  let last ← closingMarks mark
  return String.ofList (pieces.flatten ++ last)

/-- A basic string over several lines. -/
def multilineBasicString : Scan String :=
  multilineString '"'
    (Scan.or foldedLine (Scan.or (do return [← basicChar]) lineFeed))

/-- A literal string over several lines. -/
def multilineLiteralString : Scan String :=
  multilineString '\'' (Scan.or (do return [← Scan.charOf isLiteralChar]) lineFeed)

/-- A string of any kind. -/
def anyString : Scan String :=
  Scan.or multilineBasicString <| Scan.or basicString <|
    Scan.or multilineLiteralString literalString

/-- The characters of a key without quotation marks. -/
def isBareKeyChar (c : Char) : Bool := c.isAlphanum || c == '_' || c == '-'

/-- A key without dots. -/
def simpleKey : Scan String :=
  Scan.or basicString <| Scan.or literalString do
    return String.ofList (← Scan.span1 isBareKeyChar)

/-- The greatest number of parts of a dotted key, and of levels of nested values. -/
def nestingLimit : Nat := 79

/-- A dotted key: the path and the last part. -/
def dottedKey : Scan (List String × String) := do
  let parts ← Scan.sepBy1 (do blanks; let key ← simpleKey; blanks; return key) (Scan.char '.')
  if nestingLimit < parts.length then failure
  else return (parts.dropLast, parts.getLastD "")

end SchemaBinding.Toml
