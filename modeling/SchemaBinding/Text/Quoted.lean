import SchemaBinding.Text.CharClass

/-! # Quoted texts
How a text is shown inside a message: between quotation marks, with a backslash before a quotation
mark or a backslash, the usual letters for tab, line feed, carriage return and NUL, and a code point
in braces for everything that cannot be seen by itself. -/

namespace SchemaBinding.Text

/-- The lower case hexadecimal digits of a code point. -/
def hexDigits (code : Nat) : List Char := Nat.toDigits 16 code

/-- One character of a quoted text. -/
def quotedChar (c : Char) : List Char :=
  if c = '"' then ['\\', '"']
  else if c = '\\' then ['\\', '\\']
  else if c = '\n' then ['\\', 'n']
  else if c = '\r' then ['\\', 'r']
  else if c = '\t' then ['\\', 't']
  else if c = '\x00' then ['\\', '0']
  else if isGraphemeExtend c || !isPrintable c then
    ['\\', 'u', '\x7b'] ++ hexDigits c.toNat ++ ['\x7d']
  else [c]

/-- A text between quotation marks. -/
def quoted (s : String) : String :=
  String.ofList ('"' :: s.toList.flatMap quotedChar ++ ['"'])

/-- Texts in brackets. -/
def bracketed (texts : List String) : String :=
  "[" ++ String.intercalate ", " texts ++ "]"

/-- A list of quoted texts in brackets. -/
def quotedList (ss : List String) : String := bracketed (ss.map quoted)

/-- An optional quoted text, with its presence spelled out. -/
def quotedOption : Option String → String
  | none => "None"
  | some s => "Some(" ++ quoted s ++ ")"

end SchemaBinding.Text
