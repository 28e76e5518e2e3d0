import SchemaBinding.Text.CharClass
import SchemaBinding.Text.CaseTables

/-! # Changing case
The full case mappings of single characters and of texts. A character may map to several; in a
text the Greek sigma takes its final form at the end of a word. -/

namespace SchemaBinding.Text

/-- The shift that a table of shifts `(first, last, step, offset)` gives a code point; none
outside every shift. -/
def shifted (shifts : List (Nat × Nat × Nat × Int)) (code : Nat) : Option Nat :=
  (shifts.find? fun (first, last, step, _) =>
      first ≤ code && code ≤ last && (code - first) % step == 0).map
    fun (_, _, _, offset) => (code + offset).toNat

/-- A character mapped by expansions first, then by shifts, else kept. -/
def remap (expansions : List (Nat × List Nat)) (shifts : List (Nat × Nat × Nat × Int))
    (c : Char) : List Char :=
  match expansions.lookup c.toNat with
  | some codes => codes.map Char.ofNat
  | none =>
    match shifted shifts c.toNat with
    | some code => [Char.ofNat code]
    | none => [c]

/-- The upper case form of a character. -/
def upper (c : Char) : List Char :=
  if c.toNat < 0x80 then [c.toUpper] else remap upperExpansions upperShifts c

/-- The lower case form of a character outside any text. -/
def lower (c : Char) : List Char :=
  if c.toNat < 0x80 then [c.toLower] else remap lowerExpansions lowerShifts c

/-- Whether the first character that is not case-ignorable has case. -/
def leadsToCased (cs : List Char) : Bool :=
  match cs.dropWhile isCaseIgnorable with
  | [] => false
  | c :: _ => isCased c

/-- The lower case form of a text whose earlier characters are `before`, the last one first. A
capital sigma becomes final if a cased character precedes it and none follows it. -/
def lowerAfter : List Char → List Char → List Char
  | _, [] => []
  | before, c :: rest =>
    let form :=
      if c = 'Σ' then
        if leadsToCased before && !leadsToCased rest then ['ς'] else ['σ']
      else lower c
    form ++ lowerAfter (c :: before) rest

/-- The lower case form of a text. -/
def lowercase (cs : List Char) : List Char := lowerAfter [] cs

end SchemaBinding.Text
