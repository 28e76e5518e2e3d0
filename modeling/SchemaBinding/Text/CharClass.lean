import SchemaBinding.Text.CharTables

/-! # Classes of characters
Which characters are letters, digits, upper or lower case, parts of an identifier, or visible when
quoted. ASCII characters are decided directly; all others by the tables of the Unicode standard. -/

namespace SchemaBinding.Text

/-- Membership by **bounds**: the code point lies at or after an odd number of the ascending
bounds. -/
def withinBounds : List Nat → Nat → Bool
  | [], _ => false
  | bound :: rest, code => if code < bound then false else !(withinBounds rest code)

@[simp] theorem withinBounds_nil (code : Nat) : withinBounds [] code = false := rfl

@[simp] theorem withinBounds_cons (bound code : Nat) (rest : List Nat) :
    withinBounds (bound :: rest) code
      = if code < bound then false else !(withinBounds rest code) := rfl

/-- Membership by **strides** `(first, last, step)`: some stride passes through the code point. -/
def onStride (strides : List (Nat × Nat × Nat)) (code : Nat) : Bool :=
  strides.any fun (first, last, step) =>
    first ≤ code && code ≤ last && (code - first) % step == 0

/-- A class given by an ASCII test and a table for the characters beyond ASCII. -/
def classify (ascii : Char → Bool) (beyond : Nat → Bool) (c : Char) : Bool :=
  if c.toNat < 0x80 then ascii c else beyond c.toNat

/-- An ASCII character is classified by the ASCII test alone. -/
theorem classify_ascii {ascii : Char → Bool} {beyond : Nat → Bool} {c : Char}
    (h : c.toNat < 0x80) : classify ascii beyond c = ascii c := by
  simp [classify, h]

/-- Digits, letter numbers and other numbers. -/
def isNumeric : Char → Bool :=
  classify Char.isDigit (withinBounds numericBounds)

/-- Letters and numbers. -/
def isAlphanumeric : Char → Bool :=
  classify Char.isAlphanum fun code =>
    withinBounds alphabeticBounds code || withinBounds numericBounds code

/-- Upper case characters. -/
def isUppercase : Char → Bool :=
  classify Char.isUpper (onStride uppercaseStrides)

/-- Lower case characters. -/
def isLowercase : Char → Bool :=
  classify Char.isLower (onStride lowercaseStrides)

/-- Characters that may start an identifier. -/
def isIdentifierStart : Char → Bool :=
  classify Char.isAlpha (withinBounds identifierStartBounds)

/-- Characters that may continue an identifier. -/
def isIdentifierContinue : Char → Bool :=
  classify (fun c => c.isAlphanum || c == '_') (withinBounds identifierContinueBounds)

/-- Characters that have case: upper case, lower case and title case. -/
def isCased : Char → Bool :=
  classify Char.isAlpha fun code =>
    onStride uppercaseStrides code || onStride lowercaseStrides code
      || withinBounds titlecaseBounds code

/-- Characters that case rules look through when they search for a neighbouring letter. -/
def isCaseIgnorable (c : Char) : Bool := withinBounds caseIgnorableBounds c.toNat

/-- Characters that join the visible character before them. -/
def isGraphemeExtend (c : Char) : Bool := withinBounds graphemeExtendBounds c.toNat

/-- Characters that can be shown as they are; of the separators only the plain space. -/
def isPrintable : Char → Bool :=
  classify (fun c => 0x20 ≤ c.toNat && c.toNat < 0x7f)
    fun code => !(withinBounds unprintableBounds code)

end SchemaBinding.Text
