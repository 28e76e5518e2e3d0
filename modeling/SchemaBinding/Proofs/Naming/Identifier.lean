import SchemaBinding.Naming.Words

/-! # Usable names
A joined name is made usable by a `_` in front of a number and one behind a reserved word. The
result is an identifier exactly if the characters of the name may stand where they do: nothing else
is repaired. -/

namespace SchemaBinding.Naming

open SchemaBinding.Text

variable {name : List Char} {c : Char}

/-! ## Reserved words -/

/-- Reserved words consist of lower case letters of ASCII. -/
theorem isLower_of_mem_reservedWords :
    ∀ word ∈ reservedWords, ∀ c ∈ word.toList, c.isLower = true := by simp [reservedWords]

/-- A reserved name consists of lower case letters of ASCII. -/
theorem isLower_of_isReserved (h : isReserved (String.ofList name) = true) (hc : c ∈ name) :
    c.isLower = true := by
  have hword : String.ofList name ∈ reservedWords := by simpa [isReserved] using h
  exact isLower_of_mem_reservedWords _ hword c (by simpa using hc)

/-- A name with a character that is no lower case letter is not reserved. -/
theorem isReserved_eq_false (hc : c ∈ name) (h : c.isLower = false) :
    isReserved (String.ofList name) = false := by
  refine Bool.eq_false_iff.2 fun hreserved => ?_
  rw [isLower_of_isReserved hreserved hc] at h
  cases h

/-- A guarded name is **never reserved**. -/
@[simp] theorem isReserved_guardReserved (name : List Char) :
    isReserved (String.ofList (guardReserved name)) = false := by
  unfold guardReserved
  split
  · exact isReserved_eq_false (c := '_') (by simp) rfl
  · exact Bool.eq_false_iff.2 ‹_›

/-! ## Identifiers -/

/-- Whether a character may start an identifier. -/
def opens (c : Char) : Bool := isIdentifierStart c || c == '_' || c == '$'

/-- Whether a character may follow in an identifier. -/
def follows (c : Char) : Bool := isIdentifierContinue c || c == '$'

@[simp] theorem hasIdentifierShape_cons (c : Char) (rest : List Char) :
    hasIdentifierShape (c :: rest) = (opens c && rest.all follows) := rfl

/-- A `_` behind a name does not matter for its shape. -/
theorem hasIdentifierShape_guardReserved (name : List Char) :
    hasIdentifierShape (guardReserved name) = hasIdentifierShape name := by
  unfold guardReserved
  split
  · cases name with
    | nil => rename_i h; exact absurd h (by decide)
    | cons c rest => simp [show follows '_' = true from rfl]
  · rfl

/-- A name is **sound** when its characters may stand where they do in an identifier, a number in
front of it being led by `_`. -/
def Sound : List Char → Prop
  | [] => False
  | first :: rest =>
    (if isNumeric first then follows first else opens first) = true ∧
      ∀ c ∈ rest, follows c = true

/-- What is guarded against a leading number has the shape of an identifier exactly if the name is
sound. -/
theorem hasIdentifierShape_guardNumber_iff :
    hasIdentifierShape (guardNumber name) = true ↔ Sound name := by
  cases name with
  | nil => simp [guardNumber, hasIdentifierShape, Sound]
  | cons first rest =>
    unfold guardNumber Sound
    dsimp only
    split
    · simp [show opens '_' = true from rfl]
    · simp

/-- A name is made an **identifier** exactly if it is sound. -/
theorem isIdentifier_usable_iff : isIdentifier (usable name) = true ↔ Sound name := by
  unfold isIdentifier usable
  rw [isReserved_guardReserved, String.toList_ofList, hasIdentifierShape_guardReserved,
    Bool.not_false, Bool.and_true, hasIdentifierShape_guardNumber_iff]

end SchemaBinding.Naming
