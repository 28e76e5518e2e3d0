import SchemaBinding.Naming.Identifier
import SchemaBinding.Text.Casing

/-! # Words and the names made of them
A schema name is a sequence of words, separated by any character that is neither letter nor number,
or by a step from lower case to upper case. Generated class and property names join the words
again, with a capital at the start of each. -/

namespace SchemaBinding.Naming

open SchemaBinding.Text

/-- Whether a word break lies before an upper case letter that follows this character. -/
def endsWord (c : Char) : Bool := isLowercase c || isNumeric c

/-- The words of a text, where `pending` holds the characters of the word under construction, the
last one first. -/
def wordsFrom : List Char → List Char → List (List Char)
  | pending, [] => if pending.isEmpty then [] else [pending.reverse]
  | pending, c :: rest =>
    if isAlphanumeric c then
      match pending with
      | last :: _ =>
        if isUppercase c && endsWord last then pending.reverse :: wordsFrom [c] rest
        else wordsFrom (c :: pending) rest
      | [] => wordsFrom [c] rest
    else if pending.isEmpty then wordsFrom [] rest
    else pending.reverse :: wordsFrom [] rest

/-- The words of a text: `purchase-order` and `purchaseOrder` both have two. -/
def words (text : List Char) : List (List Char) := wordsFrom [] text

/-- A word with its first character in upper case. -/
def capitalized : List Char → List Char
  | [] => []
  | first :: rest => upper first ++ rest

/-- A word with its first character in lower case. -/
def uncapitalized : List Char → List Char
  | [] => []
  | first :: rest => lower first ++ rest

/-- A name that starts with a number is led by `_`. -/
def guardNumber (name : List Char) : List Char :=
  match name with
  | [] => []
  | first :: _ => if isNumeric first then '_' :: name else name

/-- A name that is a reserved word is followed by `_`. -/
def guardReserved (name : List Char) : List Char :=
  if isReserved (String.ofList name) then name ++ ['_'] else name

/-- A joined name made usable in generated code. -/
def usable (name : List Char) : String := String.ofList (guardReserved (guardNumber name))

/-- The class name for a schema name: `purchase-order` gives `PurchaseOrder`. -/
def className (s : String) : String := usable ((words s.toList).flatMap capitalized)

/-- The property name for a schema name: `Purchase-Order` gives `purchaseOrder`. -/
def propertyName (s : String) : String :=
  match words s.toList with
  | [] => usable []
  | first :: rest => usable (uncapitalized first ++ rest.flatMap capitalized)

end SchemaBinding.Naming
