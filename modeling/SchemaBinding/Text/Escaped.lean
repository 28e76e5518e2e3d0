/-! # Escaped text
Text that stands between markup: the three characters with a meaning there are written as
entities. -/

namespace SchemaBinding.Text

/-- How a character is written between markup. -/
def escapedChar (c : Char) : List Char :=
  if c = '&' then ['&', 'a', 'm', 'p', ';']
  else if c = '<' then ['&', 'l', 't', ';']
  else if c = '>' then ['&', 'g', 't', ';']
  else [c]

/-- A text as it is written between markup. -/
def escaped (text : List Char) : List Char := text.flatMap escapedChar

@[simp] theorem escaped_nil : escaped [] = [] := rfl

@[simp] theorem escaped_cons (c : Char) (text : List Char) :
    escaped (c :: text) = escapedChar c ++ escaped text := rfl

end SchemaBinding.Text
