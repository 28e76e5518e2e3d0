import SchemaBinding.Text.CharClass
import SchemaBinding.Text.Split

/-! # Identifiers
What may stand as a name in generated code: a single identifier, and a dotted package name. -/

namespace SchemaBinding.Naming

open SchemaBinding.Text

/-- Words that generated code cannot use as identifiers. -/
def reservedWords : List String :=
  ["abstract", "assert", "boolean", "break", "byte", "case", "catch", "char", "class", "const",
   "continue", "default", "do", "double", "else", "enum", "extends", "false", "final", "finally",
   "float", "for", "goto", "if", "implements", "import", "instanceof", "int", "interface", "long",
   "native", "new", "null", "package", "private", "protected", "public", "return", "short",
   "static", "strictfp", "super", "switch", "synchronized", "this", "throw", "throws",
   "transient", "true", "try", "void", "volatile", "while"]

/-- Whether a word is reserved. -/
def isReserved (word : String) : Bool := reservedWords.contains word

/-- The shape of an identifier: a starting character, `_` or `$`, then continuing characters or
`$`. -/
def hasIdentifierShape : List Char → Bool
  | [] => false
  | first :: rest =>
    (isIdentifierStart first || first == '_' || first == '$')
      && rest.all fun c => isIdentifierContinue c || c == '$'

/-- An **identifier** has the shape of one and is not a reserved word. -/
def isIdentifier (s : String) : Bool := hasIdentifierShape s.toList && !isReserved s

/-- A **package name** is a dotted sequence of identifiers. -/
def isPackageName (s : String) : Bool :=
  !s.isEmpty && (splitOn '.' s.toList).all fun segment => isIdentifier (String.ofList segment)

end SchemaBinding.Naming
