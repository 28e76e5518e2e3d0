/-! # Built-in leaves
The types that generated code has from the start, one or several XML Schema types to each. -/

namespace SchemaBinding

/-- A **leaf**: a built-in type of generated code. -/
inductive Leaf where
  | anyType
  | anySimpleType
  | string
  | boolean
  | decimal
  | integer
  | int
  | long
  | short
  | byte
  | float
  | double
  | calendar
  | duration
  | qname
  | uri
  | binary
  deriving DecidableEq, Repr, Inhabited

namespace Leaf

/-- The leaf for an XML Schema type, by its local name. -/
def ofTypeName? : String → Option Leaf
  | "anyType" => some anyType
  | "anySimpleType" => some anySimpleType
  | "string" | "normalizedString" | "token" => some string
  | "boolean" => some boolean
  | "decimal" => some decimal
  | "integer" => some integer
  | "int" => some int
  | "long" => some long
  | "short" => some short
  | "byte" => some byte
  | "float" => some float
  | "double" => some double
  | "date" | "dateTime" | "time" => some calendar
  | "duration" => some duration
  | "QName" => some qname
  | "anyURI" => some uri
  | "base64Binary" | "hexBinary" => some binary
  | _ => none

/-- The name of the leaf in generated code. -/
def name : Leaf → String
  | anyType => "Object"
  | anySimpleType => "Object"
  | string => "String"
  | boolean => "boolean"
  | decimal => "BigDecimal"
  | integer => "BigInteger"
  | int => "int"
  | long => "long"
  | short => "short"
  | byte => "byte"
  | float => "float"
  | double => "double"
  | calendar => "Calendar"
  | duration => "Duration"
  | qname => "QName"
  | uri => "URI"
  | binary => "byte[]"

/-- The label of the leaf in messages. -/
def label : Leaf → String
  | anyType => "AnyType"
  | anySimpleType => "AnySimpleType"
  | string => "String"
  | boolean => "Boolean"
  | decimal => "Decimal"
  | integer => "Integer"
  | int => "Int"
  | long => "Long"
  | short => "Short"
  | byte => "Byte"
  | float => "Float"
  | double => "Double"
  | calendar => "Calendar"
  | duration => "Duration"
  | qname => "QName"
  | uri => "Uri"
  | binary => "Binary"

end Leaf

end SchemaBinding
