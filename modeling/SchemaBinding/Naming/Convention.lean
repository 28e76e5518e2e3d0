import SchemaBinding.Naming.Package

/-! # Naming conventions
How generated names are derived from schema names. A run takes its convention as a parameter;
`NamingConvention.standard` is the usual one. -/

namespace SchemaBinding

/-- A **naming convention** derives the names of generated classes, properties and packages. -/
structure NamingConvention where
  /-- The class name for a schema name. -/
  className : String → String
  /-- The property name for a schema name. -/
  propertyName : String → String
  /-- The package name for a namespace, if one can be derived. -/
  packageName : String → Option String

/-- The **standard** convention: capitalized words, and packages after hosts and paths. -/
def NamingConvention.standard : NamingConvention where
  className := Naming.className
  propertyName := Naming.propertyName
  packageName := Naming.packageName

end SchemaBinding
