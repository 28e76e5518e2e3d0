import SchemaBinding.Toml.Decode

/-! # Configuration
The settings of a run: where local classes go, which packages are used, which class names are
reserved and whether classes are documented. A configuration file may set any of them. -/

namespace SchemaBinding

/-- Where a class goes that is discovered inside the body of another class. -/
inductive LocalScoping where
  /-- Inside the class whose body is being built. -/
  | nested
  /-- Next to that class. -/
  | toplevel
  deriving DecidableEq, Repr, Inhabited

/-- The **configuration** of a run. -/
structure Config where
  localScoping : LocalScoping := .nested
  /-- The package for every namespace, before all customizations. -/
  package : Option String := none
  /-- The package for schemas without a customization. -/
  compatPackage : Option String := none
  /-- The package for namespaces that no package can be derived from. -/
  fallbackPackage : String := "generated"
  /-- The class names that support code takes. -/
  reservedClassNames : List String := ["ObjectFactory"]
  /-- Whether classes are documented with their schema. -/
  generateDocs : Bool := true
  deriving DecidableEq, Repr, Inhabited

namespace Config

/-- Whether support code takes a class name. -/
def isReservedClassName (c : Config) (name : String) : Bool := c.reservedClassNames.contains name

/-- The fields of a configuration file. -/
def fields : List (Toml.Field Config) :=
  [.of "local_scoping" .defaulted
      (Toml.variant [("nested", LocalScoping.nested), ("toplevel", LocalScoping.toplevel)])
      fun scoping c => { c with localScoping := scoping },
    .of "package" .defaulted Toml.string fun name c => { c with package := some name },
    .of "compat_package" .defaulted Toml.string fun name c => { c with compatPackage := some name },
    .of "fallback_package" .defaulted Toml.string fun name c => { c with fallbackPackage := name },
    .of "reserved_class_names" .defaulted (Toml.list Toml.string)
      fun names c => { c with reservedClassNames := names },
    .of "generate_docs" .defaulted Toml.bool fun docs c => { c with generateDocs := docs }]

/-- The configuration that a text describes. -/
def ofToml (text : String) : Except Toml.DecodeError Config :=
  Toml.decodeText (Toml.record "ResolverConfig" fields {}) text

end Config

end SchemaBinding
