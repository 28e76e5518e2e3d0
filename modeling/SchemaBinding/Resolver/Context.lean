import SchemaBinding.Naming.Convention
import SchemaBinding.Resolver.Config
import SchemaBinding.Resolver.Finding
import SchemaBinding.Resolver.State
import SchemaBinding.Schema.Label

/-! # The context of a run
What stays the same while components are bound, and what is decided by it alone: the packages of the
namespaces, and the customizations that nothing used. -/

namespace SchemaBinding

/-- What a run is about: the schema set, the configuration and the naming convention. -/
structure Context where
  schema : SchemaSet
  config : Config := {}
  naming : NamingConvention := .standard

namespace Context

/-- The name of the package for a namespace: the configured package, that of the schema's
customization, the one configured for schemas without a customization, the one derived from the
namespace, or the fallback. -/
def packageName (c : Context) (ns : String) : String :=
  c.config.package
    |>.or ((c.schema.schema? ns).bind Schema.package)
    |>.or c.config.compatPackage
    |>.or (c.naming.packageName ns)
    |>.getD c.config.fallbackPackage

/-- Checks the name of the package for a namespace. Each name is checked once; an invalid one is
reported and used nevertheless. -/
def checkPackageName (c : Context) (ns name : String) (s : Resolver.State) : Resolver.State :=
  if s.checkedNames.contains name then s
  else
    let s := { s with checkedNames := name :: s.checkedNames }
    if name.isEmpty || Naming.isPackageName name then s
    else
      let locator := (c.schema.schema? ns).bind Schema.locator
      { s with reports := s.reports.raise (Finding.incorrectPackageName name ns locator) }

/-- The package for a namespace, which is determined when it is asked for the first time. -/
def packageOf (c : Context) (ns : String) (s : Resolver.State) : PackageId × Resolver.State :=
  match s.packages.lookup ns with
  | some id => (id, s)
  | none =>
    let name := c.packageName ns
    let s := c.checkPackageName ns name s
    let (id, model) := s.model.package name
    (id, { s with model, packages := s.packages ++ [(ns, id)] })

/-- The package for a namespace. -/
def packageFor (c : Context) (ns : String) : Resolving PackageId := modifyGet (c.packageOf ns)

/-- Warns about every property customization that nothing used. -/
def reportUnacknowledged (c : Context) : Resolving Unit :=
  c.schema.ids.forM fun id => do
    let component := c.schema.component id
    if component.custom.property.isSome && !(← get).acknowledged.contains id then
      Resolving.report (.unusedCustomization (c.schema.label id) component.locator)

end Context

end SchemaBinding
