import SchemaBinding.Schema.Fragment
import SchemaBinding.Schema.Label
import SchemaBinding.Text.Escaped

/-! # Standard documentation
A class is documented by its declaration: the customized documentation, where the declaration stands
and its schema fragment. -/

namespace SchemaBinding.SchemaSet

/-- The sentence that says where a declaration stands. -/
def originText (set : SchemaSet) (id : ComponentId) : String :=
  let locator := (set.component id).locator
  let file := (locator.bind Locator.fileName?).getD ""
  let line := match locator.bind Locator.line with
    | some line => toString line
    | none => "unknown"
  "Generated from " ++ set.label id ++ " in " ++ file ++ ", line " ++ line ++ "."

/-- A fragment as it stands in documentation. -/
def excerptText (fragment : String) : String :=
  "<pre>\n" ++ String.ofList (Text.escaped fragment.toList) ++ "</pre>"

/-- The **standard** documentation of a declaration, paragraph by paragraph. -/
def documentation? (set : SchemaSet) (id : ComponentId) : Option (List String) :=
  (set.fragment? id).map fun fragment =>
    (set.component id).custom.documentation.toList ++ [set.originText id, excerptText fragment]

end SchemaBinding.SchemaSet
