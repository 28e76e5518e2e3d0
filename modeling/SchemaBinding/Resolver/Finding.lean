import SchemaBinding.Diagnostic

/-! # Findings of a resolver
The problems that binding reports without stopping. -/

namespace SchemaBinding.Finding

/-- The key of reserved class names. -/
def reservedClassNameKey : String := "reserved-class-name"

/-- The key of invalid package names. -/
def incorrectPackageNameKey : String := "incorrect-package-name"

/-- The key of unused customizations. -/
def unusedCustomizationKey : String := "unused-customization"

/-- A class would take a name that is reserved for support code. -/
def reservedClassName (className component : String) (locator : Option Locator) : Finding where
  key := reservedClassNameKey
  severity := .error
  message := "the class name '" ++ className ++ "' is reserved"
  notes := ["generated for " ++ component,
    "Use a class-name customization to pick another name."]
  label := "class generated from this declaration"
  locator := locator

/-- A package name is not a dotted sequence of identifiers. -/
def incorrectPackageName (package ns : String) (locator : Option Locator) : Finding where
  key := incorrectPackageNameKey
  severity := .error
  message := "'" ++ package ++ "' is not a valid package name"
  notes := ["package of " ++
    if ns.isEmpty then "the empty namespace" else "namespace '" ++ ns ++ "'"]
  label := "schema declared here"
  locator := locator

/-- Nothing used the property customization of a declaration. -/
def unusedCustomization (component : String) (locator : Option Locator) : Finding where
  key := unusedCustomizationKey
  severity := .warning
  message := "property customization on " ++ component ++ " was not used"
  label := "customization attached here"
  locator := locator

end SchemaBinding.Finding
