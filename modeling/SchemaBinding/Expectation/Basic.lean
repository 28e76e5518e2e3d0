import SchemaBinding.Compilation
import SchemaBinding.Text.Quoted

/-! # Expectations
What can be expected of a compilation: that it finishes or is stopped, what it reports, and what its
model holds. An expectation that is not met gives the reason as a mismatch. -/

namespace SchemaBinding

/-- The label of a kind of property in messages. -/
def PropertyKind.label : PropertyKind → String
  | .element => "Element"
  | .attribute => "Attribute"
  | .value => "Value"
  | .reference => "Reference"

/-- A **behavior** of a class. -/
inductive Behavior where
  /-- A property of a name has a type, as it is written. -/
  | property (name type : String)
  /-- A property of a name is of a kind. -/
  | propertyIs (name : String) (kind : PropertyKind)
  /-- A property of a name may occur more than once. -/
  | repeated (name : String)
  | propertyCount (count : Nat)
  | isAbstract
  /-- The class extends one of a full name. -/
  | extending (base : String)
  /-- The class has a constructor with these parameters. -/
  | constructible (params : List String)
  | constructorCount (count : Nat)
  /-- The documentation contains a text. -/
  | docContains (text : String)
  | noDoc
  deriving DecidableEq, Repr

/-- The label of a behavior in messages. -/
def Behavior.label : Behavior → String
  | property name type => "Property(" ++ Text.quoted name ++ ", " ++ Text.quoted type ++ ")"
  | propertyIs name kind => "PropertyIs(" ++ Text.quoted name ++ ", " ++ kind.label ++ ")"
  | repeated name => "Repeated(" ++ Text.quoted name ++ ")"
  | propertyCount count => "PropertyCount(" ++ toString count ++ ")"
  | isAbstract => "IsAbstract"
  | extending base => "Extends(" ++ Text.quoted base ++ ")"
  | constructible params => "Constructor(" ++ Text.quotedList params ++ ")"
  | constructorCount count => "ConstructorCount(" ++ toString count ++ ")"
  | docContains text => "DocContains(" ++ Text.quoted text ++ ")"
  | noDoc => "NoDoc"

/-- An **expectation** of a compilation. -/
inductive Expectation where
  /-- It finishes without errors. -/
  | compiles
  /-- It is stopped by an error whose message contains a text. -/
  | failsWith (text : String)
  /-- Its resolver is stopped by an accepted error. -/
  | aborts (accepts : ResolveError → Bool)
  /-- It reports an error, and a text occurs in its diagnostics. -/
  | hasError (text : String)
  | hasDiagnostic (key : String)
  | diagnosticCount (key : String) (count : Nat)
  /-- The tree text of its model, up to line feeds at the start. -/
  | modelTree (text : String)
  /-- A class of a full name has some behaviors and lacks others. -/
  | classAt (path : String) (has lacks : List Behavior)
  /-- An element wrapper of a full name, possibly with the type of its content as it is written. -/
  | elementAt (path : String) (content : Option String)
  | noClass (path : String)
  | noElement (path : String)

/-- Why a class does not show a behavior. -/
inductive Lack where
  | noProperty (name : String)
  | propertyType (name actual expected : String)
  | propertyKind (name : String) (actual expected : PropertyKind)
  | notRepeated (name : String)
  | propertyCount (actual expected : Nat)
  | notAbstract
  | base (actual : Option String) (expected : String)
  | noConstructor (params : List String) (actual : List (List String))
  | constructorCount (actual expected : Nat)
  | docText (text doc : String)
  | undocumented
  | documented
  deriving DecidableEq, Repr

/-- The message of a lack, for the class of a full name. -/
def Lack.message (path : String) : Lack → String
  | noProperty name => "Class '" ++ path ++ "' has no property '" ++ name ++ "'"
  | propertyType name actual expected =>
    "Property '" ++ path ++ "." ++ name ++ "' has type " ++ actual ++ ", expected " ++ expected
  | propertyKind name actual expected =>
    "Property '" ++ path ++ "." ++ name ++ "' is " ++ actual.label ++ ", expected "
      ++ expected.label
  | notRepeated name => "Property '" ++ path ++ "." ++ name ++ "' is not repeated"
  | propertyCount actual expected =>
    "Class '" ++ path ++ "' has " ++ toString actual ++ " property(ies), expected "
      ++ toString expected
  | notAbstract => "Class '" ++ path ++ "' is not abstract"
  | base actual expected =>
    "Class '" ++ path ++ "' extends " ++ Text.quotedOption actual ++ ", expected " ++ expected
  | noConstructor params actual =>
    "Class '" ++ path ++ "' has no constructor (" ++ String.intercalate ", " params
      ++ "); constructors are " ++ Text.bracketed (actual.map Text.quotedList)
  | constructorCount actual expected =>
    "Class '" ++ path ++ "' has " ++ toString actual ++ " constructor(s), expected "
      ++ toString expected
  | docText text doc =>
    "Documentation of '" ++ path ++ "' does not contain '" ++ text ++ "':\n" ++ doc
  | undocumented => "Class '" ++ path ++ "' has no documentation"
  | documented => "Class '" ++ path ++ "' has documentation"

/-- Why an expectation is not met. -/
inductive Mismatch where
  | aborted (cause : CompileError)
  | errors (messages : List String)
  | finishedWithout (text : String)
  | otherMessage (text : String) (cause : CompileError)
  | unexpectedAbort (cause : CompileError)
  | finished
  | noErrors
  | otherErrors (text : String) (messages : List String)
  | noDiagnostic (key : String)
  | diagnosticCount (key : String) (actual expected : Nat)
  | tree (actual expected : String)
  | noClass (path : String) (known : List String)
  | lacks (path : String) (cause : Lack)
  | shows (path : String) (behavior : Behavior)
  | noElement (path : String)
  | content (path actual expected : String)
  | someClass (path : String)
  | someElement (path : String)
  deriving DecidableEq, Repr

/-- The message of a mismatch. -/
def Mismatch.message : Mismatch → String
  | aborted cause => "Compilation aborted: " ++ cause.message
  | errors messages =>
    "Expected compilation to succeed, but got errors: " ++ Text.quotedList messages
  | finishedWithout text =>
    "Expected compilation to abort with '" ++ text ++ "', but it finished"
  | otherMessage text cause =>
    "Expected an abort containing '" ++ text ++ "', but got '" ++ cause.message ++ "'"
  | unexpectedAbort cause => "Compilation aborted with unexpected error: " ++ cause.message
  | finished => "Expected compilation to abort, but it finished"
  | noErrors => "Expected an error, but compilation succeeded"
  | otherErrors text messages =>
    "Expected an error containing '" ++ text ++ "', but got: " ++ Text.quotedList messages
  | noDiagnostic key => "Expected a '" ++ key ++ "' diagnostic, but found none"
  | diagnosticCount key actual expected =>
    "Expected " ++ toString expected ++ " '" ++ key ++ "' diagnostic(s), but got "
      ++ toString actual
  | tree actual expected =>
    "Model tree differs:\nexpected:\n" ++ expected ++ "actual:\n" ++ actual
  | noClass path known =>
    "Class '" ++ path ++ "' not found; classes are " ++ Text.quotedList known
  | lacks path cause => cause.message path
  | shows path behavior =>
    "Class '" ++ path ++ "' should NOT have " ++ behavior.label ++ ", but it does"
  | noElement path => "Element '" ++ path ++ "' not found"
  | content path actual expected =>
    "Element '" ++ path ++ "' wraps " ++ actual ++ ", expected " ++ expected
  | someClass path => "Class '" ++ path ++ "' should not exist"
  | someElement path => "Element '" ++ path ++ "' should not exist"

end SchemaBinding
