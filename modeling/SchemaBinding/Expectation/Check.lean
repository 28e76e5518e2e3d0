import SchemaBinding.Expectation.Basic
import SchemaBinding.Model.Tree
import SchemaBinding.Text.Split

/-! # Checking expectations
Each expectation is checked against what a compilation gave: its outcome, or the error that stopped
it. -/

namespace SchemaBinding

/-- Succeeds if a condition holds. -/
def require {ε : Type} (holds : Bool) (failure : ε) : Except ε Unit :=
  if holds then .ok () else .error failure

/-- The value of an option, which has to be there. -/
def present {ε α : Type} (value : Option α) (failure : ε) : Except ε α :=
  match value with
  | some a => .ok a
  | none => .error failure

/-! ## Classes -/

namespace Behavior

/-- The property of a name, which the class has to have. -/
def propertyOf (c : ClassInfo) (name : String) : Except Lack Property :=
  present (c.property? name) (.noProperty name)

/-- Checks that a class shows a behavior. -/
def check (m : Model) (c : ClassInfo) : Behavior → Except Lack Unit
  | .property name type => do
    let p ← propertyOf c name
    let actual := m.typeText? p.type
    require (actual = type) (.propertyType name actual type)
  | propertyIs name kind => do
    let p ← propertyOf c name
    require (p.kind = kind) (.propertyKind name p.kind kind)
  | repeated name => do
    let p ← propertyOf c name
    require p.repeated (.notRepeated name)
  | propertyCount count =>
    require (c.properties.length = count) (.propertyCount c.properties.length count)
  | isAbstract => require c.isAbstract .notAbstract
  | extending base =>
    let actual := c.base.map m.fullName
    require (actual = some base) (.base actual base)
  | constructible params =>
    require (c.constructors.contains params) (.noConstructor params c.constructors)
  | constructorCount count =>
    require (c.constructors.length = count) (.constructorCount c.constructors.length count)
  | docContains text => do
    let doc ← present c.doc .undocumented
    require (Text.occursIn text doc) (.docText text doc)
  | noDoc => require c.doc.isNone .documented

/-- Whether a class shows a behavior. -/
def isShown (m : Model) (c : ClassInfo) (b : Behavior) : Bool := (b.check m c).isOk

end Behavior

/-- Checks the class of a full name. -/
def Model.checkClass (m : Model) (path : String) (has lacks : List Behavior) :
    Except Mismatch Unit := do
  let known := m.classIds.map m.fullName
  let id ← present (m.findClass? path) (.noClass path known)
  let c := m.classInfo id
  has.forM fun b => (b.check m c).mapError (.lacks path)
  lacks.forM fun b => require (!b.isShown m c) (.shows path b)

/-! ## Element wrappers -/

/-- The first element wrapper of a full name. -/
def Model.findElement? (m : Model) (path : String) : Option ElementId :=
  m.elementIds.find? fun id => m.elementFullName id == path

/-- Checks the element wrapper of a full name. -/
def Model.checkElement (m : Model) (path : String) (content : Option String) :
    Except Mismatch Unit := do
  let id ← present (m.findElement? path) (.noElement path)
  match content with
  | none => pure ()
  | some expected =>
    let actual := m.typeText? (m.elementInfo id).content
    require (actual = expected) (.content path actual expected)

/-! ## Compilations -/

/-- A text without the line feeds at its start. -/
def withoutLeadingLines (text : String) : String :=
  String.ofList (text.toList.dropWhile (· = '\n'))

namespace Expectation

/-- Checks an expectation of a compilation that has finished. -/
def checkOutcome (o : Outcome) : Expectation → Except Mismatch Unit
  | compiles =>
    require (!o.reports.hasErrors) (.errors (o.reports.diagnostics.map Diagnostic.message))
  | failsWith text => .error (.finishedWithout text)
  | aborts _ => .error .finished
  | hasError text => do
    let messages := o.reports.diagnostics.map Diagnostic.message
    require o.reports.hasErrors .noErrors
    require (messages.any (Text.occursIn text)) (.otherErrors text messages)
  | hasDiagnostic key => require (!(o.reports.withKey key).isEmpty) (.noDiagnostic key)
  | diagnosticCount key count =>
    let actual := (o.reports.withKey key).length
    require (actual = count) (.diagnosticCount key actual count)
  | modelTree text =>
    let expected := withoutLeadingLines text
    require (o.model.tree = expected) (.tree o.model.tree expected)
  | classAt path has lacks => o.model.checkClass path has lacks
  | elementAt path content => o.model.checkElement path content
  | noClass path => require (o.model.findClass? path).isNone (.someClass path)
  | noElement path => require (o.model.findElement? path).isNone (.someElement path)

/-- Checks an expectation of a compilation that was stopped. -/
def checkError (e : CompileError) : Expectation → Except Mismatch Unit
  | failsWith text => require (Text.occursIn text e.message) (.otherMessage text e)
  | aborts accepts =>
    match e with
    | .resolve cause => require (accepts cause) (.unexpectedAbort e)
    | .manifest _ => .error (.unexpectedAbort e)
  | _ => .error (.aborted e)

/-- **Checks** an expectation of what a compilation gave. -/
def check (e : Expectation) : Except CompileError Outcome → Except Mismatch Unit
  | .ok outcome => e.checkOutcome outcome
  | .error cause => e.checkError cause

end Expectation

end SchemaBinding
