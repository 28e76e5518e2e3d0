import SchemaBinding.Source.Files

/-! # Diagnostics
What a run reports. A finding is raised with a key, a text and a locator; it becomes a diagnostic
whose label points into a registered source, or whose last note says where to look when the source
is not registered. -/

namespace SchemaBinding

/-- How serious a diagnostic is. -/
inductive Severity where
  | bug
  | error
  | warning
  | note
  | help
  deriving DecidableEq, Repr, Inhabited

namespace Severity

/-- The word for a severity. -/
def word : Severity → String
  | bug => "bug"
  | error => "error"
  | warning => "warning"
  | note => "note"
  | help => "help"

/-- Bugs and errors make a run fail. -/
def isError : Severity → Bool
  | bug | error => true
  | warning | note | help => false

end Severity

/-- A marked range with a text. -/
structure Label where
  location : Location
  message : String
  deriving DecidableEq, Repr, Inhabited

/-- A **diagnostic** as it is shown. -/
structure Diagnostic where
  severity : Severity
  code : String
  message : String
  notes : List String := []
  labels : List Label := []
  deriving DecidableEq, Repr, Inhabited

/-- What opens a diagnostic: its severity, its code and a message. -/
def Diagnostic.opening (d : Diagnostic) (message : String) : String :=
  d.severity.word ++ "[" ++ d.code ++ "]: " ++ message

/-- A diagnostic in one line: its opening with the first line of the message. -/
def Diagnostic.header (d : Diagnostic) : String :=
  d.opening (String.ofList (Text.firstLine d.message.toList))

/-- A diagnostic with its whole message, which may run over several lines, and the places that its
labels point to. -/
def Diagnostic.text (d : Diagnostic) (sources : Sources) : String :=
  let places := d.labels.filterMap fun label => sources.place? label.location
  d.opening d.message ++ "\n" ++ String.join (places.map fun place => "  at " ++ place ++ "\n")

/-- A **finding**: what is to be reported, before it is located. -/
structure Finding where
  key : String
  severity : Severity
  message : String
  notes : List String := []
  /-- The text of the label, if the finding can be located. -/
  label : String := ""
  locator : Option Locator := none
  deriving DecidableEq, Repr, Inhabited

/-- Where to look for a declaration whose source is not registered. -/
def Locator.positionNote? (l : Locator) : Option String :=
  l.fileName?.map fun name =>
    match l.line with
    | some line => "declared at " ++ name ++ ":" ++ toString line
    | none => "declared in " ++ name

/-- The diagnostic for a finding, against registered sources. -/
def Finding.diagnostic (f : Finding) (sources : Sources) : Diagnostic :=
  let base : Diagnostic :=
    { severity := f.severity, code := f.key, message := f.message, notes := f.notes }
  match f.locator.bind sources.locate? with
  | some location => { base with labels := [⟨location, f.label⟩] }
  | none => { base with notes := f.notes ++ (f.locator.bind Locator.positionNote?).toList }

/-- The **reports** of a run: its sources and the diagnostics so far, in order. -/
structure Reports where
  sources : Sources := {}
  diagnostics : List Diagnostic := []
  deriving DecidableEq, Repr, Inhabited

namespace Reports

/-- Registers a source. -/
def addSource (r : Reports) (name text : String) : Nat × Reports :=
  let (index, sources) := r.sources.add name text
  (index, { r with sources })

/-- Adds a finding. -/
def raise (r : Reports) (f : Finding) : Reports :=
  { r with diagnostics := r.diagnostics ++ [f.diagnostic r.sources] }

/-- Whether any diagnostic makes the run fail. -/
def hasErrors (r : Reports) : Bool := r.diagnostics.any fun d => d.severity.isError

/-- The diagnostics of a key. -/
def withKey (r : Reports) (key : String) : List Diagnostic :=
  r.diagnostics.filter fun d => d.code == key

end Reports

end SchemaBinding
