import SchemaBinding.CommandLine.Help
import SchemaBinding.Compilation
import SchemaBinding.Model.Tree
import SchemaBinding.Resolver.ConfigFile

/-! # Running a command
A command compiles its manifests one after the other. The exit code is 0 if all went well, 1 if a
manifest is rejected or has errors, and 2 if a file cannot be used; the worst of all counts. -/

namespace SchemaBinding.CommandLine

/-- What a run leaves behind. -/
structure Result where
  exit : Nat := 0
  output : String := ""
  errors : String := ""
  deriving DecidableEq, Repr, Inhabited

namespace Result

/-- A result that reports one error. -/
def failure (exit : Nat) (message : String) : Result :=
  { exit, errors := "error: " ++ message ++ "\n" }

/-- The result of one run after another. -/
def andThen (first second : Result) : Result where
  exit := max first.exit second.exit
  output := first.output ++ second.output
  errors := first.errors ++ second.errors

end Result

/-- Why a manifest is not compiled. -/
inductive Failure where
  | unreadable (path : String) (cause : ReadError)
  | compile (cause : CompileError)
  deriving DecidableEq, Repr

namespace Failure

/-- The message of a failure. -/
def message : Failure → String
  | unreadable path cause => "cannot read '" ++ path ++ "': " ++ cause.message
  | compile cause => cause.message

/-- The exit code of a failure. -/
def exit : Failure → Nat
  | unreadable _ _ => 2
  | compile _ => 1

end Failure

/-- The configuration of a run: that of the file, changed by the options. -/
def Options.configuration (o : Options) (files : FileStore) : Except ConfigFileError Config := do
  let config ← match o.config with
    | some path => Config.ofFile files path
    | none => pure {}
  return { config with
    package := o.package.or config.package
    localScoping := if o.toplevel then .toplevel else config.localScoping }

/-- Compiles a manifest with the sources of the options. -/
def compileFile (files : FileStore) (o : Options) (config : Config) (path : String) :
    Except Failure Outcome := do
  let text ← (files path).mapError (.unreadable path)
  let sources ← o.sources.mapM fun path =>
    (SourceFile.read files path).mapError (.unreadable path)
  (Compilation.compileManifest { config, sources } text path).mapError .compile

/-- The result for the outcome of a manifest. -/
def Result.ofOutcome (tree : Bool) (o : Outcome) : Result where
  exit := if o.reports.hasErrors then 1 else 0
  output := if tree then o.model.tree else ""
  errors := String.join (o.reports.diagnostics.map fun d => d.text o.reports.sources)

/-- The result for a manifest. -/
def runFile (files : FileStore) (o : Options) (config : Config) (tree : Bool) (path : String) :
    Result :=
  match compileFile files o config path with
  | .ok outcome => .ofOutcome tree outcome
  | .error failure => .failure failure.exit failure.message

/-- The manifests of a command. -/
def Command.manifests : Command → List String
  | check manifests _ => manifests
  | bind manifest => [manifest]

/-- Whether a command shows the model. -/
def Command.showsTree : Command → Bool
  | check _ tree => tree
  | bind _ => true

/-- The result of a command. -/
def runCommand (files : FileStore) (o : Options) (command : Command) : Result :=
  match o.configuration files with
  | .error e => .failure 2 e.message
  | .ok config =>
    if command.manifests.isEmpty then .failure 2 "no input files"
    else (command.manifests.map (runFile files o config command.showsTree)).foldl
      Result.andThen {}

/-- The **result** of a request. -/
def Request.result (files : FileStore) : Request → Result
  | .run options command => runCommand files options command
  | .help topic => { output := helpText topic }
  | .version => { output := versionText }

/-- The paths that a request reads. -/
def Request.paths : Request → List String
  | .run options command => options.config.toList ++ options.sources ++ command.manifests
  | .help _ | .version => []

end SchemaBinding.CommandLine
