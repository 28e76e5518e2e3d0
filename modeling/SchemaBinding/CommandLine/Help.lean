import SchemaBinding.CommandLine.Request

/-! # Help texts -/

namespace SchemaBinding.CommandLine

/-- The name of the program, as it is called. -/
def programName : String := "xbind"

/-- The line that names the program and its version. -/
def versionText : String := programName ++ " 0.1.0\n"

/-- A row of two columns, the first of which has a width. -/
def row (width : Nat) (left right : String) : String :=
  "  " ++ left ++ String.ofList (List.replicate (width - left.length) ' ') ++ "  " ++ right ++ "\n"

/-- A headed table whose first column is as wide as its widest entry. -/
def table (head : String) (rows : List (String × String)) : String :=
  let width := (rows.map fun (left, _) => left.length).foldl max 0
  head ++ ":\n" ++ String.join (rows.map fun (left, right) => row width left right)

/-- The rows of the options that every command takes. -/
def optionRows : List (String × String) :=
  [("    --config <CONFIG>", "Resolver configuration (TOML)"),
    ("    --package <PACKAGE>", "Put every generated class in this package"),
    ("    --toplevel", "Place classes for local declarations at package level"),
    ("    --source <SOURCES>", "Schema documents to register for diagnostic labels"),
    ("-v, --verbose", "Verbose output"),
    ("-h, --help", "Print help")]

/-- What a topic is about. -/
def about : Topic → String
  | .program => "Resolve schema components to generated classes"
  | .check => "Resolve manifests and report diagnostics"
  | .bind => "Resolve a manifest and print the generated model"
  | .help => "Print this message or the help of the given subcommand(s)"

/-- How a topic is written on the command line. -/
def usage : Topic → String
  | .program => programName ++ " [OPTIONS] <COMMAND>"
  | .check => programName ++ " check [OPTIONS] [MANIFESTS]..."
  | .bind => programName ++ " bind [OPTIONS] <MANIFEST>"
  | .help => programName ++ " help [COMMAND]..."

/-- The tables of a topic. -/
def tables : Topic → List String
  | .program =>
    [table "Commands"
      [("check", about .check), ("bind", about .bind), ("help", about .help)],
      table "Options" (optionRows ++ [("-V, --version", "Print version")])]
  | .check =>
    [table "Arguments" [("[MANIFESTS]...", "Schema manifests to check")],
      table "Options" (("    --tree", "Show the generated model") :: optionRows)]
  | .bind =>
    [table "Arguments" [("<MANIFEST>", "Schema manifest")], table "Options" optionRows]
  | .help => [table "Arguments" [("[COMMAND]...", "Print help for the subcommand(s)")]]

/-- The **help text** of a topic. -/
def helpText (topic : Topic) : String :=
  String.intercalate "\n"
    ((about topic ++ "\n") :: ("Usage: " ++ usage topic ++ "\n") :: tables topic)

end SchemaBinding.CommandLine
