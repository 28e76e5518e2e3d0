import SchemaBinding.Text.Split

/-! # Command lines
What a command line asks for. A command follows the options of the program and is followed by its
own arguments; the options of the program may also stand among these. What is not understood, is
given twice or lacks a value makes the whole line wrong. -/

namespace SchemaBinding.CommandLine

/-- The options that every command takes. -/
structure Options where
  config : Option String := none
  package : Option String := none
  toplevel : Bool := false
  sources : List String := []
  verbose : Bool := false
  deriving DecidableEq, Repr, Inhabited

/-- A command with its arguments. -/
inductive Command where
  /-- Compile manifests and report diagnostics, with the model if it is wanted. -/
  | check (manifests : List String) (tree : Bool)
  /-- Compile a manifest and show its model. -/
  | bind (manifest : String)
  deriving DecidableEq, Repr

/-- What help can be asked about. -/
inductive Topic where
  | program
  | check
  | bind
  | help
  deriving DecidableEq, Repr

/-- A **request**: what a command line asks for. -/
inductive Request where
  | run (options : Options) (command : Command)
  | help (topic : Topic)
  | version
  deriving DecidableEq, Repr

/-! ## The form of an argument -/

/-- An argument by its form alone. -/
inductive Form where
  /-- A long option, possibly with a value behind an equals sign. -/
  | long (name : String) (value : Option String)
  /-- Short options, one letter each. -/
  | short (letters : List Char)
  /-- Two hyphens, behind which nothing is an option. -/
  | separator
  | word
  deriving DecidableEq, Repr

/-- The form of an argument. A single hyphen is a word. -/
def formOf (arg : String) : Form :=
  match arg.toList with
  | ['-', '-'] => .separator
  | '-' :: '-' :: rest =>
    match Text.cutAt '=' rest with
    | some (name, value) => .long (String.ofList name) (some (String.ofList value))
    | none => .long (String.ofList rest) none
  | '-' :: letter :: rest => .short (letter :: rest)
  | _ => .word

/-! ## The arguments of one level -/

/-- Where arguments are read: before the command, or behind it. -/
inductive Level where
  | program
  | check
  | bind
  deriving DecidableEq, Repr

/-- What has been given at a level. -/
structure Given extends Options where
  tree : Bool := false
  /-- The arguments that are no options, in order. -/
  words : List String := []
  /-- The last option and its value, if that stands behind it and has not been looked at yet. -/
  waiting : Option (String × String) := none
  deriving DecidableEq, Repr, Inhabited

namespace Given

/-- The options that take a value. -/
def takesValue (name : String) : Bool := ["config", "package", "source"].contains name

/-- Sets an option to a value. Only sources may be given repeatedly, and paths are not empty. -/
def setValue (g : Given) (name value : String) : Option Given :=
  match name with
  | "config" =>
    if g.config.isSome || value.isEmpty then none else some { g with config := some value }
  | "package" => if g.package.isSome then none else some { g with package := some value }
  | "source" => if value.isEmpty then none else some { g with sources := g.sources ++ [value] }
  | _ => none

/-- Sets the option that waits to its value. -/
def settle (g : Given) : Option Given :=
  match g.waiting with
  | some (name, value) => { g with waiting := none }.setValue name value
  | none => some g

/-- Sets an option without a value. -/
def setFlag (g : Given) (level : Level) (name : String) : Option Given :=
  match name with
  | "toplevel" => if g.toplevel then none else some { g with toplevel := true }
  | "verbose" => if g.verbose then none else some { g with verbose := true }
  | "tree" => if g.tree || level ≠ .check then none else some { g with tree := true }
  | _ => none

/-- Adds an argument that is no option: a path, of which `bind` takes one. -/
def addWord (g : Given) (level : Level) (word : String) : Option Given :=
  if word.isEmpty || level = .program || (level = .bind && !g.words.isEmpty) then none
  else some { g with words := g.words ++ [word] }

/-- What is given to a command and to the program together. The command's own values count. -/
def within (inner outer : Given) : Options where
  config := inner.config.or outer.config
  package := inner.package.or outer.package
  toplevel := inner.toplevel || outer.toplevel
  sources := if inner.sources.isEmpty then outer.sources else inner.sources
  verbose := inner.verbose || outer.verbose

end Given

/-- What was read at a level. -/
inductive Reading where
  /-- All arguments. -/
  | all (given : Given)
  /-- The arguments up to a command, and those behind it. -/
  | upTo (given : Given) (command : String) (rest : List String)
  | help
  | version
  deriving DecidableEq, Repr

/-- Reads an option without a value. -/
def readFlag (level : Level) (g : Given) (name : String) : Option (Except Reading Given) :=
  if name = "help" then some (.error .help)
  else if name = "version" then if level = .program then some (.error .version) else none
  else (g.setFlag level name).map .ok

/-- The name of the option for a letter. -/
def letterName : Char → Option String
  | 'v' => some "verbose"
  | 'h' => some "help"
  | 'V' => some "version"
  | _ => none

/-- Reads short options until one of them ends the reading. -/
def readLetters (level : Level) : Given → List Char → Option (Except Reading Given)
  | g, [] => some (.ok g)
  | g, letter :: rest => do
    match ← readFlag level g (← letterName letter) with
    | .ok g => readLetters level g rest
    | .error reading => return .error reading

/-- Reads the arguments of a level; none if they are wrong. The value behind an option is looked at
with the next argument of the level, so a command comes before it. -/
def read (level : Level) : Given → List String → Option Reading
  | g, [] => g.settle.map .all
  | g, arg :: rest =>
    if level = .program && formOf arg = .word then some (.upTo g arg rest)
    else match g.settle with
    | none => none
    | some g =>
      match formOf arg with
      | .separator => (rest.foldlM (Given.addWord · level ·) g).map .all
      | .word =>
        match g.addWord level arg with
        | some g => read level g rest
        | none => none
      | .short letters =>
        match readLetters level g letters with
        | some (.ok g) => read level g rest
        | some (.error reading) => some reading
        | none => none
      | .long name (some value) =>
        match g.setValue name value with
        | some g => read level g rest
        | none => none
      | .long name none =>
        if Given.takesValue name then
          match rest with
          | value :: rest =>
            if formOf value = .word then read level { g with waiting := some (name, value) } rest
            else none
          | [] => none
        else match readFlag level g name with
          | some (.ok g) => read level g rest
          | some (.error reading) => some reading
          | none => none

/-- The topic that the arguments of `help` name. -/
def topic? : List String → Option Topic
  | [] => some .program
  | ["check"] => some .check
  | ["bind"] => some .bind
  | ["help"] => some .help
  | _ => none

/-- Reads what follows a command. Help comes before what is wrong with a value in front of it. -/
def readCommand (outer : Given) (command : String) (rest : List String) : Option Request :=
  match command with
  | "check" =>
    match read .check {} rest with
    | some (.all inner) =>
      outer.settle.map fun outer => .run (inner.within outer) (.check inner.words inner.tree)
    | some .help => some (.help .check)
    | _ => none
  | "bind" =>
    match read .bind {} rest with
    | some (.all inner) => do
      let path ← inner.words.head?
      return .run (inner.within (← outer.settle)) (.bind path)
    | some .help => some (.help .bind)
    | _ => none
  | "help" => (topic? rest).map .help
  | _ => none

/-- The **request** of a command line; none if the line is wrong. A line without a command is. -/
def Request.ofArguments? (args : List String) : Option Request :=
  match read .program {} args with
  | some (.upTo outer command rest) => readCommand outer command rest
  | some .help => some (.help .program)
  | some .version => some .version
  | _ => none

end SchemaBinding.CommandLine
