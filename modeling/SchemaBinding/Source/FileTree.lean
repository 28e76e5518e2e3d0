import SchemaBinding.Source.Reading
import SchemaBinding.Text.Split

/-! # File trees
The files and directories below a working directory, held in memory. A path is **walked** name by
name: an empty name and `.` stay where they are, `..` goes up and every other name goes down. Each
name, the empty one behind a final slash too, needs a directory to stand in. -/

namespace SchemaBinding

/-- The names that lead from the working directory down to a file or a directory. -/
abbrev FilePlace := List String

/-- What stands at a place. -/
inductive FileNode where
  | file (bytes : ByteArray)
  | directory
  deriving Inhabited

instance : DecidableEq FileNode
  | .file a, .file b =>
    match ByteArray.instDecidableEq a b with
    | isTrue h => isTrue (congrArg FileNode.file h)
    | isFalse h => isFalse fun heq => h (FileNode.file.inj heq)
  | .file _, .directory => isFalse fun heq => nomatch heq
  | .directory, .file _ => isFalse fun heq => nomatch heq
  | .directory, .directory => isTrue rfl

/-- A **file tree**: what stands at the places below the working directory. What holds something is
a directory, whether it is listed or not. -/
structure FileTree where
  nodes : List (FilePlace × FileNode) := []
  deriving DecidableEq, Inhabited

/-- The names in a path. -/
def namesOfPath (path : String) : List String :=
  (Text.splitOn '/' path.toList).map String.ofList

/-- The place of a path that goes down only. -/
def FilePlace.ofPath (path : String) : FilePlace :=
  (namesOfPath path).filter fun name => name != "" && name != "."

namespace FileTree

/-- What stands at a place. The working directory is always there. -/
def node? (t : FileTree) (place : FilePlace) : Option FileNode :=
  match t.nodes.lookup place with
  | some node => some node
  | none =>
    if place.isEmpty || t.nodes.any fun (other, _) => place.isPrefixOf other then some .directory
    else none

/-- The number of bytes that a name may have. -/
def nameLimit : Nat := 255

/-- The number of bytes that a path may have. -/
def pathLimit : Nat := 4095

/-- Goes on from a place by one name. Above the working directory, which is `none`, there are
directories to pass through and nothing else. -/
def step (t : FileTree) : Option FilePlace → String → Except ReadError (Option FilePlace)
  | none, name => if ["", ".", ".."].contains name then .ok none else .error .notFound
  | some place, name =>
    if t.node? place ≠ some .directory then .error .notDirectory
    else if name = "" || name = "." then .ok (some place)
    else if name = ".." then .ok (if place.isEmpty then none else some place.dropLast)
    else if nameLimit < name.utf8ByteSize then .error .nameTooLong
    else if (t.node? (place ++ [name])).isSome then .ok (some (place ++ [name]))
    else .error .notFound

/-- Walks along names from a place. -/
def walk (t : FileTree) (start : Option FilePlace) (names : List String) :
    Except ReadError (Option FilePlace) :=
  names.foldlM t.step start

@[simp] theorem walk_nil (t : FileTree) (start : Option FilePlace) : t.walk start [] = .ok start :=
  rfl

@[simp] theorem walk_cons (t : FileTree) (start : Option FilePlace) (name : String)
    (names : List String) :
    t.walk start (name :: names) = t.step start name >>= fun place => t.walk place names := rfl

/-- The text of the file at a path. A path that begins with a slash starts at the top. -/
def read (t : FileTree) : FileStore := fun path => do
  if path.contains '\x00' then .error .nulInPath
  else if path.isEmpty then .error .notFound
  else if pathLimit < path.utf8ByteSize then .error .nameTooLong
  else
    let start := if path.startsWith "/" then none else some []
    match ← t.walk start (namesOfPath path) with
    | none => .error .isDirectory
    | some place =>
      match t.node? place with
      | some (.file bytes) => textOfBytes bytes
      | some .directory => .error .isDirectory
      | none => .error .notFound

end FileTree

end SchemaBinding
