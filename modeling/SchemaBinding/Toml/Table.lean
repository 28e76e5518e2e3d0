import SchemaBinding.Toml.Value

/-! # Building tables
Keys and headers add to the tables of a document. A dotted key may pass through tables that were
opened by other dotted keys or are only implied; a header may pass through any table that is not
inline, and through the last table of an array of tables. Nothing is ever defined twice. -/

namespace SchemaBinding.Toml

/-- Changes the value of a key in place. -/
def replaceAt (key : String) (v : Value) : Entries → Entries
  | [] => []
  | (k, old) :: rest => if k = key then (k, v) :: rest else (k, old) :: replaceAt key v rest

/-- Removes a key. -/
def eraseKey (key : String) (entries : Entries) : Entries :=
  entries.filter fun (k, _) => k != key

/-- Changes the entries of the last table of an array of tables. -/
def withLast (f : Entries → Option Entries) : List Value → Option (List Value)
  | [] => none
  | [.table form entries] => (f entries).map fun entries => [.table form entries]
  | [_] => none
  | first :: second :: rest => (withLast f (second :: rest)).map (first :: ·)

/-- Defines a key behind the dotted path `path`. The tables on the path are opened by dotted keys,
the last one always; before it a table may also be implied by a header. -/
def define : List String → String → Value → Entries → Option Entries
  | [], key, v, entries =>
    match entries.lookup key with
    | none => some (entries ++ [(key, v)])
    | some _ => none
  | step :: path, key, v, entries =>
    match entries.lookup step with
    | none => (define path key v []).map fun inner => entries ++ [(step, .table .dotted inner)]
    | some (.table form inner) =>
      if form = .dotted || (form = .implied && !path.isEmpty) then
        (define path key v inner).map fun inner => replaceAt step (.table form inner) entries
      else none
    | some (.tables items) =>
      if path.isEmpty then none
      else (withLast (define path key v) items).map fun items =>
        replaceAt step (.tables items) entries
    | some _ => none

/-- Defines keys one after the other, each behind its path. -/
def defineAll (pairs : List (List String × String × Value)) (entries : Entries) : Option Entries :=
  pairs.foldlM (fun entries (path, key, v) => define path key v entries) entries

/-- Passes through the tables that lead to a header and changes the last of them. Tables that are
missing are implied by the header. -/
def within (f : Entries → Option Entries) : List String → Entries → Option Entries
  | [], entries => f entries
  | step :: path, entries =>
    match entries.lookup step with
    | none => (within f path []).map fun inner => entries ++ [(step, .table .implied inner)]
    | some (.table form inner) =>
      if form = .inline then none
      else (within f path inner).map fun inner => replaceAt step (.table form inner) entries
    | some (.tables items) =>
      (withLast (within f path) items).map fun items => replaceAt step (.tables items) entries
    | some _ => none

/-- Opens the table of a header and fills it. A table that was only implied so far keeps its
entries and moves to the end. -/
def openTable (fill : Entries → Option Entries) (key : String) (entries : Entries) :
    Option Entries :=
  match entries.lookup key with
  | none => (fill []).map fun inner => entries ++ [(key, .table .header inner)]
  | some (.table .implied inner) =>
    (fill inner).map fun inner => eraseKey key entries ++ [(key, .table .header inner)]
  | some _ => none

/-- Adds a table to the array of tables of a header and fills it. -/
def openTables (fill : Entries → Option Entries) (key : String) (entries : Entries) :
    Option Entries :=
  match entries.lookup key with
  | none => (fill []).map fun inner => entries ++ [(key, .tables [.table .header inner])]
  | some (.tables items) =>
    (fill []).map fun inner =>
      replaceAt key (.tables (items ++ [.table .header inner])) entries
  | some _ => none

/-- What a section of a document opens. -/
inductive Header where
  /-- The document itself. -/
  | document
  /-- The table at a path. -/
  | table (path : List String) (key : String)
  /-- One more table of the array at a path. -/
  | tables (path : List String) (key : String)
  deriving DecidableEq, Repr

/-- A **section** of a document: a header and the keys below it. -/
structure Section where
  header : Header
  pairs : List (List String × String × Value)

/-- Adds a section to a document. -/
def Section.addTo (s : Section) (entries : Entries) : Option Entries :=
  match s.header with
  | .document => defineAll s.pairs entries
  | .table path key => within (openTable (defineAll s.pairs) key) path entries
  | .tables path key => within (openTables (defineAll s.pairs) key) path entries

/-- The document of a list of sections. -/
def assemble (sections : List Section) : Option Entries :=
  sections.foldlM (fun entries s => s.addTo entries) []

end SchemaBinding.Toml
