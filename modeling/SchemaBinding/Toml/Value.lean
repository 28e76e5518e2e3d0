/-! # Values of TOML documents
A document is a tree of tables, arrays and scalars. A table remembers how it was opened, because
that decides who may add to it later. -/

namespace SchemaBinding.Toml

/-- How a table was opened. -/
inductive TableForm where
  /-- By a header of its own, or as the document itself. -/
  | header
  /-- By a header of a table inside it. -/
  | implied
  /-- By dotted keys. -/
  | dotted
  /-- Between braces. -/
  | inline
  deriving DecidableEq, Repr, Inhabited

/-- A **value** of a document. -/
inductive Value where
  | string (text : String)
  | integer (value : Int)
  | float (value : Float)
  | boolean (value : Bool)
  | datetime
  /-- An array between brackets. -/
  | array (items : List Value)
  /-- The tables of one array header, in order. -/
  | tables (items : List Value)
  | table (form : TableForm) (entries : List (String × Value))
  deriving Repr, Inhabited

/-- The entries of a table in the order of their keys' first mention. -/
abbrev Entries := List (String × Value)

mutual

/-- The number of levels of arrays and tables in a value. -/
def Value.depth : Value → Nat
  | .array items => itemsDepth items + 1
  | .tables items => itemsDepth items + 1
  | .table _ entries => entriesDepth entries + 1
  | _ => 0

/-- The greatest depth of an item. -/
def itemsDepth : List Value → Nat
  | [] => 0
  | v :: rest => max v.depth (itemsDepth rest)

/-- The greatest depth of an entry. -/
def entriesDepth : List (String × Value) → Nat
  | [] => 0
  | (_, v) :: rest => max v.depth (entriesDepth rest)

end

mutual

/-- A value as it stands inside a closed inline table, where no table takes further entries. -/
def Value.sealed : Value → Value
  | .table _ entries => .table .inline (sealedEntries entries)
  | v => v

/-- The entries of a closed inline table. -/
def sealedEntries : List (String × Value) → List (String × Value)
  | [] => []
  | (key, v) :: rest => (key, v.sealed) :: sealedEntries rest

end

end SchemaBinding.Toml
