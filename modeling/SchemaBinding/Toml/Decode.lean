import SchemaBinding.Toml.Document
import SchemaBinding.Text.Quoted

/-! # Decoding values into records
A record is decoded from a table by its fields, visited in the order of the document. The first
mismatch stops the decoding: a key that is no field, a value of another type, or, at the end, a
required field without a key. A record may also be written as an array of its fields' values. -/

namespace SchemaBinding.Toml

/-- Why a document does not decode. -/
inductive DecodeError where
  /-- The text is not a TOML document. -/
  | malformed
  | invalidType (found expected : String)
  | invalidValue (found : Int) (expected : String)
  | unknownField (field : String) (known : List String)
  | missingField (field : String)
  | unknownVariant (variant : String) (known : List String)
  /-- A value has the wrong number of parts, or a choice is not written as one. -/
  | wrongShape
  deriving DecidableEq, Repr

/-- A name between backticks. -/
def ticked (name : String) : String := "\x60" ++ name ++ "\x60"

/-- A list of names to choose from. -/
def oneOf : List String → String
  | [] => "there are none"
  | [a] => "expected " ++ ticked a
  | [a, b] => "expected " ++ ticked a ++ " or " ++ ticked b
  | names => "expected one of " ++ String.intercalate ", " (names.map ticked)

/-- The message of an error that says what was expected. -/
def DecodeError.message? : DecodeError → Option String
  | malformed => none
  | invalidType found expected => some ("invalid type: " ++ found ++ ", expected " ++ expected)
  | invalidValue found expected =>
    some ("invalid value: integer " ++ ticked (toString found) ++ ", expected " ++ expected)
  | unknownField field known => some ("unknown field " ++ ticked field ++ ", " ++ oneOf known)
  | missingField field => some ("missing field " ++ ticked field)
  | unknownVariant variant known =>
    some ("unknown variant " ++ ticked variant ++ ", " ++ oneOf known)
  | wrongShape => none

/-- A value as a message mentions it. -/
def Value.mention : Value → String
  | .string text => "string " ++ Text.quoted text
  | .integer n => "integer " ++ ticked (toString n)
  | .float x => "floating point " ++ ticked (Decimal.floatText x)
  | .boolean b => "boolean " ++ ticked (toString b)
  | .array _ | .tables _ => "sequence"
  | .datetime | .table _ _ => "map"

/-- A **decoder** of values of a type. -/
abbrev Decoder (α : Type) := Value → Except DecodeError α

/-- Decodes a text. -/
def string : Decoder String
  | .string text => .ok text
  | v => .error (.invalidType v.mention "a string")

/-- Decodes a truth value. -/
def bool : Decoder Bool
  | .boolean b => .ok b
  | v => .error (.invalidType v.mention "a boolean")

/-- Decodes a natural number of 32 bits. -/
def nat32 : Decoder Nat
  | .integer n =>
    if 0 ≤ n && n < 0x100000000 then .ok n.toNat else .error (.invalidValue n "u32")
  | v => .error (.invalidType v.mention "u32")

/-- Decodes every item of an array. -/
def list {α : Type} (item : Decoder α) : Decoder (List α)
  | .array items | .tables items => items.mapM item
  | v => .error (.invalidType v.mention "a sequence")

/-- Whether nothing stands behind a variant. -/
def Value.isEmptyContainer : Value → Bool
  | .array items | .tables items => items.isEmpty
  | .table _ entries => entries.isEmpty
  | _ => false

/-- Decodes a choice between named variants: a string, or a table with the variant as its only key
and nothing behind it. -/
def variant {α : Type} (known : List (String × α)) : Decoder α
  | .string text => choose text
  | .table _ [(key, v)] => do
    let choice ← choose key
    if v.isEmptyContainer then .ok choice else .error .wrongShape
  | _ => .error .wrongShape
where
  /-- The variant of a name. -/
  choose (text : String) : Except DecodeError α :=
    match known.lookup text with
    | some choice => .ok choice
    | none => .error (.unknownVariant text (known.map Prod.fst))

/-- What a record does without a value for a field. -/
inductive Absence where
  /-- The field has to be there. -/
  | required
  /-- The field may be missing in a table, but not in an array of values. -/
  | optional
  /-- The field may be missing, and takes its default. -/
  | defaulted
  deriving DecidableEq, Repr

/-- A **field** of a record that is decoded step by step. -/
structure Field (σ : Type) where
  name : String
  absence : Absence
  /-- Puts a value of the field into the record. -/
  read : Value → σ → Except DecodeError σ

/-- A field that is set from a decoded value. -/
def Field.of {σ α : Type} (name : String) (absence : Absence) (decode : Decoder α)
    (put : α → σ → σ) : Field σ where
  name := name
  absence := absence
  read := fun v record => (decode v).map fun a => put a record

/-- Reads the entries of a table into a record. -/
def readEntries {σ : Type} (fields : List (Field σ)) :
    Entries → σ → Except DecodeError σ
  | [], record => .ok record
  | (key, v) :: rest, record =>
    match fields.find? fun field => field.name == key with
    | some field => do readEntries fields rest (← field.read v record)
    | none => .error (.unknownField key (fields.map Field.name))

/-- Reads an array of values into a record, field by field. -/
def readItems {σ : Type} : List (Field σ) → List Value → σ → Except DecodeError σ
  | [], _, record => .ok record
  | field :: fields, v :: rest, record => do readItems fields rest (← field.read v record)
  | field :: fields, [], record =>
    if (field :: fields).all fun f => f.absence = .defaulted then .ok record
    else .error .wrongShape

/-- Decodes a record from its initial state. -/
def record {σ : Type} (name : String) (fields : List (Field σ)) (initial : σ) : Decoder σ
  | .table _ entries => do
    let result ← readEntries fields entries initial
    match fields.find? fun f => f.absence = .required && (entries.lookup f.name).isNone with
    | some field => .error (.missingField field.name)
    | none => .ok result
  | .array items | .tables items => readItems fields items initial
  | .datetime => .error (.unknownField "$__toml_private_datetime" (fields.map Field.name))
  | v => .error (.invalidType v.mention ("struct " ++ name))

/-- Decodes a whole document. -/
def decodeText {α : Type} (decode : Decoder α) (text : String) : Except DecodeError α :=
  match Value.ofText? text with
  | some v => decode v
  | none => .error .malformed

end SchemaBinding.Toml
