import SchemaBinding.Manifest.Basic
import SchemaBinding.Toml.Decode

/-! # Decoding manifests
The tables of a manifest file and their fields. -/

namespace SchemaBinding

open Toml (Decoder)

/-- Decodes an attribute. -/
def AttributeEntry.decode : Decoder AttributeEntry :=
  Toml.record "AttributeDef"
    [.of "name" .required Toml.string fun x e => { e with name := x },
      .of "type" .optional Toml.string fun x e => { e with type := some x },
      .of "line" .optional Toml.nat32 fun x e => { e with line := some x }]
    {}

/-- Decodes a simple type. -/
def SimpleTypeEntry.decode : Decoder SimpleTypeEntry :=
  Toml.record "SimpleTypeDef"
    [.of "name" .required Toml.string fun x e => { e with name := x },
      .of "base" .required Toml.string fun x e => { e with base := x },
      .of "line" .optional Toml.nat32 fun x e => { e with line := some x }]
    {}

/-- An element while its fields are read. -/
structure ElementDraft where
  head : ElementHead := {}
  anonymous : Option ComplexTypeEntry := none

/-- The element whose fields were read. -/
def ElementDraft.entry (d : ElementDraft) : ElementEntry :=
  match d.anonymous with
  | none => .plain d.head
  | some type => .typed d.head type.head type.elements

/-- A field of an element apart from its anonymous type. -/
def ElementDraft.field {α : Type} (name : String) (absence : Toml.Absence) (decode : Decoder α)
    (put : α → ElementHead → ElementHead) : Toml.Field ElementDraft :=
  .of name absence decode fun x d => { d with head := put x d.head }

/-- Decodes an element, given a decoder of its anonymous type. -/
def ElementEntry.decodeWith (anonymous : Decoder ComplexTypeEntry) : Decoder ElementEntry :=
  fun v => (Toml.record "ElementDef"
    [ElementDraft.field "name" .optional Toml.string fun x h => { h with name := some x },
      ElementDraft.field "ref" .optional Toml.string fun x h => { h with reference := some x },
      ElementDraft.field "type" .optional Toml.string fun x h => { h with type := some x },
      ElementDraft.field "abstract" .defaulted Toml.bool fun x h => { h with isAbstract := x },
      ElementDraft.field "repeated" .defaulted Toml.bool fun x h => { h with repeated := x },
      ElementDraft.field "doc" .optional Toml.string fun x h => { h with doc := some x },
      ElementDraft.field "class" .optional Toml.string fun x h => { h with className := some x },
      ElementDraft.field "property" .optional Toml.string fun x h => { h with property := some x },
      ElementDraft.field "line" .optional Toml.nat32 fun x h => { h with line := some x },
      .of "complex_type" .optional anonymous fun x d => { d with anonymous := some x }]
    {} v).map ElementDraft.entry

/-- A field of a complex type apart from its elements. -/
def ComplexTypeEntry.field {α : Type} (name : String) (absence : Toml.Absence)
    (decode : Decoder α) (put : α → TypeHead → TypeHead) : Toml.Field ComplexTypeEntry :=
  .of name absence decode fun x e => { e with head := put x e.head }

/-- Decodes a complex type with at most the given number of levels of anonymous types. -/
def ComplexTypeEntry.decodeWithin : Nat → Decoder ComplexTypeEntry
  | 0 => fun _ => .error .wrongShape
  | levels + 1 =>
    let element := ElementEntry.decodeWith (decodeWithin levels)
    Toml.record "ComplexTypeDef"
      [field "name" .optional Toml.string fun x h => { h with name := some x },
        field "base" .optional Toml.string fun x h => { h with base := some x },
        field "derivation" .defaulted
          (Toml.variant [("extension", Derivation.extension), ("restriction", .restriction)])
          fun x h => { h with derivation := x },
        field "abstract" .defaulted Toml.bool fun x h => { h with isAbstract := x },
        field "doc" .optional Toml.string fun x h => { h with doc := some x },
        field "class" .optional Toml.string fun x h => { h with className := some x },
        field "line" .optional Toml.nat32 fun x h => { h with line := some x },
        .of "element" .defaulted (Toml.list element) fun x e => { e with elements := x },
        field "attribute" .defaulted (Toml.list AttributeEntry.decode)
          fun x h => { h with attributes := x }]
      {}

/-- Decodes a schema, given a decoder of its complex types. -/
def SchemaEntry.decodeWith (complexType : Decoder ComplexTypeEntry) : Decoder SchemaEntry :=
  Toml.record "SchemaDef"
    [.of "namespace" .required Toml.string fun x e => { e with ns := x },
      .of "package" .optional Toml.string fun x e => { e with package := some x },
      .of "location" .optional Toml.string fun x e => { e with location := some x },
      .of "element" .defaulted (Toml.list (ElementEntry.decodeWith complexType))
        fun x e => { e with elements := x },
      .of "complex_type" .defaulted (Toml.list complexType)
        fun x e => { e with complexTypes := x },
      .of "simple_type" .defaulted (Toml.list SimpleTypeEntry.decode)
        fun x e => { e with simpleTypes := x }]
    {}

/-- Decodes a manifest. Anonymous types lie inside each other at most as deep as the document. -/
def Manifest.decode : Decoder Manifest := fun v =>
  let schema := SchemaEntry.decodeWith (ComplexTypeEntry.decodeWithin (v.depth + 1))
  Toml.record "Manifest"
    [.of "schema" .defaulted (Toml.list schema) fun x m => { m with schemas := x }] {} v

/-- The manifest that a text describes. -/
def Manifest.ofText (text : String) : Except Toml.DecodeError Manifest :=
  Toml.decodeText Manifest.decode text

end SchemaBinding
