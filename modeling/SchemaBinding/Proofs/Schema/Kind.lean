import SchemaBinding.Schema.Component

/-! # Kinds of components
What a component is may be asked for in several ways. All of them are read off its kind, so no
component is two things at once. -/

namespace SchemaBinding.Component

variable {c : Component}

/-! ## Descriptions -/

/-- A component is read as an element exactly if it is one. -/
theorem asElement_eq_some {decl : ElementDecl} :
    c.asElement = some decl ↔ c.kind = .element decl := by
  unfold asElement
  cases c.kind <;> simp

/-- A component is read as a complex type exactly if it is one. -/
theorem asComplexType_eq_some {type : ComplexType} :
    c.asComplexType = some type ↔ c.kind = .complexType type := by
  unfold asComplexType
  cases c.kind <;> simp

/-- A component is read as a simple type exactly if it is one. -/
theorem asSimpleType_eq_some {type : SimpleType} :
    c.asSimpleType = some type ↔ c.kind = .simpleType type := by
  unfold asSimpleType
  cases c.kind <;> simp

/-- A component is read as an attribute exactly if it is one. -/
theorem asAttribute_eq_some {decl : AttributeDecl} :
    c.asAttribute = some decl ↔ c.kind = .attribute decl := by
  unfold asAttribute
  cases c.kind <;> simp

/-- A component is read as a group exactly if it is one. -/
theorem asGroup_eq_some {group : ModelGroup} :
    c.asGroup = some group ↔ c.kind = .group group := by
  unfold asGroup
  cases c.kind <;> simp

/-! ## Tests -/

/-- An element has the kind of one. -/
theorem isElement_iff : c.isElement = true ↔ ∃ decl, c.kind = .element decl := by
  simp only [isElement, Option.isSome_iff_exists, asElement_eq_some]

/-- A complex type has the kind of one. -/
theorem isComplexType_iff : c.isComplexType = true ↔ ∃ type, c.kind = .complexType type := by
  simp only [isComplexType, Option.isSome_iff_exists, asComplexType_eq_some]

/-- A simple type has the kind of one. -/
theorem isSimpleType_iff : c.isSimpleType = true ↔ ∃ type, c.kind = .simpleType type := by
  simp only [isSimpleType, Option.isSome_iff_exists, asSimpleType_eq_some]

/-- A group has the kind of one. -/
theorem isGroup_iff : c.isGroup = true ↔ ∃ group, c.kind = .group group := by
  simp only [isGroup, Option.isSome_iff_exists, asGroup_eq_some]

/-! ## Elements, complex types and groups differ -/

/-- No element is a complex type. -/
theorem isComplexType_of_isElement (h : c.isElement = true) : c.isComplexType = false := by
  obtain ⟨decl, hkind⟩ := isElement_iff.1 h
  simp [isComplexType, asComplexType, hkind]

/-- No complex type is an element. -/
theorem isElement_of_isComplexType (h : c.isComplexType = true) : c.isElement = false := by
  obtain ⟨type, hkind⟩ := isComplexType_iff.1 h
  simp [isElement, asElement, hkind]

/-- No simple type is a complex type. -/
theorem isComplexType_of_isSimpleType (h : c.isSimpleType = true) : c.isComplexType = false := by
  obtain ⟨type, hkind⟩ := isSimpleType_iff.1 h
  simp [isComplexType, asComplexType, hkind]

/-- No element is a group. -/
theorem isGroup_of_isElement (h : c.isElement = true) : c.isGroup = false := by
  obtain ⟨decl, hkind⟩ := isElement_iff.1 h
  simp [isGroup, asGroup, hkind]

/-- No complex type is a group. -/
theorem isGroup_of_isComplexType (h : c.isComplexType = true) : c.isGroup = false := by
  obtain ⟨type, hkind⟩ := isComplexType_iff.1 h
  simp [isGroup, asGroup, hkind]

end SchemaBinding.Component
