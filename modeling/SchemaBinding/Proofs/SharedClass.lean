import SchemaBinding.Proofs.Acknowledging.Run
import SchemaBinding.Proofs.Completion
import SchemaBinding.Proofs.Moves.Inheritance
import SchemaBinding.Proofs.Moves.Titles

/-! # Classes that elements share
An element and the anonymous complex types that it declares may have one class. Its body is built
once, for one of them. Only the customizations of this one are sure to be used: the class is
documented after it, and its property customization is acknowledged. -/

namespace SchemaBinding

open Resolver (State)

variable {x : Context} {declared : List ComponentId} {s : State} {l : Ledger}
  {d e : ComponentId} {k : ClassId} {text : String}

/-! ## Documentation -/

/-- The **customized** documentation of a declaration comes first. -/
theorem SchemaSet.exists_append_of_documentation? {set : SchemaSet} {paragraphs : List String}
    (h : set.documentation? d = some paragraphs)
    (htext : (set.component d).custom.documentation = some text) :
    ∃ rest, String.intercalate "\n\n" paragraphs = text ++ rest := by
  obtain ⟨fragment, -, rfl⟩ := Option.map_eq_some_iff.1 h
  rw [htext]
  exact ⟨"\n\n" ++ (set.originText d ++ "\n\n" ++ excerptText fragment),
    by simp [String.append_assoc]⟩

/-- The documentation of a declaration without a customized one begins with where it stands. -/
theorem SchemaSet.exists_append_of_documentation?_none {set : SchemaSet} {paragraphs : List String}
    (h : set.documentation? d = some paragraphs)
    (hnone : (set.component d).custom.documentation = none) :
    ∃ rest, String.intercalate "\n\n" paragraphs = "Generated from " ++ rest := by
  obtain ⟨fragment, -, rfl⟩ := Option.map_eq_some_iff.1 h
  obtain ⟨origin, horigin⟩ : ∃ rest, set.originText d = "Generated from " ++ rest := by
    unfold originText
    simp only [String.append_assoc]
    exact ⟨_, rfl⟩
  rw [hnone, horigin]
  exact ⟨origin ++ "\n\n" ++ excerptText fragment, by simp [String.append_assoc]⟩

/-- Paragraphs are separated by empty lines. -/
theorem ClassInfo.doc_foldl_appendDoc {info : ClassInfo} (hdoc : info.doc = none) {first : String}
    {rest : List String} :
    ((first :: rest).foldl appendDoc info).doc =
      some (String.intercalate "\n\n" (first :: rest)) := by
  have hrest (rest : List String) (doc : String) (info : ClassInfo) (hdoc : info.doc = some doc) :
      (rest.foldl appendDoc info).doc = some (String.intercalate "\n\n" (doc :: rest)) := by
    induction rest generalizing doc info with
    | nil => exact hdoc
    | cons text rest ih => exact ih (doc ++ "\n\n" ++ text) _ (by simp [appendDoc, hdoc])
  exact hrest rest first _ (by simp [appendDoc, hdoc])

/-- A class that is prepared for a component is documented after it. -/
theorem Context.PreparedFor.exists_documentation? {info : ClassInfo} (h : x.PreparedFor d info)
    (hdocs : x.config.generateDocs = true) :
    ∃ paragraphs, x.schema.documentation? d = some paragraphs ∧
      info.doc = some (String.intercalate "\n\n" paragraphs) := by
  obtain ⟨paragraphs, hparagraphs, -, hdoc⟩ := h
  have hparagraphs : x.schema.documentation? d = some paragraphs := by
    simpa [docs?, hdocs, ClassInfo.blank] using hparagraphs
  refine ⟨paragraphs, hparagraphs, hdoc.trans ?_⟩
  cases paragraphs with
  | nil =>
    obtain ⟨fragment, -, hnil⟩ := Option.map_eq_some_iff.1 hparagraphs
    simp at hnil
  | cons first rest =>
    refine ClassInfo.doc_foldl_appendDoc ?_
    split
    · split <;> rfl
    · rfl

/-! ## The component that a class is built for -/

/-- A class of an element is shared only with **anonymous complex types** that are declared by what
has the class. -/
theorem Reachable.declaringElement?_of_ne (h : Reachable x l)
    (helement : (x.schema.component e).isElement = true)
    (he : l.target? e = some (.classRef k)) (hd : l.target? d = some (.classRef k)) (hne : d ≠ e) :
    (x.schema.component d).isComplexType = true ∧ (x.schema.component d).name = none ∧
      ∃ owner, (x.schema.component d).declaringElement? = some owner ∧
        l.target? owner = some (.classRef k) ∧
          ((x.schema.component owner).isElement = true → owner = e) := by
  -- of an element and another component with its class the other one is an anonymous type
  have hanonymous (c : ComponentId) (hc : l.target? c = some (.classRef k)) (hce : c ≠ e) :
      (x.schema.component c).isComplexType = true ∧
        ∃ owner, x.schema.asked? c = some owner ∧ l.target? owner = some (.classRef k) := by
    obtain ⟨d, owner, rfl | rfl, hcomplex, hasked, howner⟩ := h.shared c e k hc he hce
    · exact ⟨hcomplex, owner, hasked, howner⟩
    · rw [Component.isComplexType_of_isElement helement] at hcomplex
      cases hcomplex
  obtain ⟨hcomplex, owner, hasked, howner⟩ := hanonymous d hd hne
  obtain ⟨hname, hdeclaring⟩ := SchemaSet.declaringElement?_of_asked? hcomplex hasked
  refine ⟨hcomplex, hname, owner, hdeclaring, howner, fun hkind => ?_⟩
  by_contra hother
  have hnot := (hanonymous owner howner hother).1
  rw [Component.isComplexType_of_isElement hkind] at hnot
  cases hnot

namespace Resolver.State

/-- An element is **mentioned** when a class was built from a content in which it occurs. -/
def Mentioned (x : Context) (s : State) (e : ComponentId) : Prop :=
  ∃ c k, Mark.done c k ∈ s.ledger.log ∧ ∃ id type, x.schema.bodyKind c = .content id type ∧
    ∃ occurrences, x.schema.occurrences? type.content = some occurrences ∧
      ∃ p ∈ occurrences, p.term = e

/-- A finished body serves an element that it was built for or **mentions**. -/
theorem exists_serves_iff (helement : (x.schema.component e).isElement = true) :
    (∃ mark ∈ s.ledger.log, mark.Serves x.schema e) ↔
      (∃ k, Mark.done e k ∈ s.ledger.log) ∨ s.Mentioned x e := by
  constructor
  · rintro ⟨_ | ⟨c, k⟩, hmark, hserves⟩
    · exact hserves.elim
    · rcases hserves with rfl | hnamed
      · exact .inl ⟨k, hmark⟩
      · exact .inr ⟨c, k, hmark, (SchemaSet.mem_named_iff helement).1 hnamed⟩
  · rintro (⟨k, hmark⟩ | ⟨c, k, hmark, hmentions⟩)
    · exact ⟨_, hmark, .inl rfl⟩
    · exact ⟨_, hmark, .inr ((SchemaSet.mem_named_iff helement).2 hmentions)⟩

/-- What became of the customizations of an element whose class was built **for** a component. -/
structure Customized (x : Context) (s : State) (unused : List ComponentId) (e d : ComponentId)
    (k : ClassId) : Prop where
  bound : s.registry.target? d = some (.classRef k)
  marks : s.ledger.marks k = [.done d k, .begun d k]
  /-- Another one than the element is an anonymous complex type, of the element if it is declared by
  one. -/
  shared : d ≠ e → (x.schema.component d).isComplexType = true ∧
    (x.schema.component d).name = none ∧
      ∃ owner, (x.schema.component d).declaringElement? = some owner ∧
        s.registry.target? owner = some (.classRef k) ∧
          ((x.schema.component owner).isElement = true → owner = e)
  documented : x.config.generateDocs = true →
    ∃ paragraphs, x.schema.documentation? d = some paragraphs ∧
      (s.model.classInfo k).doc = some (String.intercalate "\n\n" paragraphs)
  /-- The documentation begins with that of the element if the class was built for it. -/
  begins : x.config.generateDocs = true → d = e →
    ∀ text, (x.schema.component e).custom.documentation = some text →
      ∃ rest, (s.model.classInfo k).doc = some (text ++ rest)
  /-- The property customization is used if the class was built for the element, or some class was
  built from a content in which it occurs. -/
  warned : e ∈ unused ↔ x.schema.customizesProperty e = true ∧ d ≠ e ∧ ¬ s.Mentioned x e

end Resolver.State

namespace Ledger.Finished

/-- A class is **documented** after the component that it was built for. -/
theorem exists_documentation? (h : s.ledger.Finished x declared)
    (hbegun : Mark.begun d k ∈ s.ledger.log) (hdocs : x.config.generateDocs = true) :
    ∃ paragraphs, x.schema.documentation? d = some paragraphs ∧
      (s.model.classInfo k).doc = some (String.intercalate "\n\n" paragraphs) :=
  (h.reachable.titled.prepared d k hbegun).exists_documentation? hdocs

/-- When a run has come to its end, the class of an element was built for some component. -/
theorem exists_customized (h : s.ledger.Finished x declared) {unused : List ComponentId}
    (hunused : ∀ id, id ∈ unused ↔ x.schema.customizesProperty id = true ∧
      ∀ mark ∈ s.ledger.log, ¬ mark.Serves x.schema id)
    (helement : (x.schema.component e).isElement = true)
    (he : s.registry.target? e = some (.classRef k)) : ∃ d, s.Customized x unused e d k := by
  have hindex : k.index < s.ledger.model.classes.size := (h.reachable.housed k).2 ⟨e, he⟩
  obtain ⟨d, hd, hmarks⟩ := h.exists_marks (h.mem_built hindex)
  have hbegun : Mark.begun d k ∈ s.ledger.marks k := by simp [hmarks]
  have hdocs := h.exists_documentation? (mem_marks.1 hbegun).1
  -- no other body than that of the class has been finished for the element
  have hdone : (∃ j, Mark.done e j ∈ s.ledger.log) ↔ d = e := by
    constructor
    · rintro ⟨j, hj⟩
      have hbound : s.registry.target? e = some (.classRef j) :=
        (h.reachable.building.of_done hj).2.1
      rw [he] at hbound
      cases hbound
      have hmem : Mark.done e k ∈ s.ledger.marks k := mem_marks.2 ⟨hj, rfl⟩
      rw [hmarks] at hmem
      simpa [eq_comm] using hmem
    · rintro rfl
      have hmem : Mark.done d k ∈ s.ledger.marks k := by simp [hmarks]
      exact ⟨k, (mem_marks.1 hmem).1⟩
  refine ⟨d, hd, hmarks, ?shared, hdocs, ?begins, ?warned⟩
  case shared => exact h.reachable.declaringElement?_of_ne helement he hd
  case begins =>
    rintro hgenerate rfl text htext
    obtain ⟨paragraphs, hparagraphs, hdoc⟩ := hdocs hgenerate
    obtain ⟨rest, hrest⟩ := SchemaSet.exists_append_of_documentation? hparagraphs htext
    exact ⟨rest, hdoc.trans (congrArg some hrest)⟩
  case warned =>
    have hserves := State.exists_serves_iff (s := s) helement
    rw [hdone] at hserves
    rw [hunused, ← not_or, ← hserves]
    simp

end Ledger.Finished

namespace Compilation

variable {c : Compilation}

/-- **The customizations of elements with classes.** A run that comes to its end warns about the
property customizations that are unused, and builds the class of every element that has one. -/
theorem customized_of_run (hstandard : c.strategy = .standard) (hrun : c.run = (.ok (), s)) :
    ∃ unused : List ComponentId, unused.Sublist c.schema.ids ∧
      s.reports.withKey Finding.unusedCustomizationKey =
        unused.map (fun id => (c.schema.unusedFinding id).diagnostic s.reports.sources) ∧
      ∀ e k, (c.schema.component e).isElement = true →
        s.registry.target? e = some (.classRef k) → ∃ d, s.Customized c.context unused e d k := by
  obtain ⟨unused, hordered, hwarned, hunused⟩ := unused_of_run hstandard hrun
  have hfinished := finished_of_run hstandard hrun
  exact ⟨unused, hordered, hwarned, fun e k helement he =>
    hfinished.exists_customized hunused helement he⟩

/-- A customized element with an anonymous complex type that is extended by another type. -/
def extendedAnonymously : Compilation where
  schema := (Builder.derive ⟨24⟩ ⟨23⟩ .extension).after
    ((Builder.globalComplexType "urn:x" "T").after
      ((Builder.anonymousComplexType ⟨22⟩).after
        ((Builder.property ⟨22⟩ (some "p")).after
          ((Builder.documentation ⟨22⟩ "About e").after
            ((Builder.globalElement "urn:x" "e" none).after .initial)))))

/-- The run for the type that extends an anonymous type comes to its end. -/
theorem run_extendedAnonymously :
    extendedAnonymously.run = (.ok (), extendedAnonymously.run.2) :=
  run_of_fst (by decide +kernel)

/-- The class of the element was built for its anonymous type. -/
theorem customized_of_run_extendedAnonymously :
    extendedAnonymously.run = (.ok (), extendedAnonymously.run.2) ∧
      extendedAnonymously.run.2.ledger.marks ⟨0⟩ = [.done ⟨23⟩ ⟨0⟩, .begun ⟨23⟩ ⟨0⟩] ∧
      ∃ unused : List ComponentId, unused.Sublist extendedAnonymously.schema.ids ∧
        extendedAnonymously.run.2.reports.withKey Finding.unusedCustomizationKey =
          unused.map (fun id => (extendedAnonymously.schema.unusedFinding id).diagnostic
            extendedAnonymously.run.2.reports.sources) ∧
        ∀ e k, (extendedAnonymously.schema.component e).isElement = true →
          extendedAnonymously.run.2.registry.target? e = some (.classRef k) →
            ∃ d, extendedAnonymously.run.2.Customized extendedAnonymously.context unused e d k :=
  ⟨run_extendedAnonymously, by decide +kernel, customized_of_run rfl run_extendedAnonymously⟩

/-- **Both customizations** of the element are lost. -/
theorem exists_customizations_lost :
    extendedAnonymously.schema.Built ∧ extendedAnonymously.config.generateDocs = true ∧
      extendedAnonymously.run = (.ok (), extendedAnonymously.run.2) ∧
      ∃ e k text, ∃ unused : List ComponentId,
        (extendedAnonymously.schema.component e).isElement = true ∧
        (extendedAnonymously.schema.component e).isGlobal = true ∧
        extendedAnonymously.run.2.registry.target? e = some (.classRef k) ∧
        (extendedAnonymously.schema.component e).custom.documentation = some text ∧
        (∀ rest, (extendedAnonymously.run.2.model.classInfo k).doc ≠ some (text ++ rest)) ∧
        extendedAnonymously.schema.customizesProperty e = true ∧
        extendedAnonymously.run.2.reports.withKey Finding.unusedCustomizationKey =
          unused.map (fun id => (extendedAnonymously.schema.unusedFinding id).diagnostic
            extendedAnonymously.run.2.reports.sources) ∧ e ∈ unused := by
  have hfinished := finished_of_run rfl run_extendedAnonymously
  obtain ⟨unused, -, hwarned, hunused⟩ := unused_of_run rfl run_extendedAnonymously
  refine ⟨?built, rfl, run_extendedAnonymously, ⟨22⟩, ⟨0⟩, "About e", unused, by decide +kernel,
    by decide +kernel, by decide +kernel, by decide +kernel, ?documentation, by decide +kernel,
    hwarned, (hunused ⟨22⟩).2 ⟨by decide +kernel, ?property⟩⟩
  case built =>
    exact (((((SchemaSet.Built.initial.call (.globalElement _ _ _)).call (.documentation _ _)).call
      (.property _ _)).call (.anonymousComplexType _)).call (.globalComplexType _ _)).call
        (.derive _ _ _)
  case documentation =>
    -- the documentation is that of the anonymous type, which has none of its own
    have hbegun : Mark.begun ⟨23⟩ ⟨0⟩ ∈ extendedAnonymously.run.2.ledger.log := by decide +kernel
    obtain ⟨paragraphs, hparagraphs, hdoc⟩ := hfinished.exists_documentation? hbegun rfl
    obtain ⟨origin, horigin⟩ := SchemaSet.exists_append_of_documentation?_none hparagraphs
      (by decide +kernel)
    intro rest hrest
    have hsame : "Generated from " ++ origin = "About e" ++ rest := by
      rw [← horigin]
      exact Option.some.inj (hdoc.symm.trans hrest)
    have hfirst := congrArg (fun text => text.toList.head?) hsame
    simp at hfirst
  case property =>
    have hlog : extendedAnonymously.run.2.ledger.log =
        [.done ⟨24⟩ ⟨1⟩, .done ⟨23⟩ ⟨0⟩, .begun ⟨23⟩ ⟨0⟩, .begun ⟨24⟩ ⟨1⟩] := by
      decide +kernel
    have hnamed (c : ComponentId) (hc : c = ⟨23⟩ ∨ c = ⟨24⟩) :
        ⟨22⟩ ∉ extendedAnonymously.schema.named c := by
      rcases hc with rfl | rfl <;> decide +kernel
    rw [hlog]
    simp [Mark.Serves, hnamed]

end Compilation

end SchemaBinding
