import Mathlib.Data.List.Perm.Basic
import SchemaBinding.Proofs.Following.Run
import SchemaBinding.Proofs.Schema.Assembly

/-! # Complete runs
When a standard run comes to its end, everything that was allocated is bound and every class has
been built once. Nothing is left in the queue, whatever the order in which bodies asked for each
other. Schema sets of manifests are built, so a manifest that compiles is compiled completely
(`Compilation.compileManifest_complete`). -/

namespace SchemaBinding

open Resolver (State)

namespace Ledger.Finished

variable {x : Context} {declared : List ComponentId} {l : Ledger} {k : ClassId} {w : ElementId}

/-! ## Classes -/

/-- Every class was begun, since it is bound and does not wait in the queue. -/
theorem mem_built (h : l.Finished x declared) (hk : k.index < l.model.classes.size) :
    k ∈ l.built := by
  obtain ⟨c, hc⟩ := (h.reachable.housed k).1 hk
  rcases h.reachable.building.waiting c k hc with hqueued | hbuilt
  · rw [h.queue] at hqueued
    cases hqueued
  · exact hbuilt

/-- Every body was begun **once** and finished once, for the same component. -/
theorem exists_marks (h : l.Finished x declared) (hk : k ∈ l.built) :
    ∃ c, l.target? c = some (.classRef k) ∧ l.marks k = [.done c k, .begun c k] := by
  obtain ⟨c, hc, hbegun⟩ := h.reachable.building.marked k hk
  cases hbegun with
  | active active =>
    rw [h.building] at active
    cases active
  | done _ marks => exact ⟨c, hc, marks⟩

/-- The classes that were built are the classes there are. -/
theorem perm_built (h : l.Finished x declared) : l.built.Perm l.model.classIds := by
  refine (List.perm_ext_iff_of_nodup h.reachable.building.once
    l.model.nodup_classIds).2 fun k => ?_
  rw [Model.mem_classIds]
  exact ⟨h.reachable.building.index_lt h.reachable.housed, h.mem_built⟩

/-! ## Wrappers -/

/-- Every wrapper is registered, for one element. -/
theorem exists_wrapper (h : l.Finished x declared) (hw : w.index < l.model.elements.size) :
    ∃ e, ∀ d, l.target? d = some (.wrapper w) ↔ d = e := by
  have hwrapped := h.reachable.wrapped
  obtain ⟨e, he⟩ := hwrapped.every w hw
  refine ⟨e, fun d => ⟨fun hd => hwrapped.distinct d e w (hwrapped.bound d w hd) he, ?_⟩⟩
  rintro rfl
  -- an element with a wrapper is bound to it, as nothing is being proposed any more
  rcases (hwrapped.noted d _ he).2.1 with hbound | hproposing
  · exact hbound
  · rw [h.proposing] at hproposing
    cases hproposing

/-- Every wrapper is the target of **exactly one** binding. -/
theorem filter_wrapper (h : l.Finished x declared) (hw : w.index < l.model.elements.size) :
    ∃ e, l.registry.bindings.filter (fun b => b.target = .wrapper w) = [⟨e, .wrapper w⟩] := by
  obtain ⟨e, he⟩ := h.exists_wrapper hw
  -- a component is bound once, so the binding of the element is the only one
  have honce := h.reachable.inOrder.once
  refine ⟨e, List.perm_singleton.1 ?_⟩
  refine (List.perm_ext_iff_of_nodup (honce.of_map _ |>.filter _) (List.nodup_singleton _)).2 ?_
  intro b
  rw [List.mem_filter, List.mem_singleton, decide_eq_true_eq]
  constructor
  · rintro ⟨hb, htarget⟩
    have hfound := Registry.target?_of_mem honce hb
    rw [htarget] at hfound
    rw [← (he b.component).1 hfound, ← htarget]
  · rintro rfl
    exact ⟨Registry.mem_of_target? ((he e).2 rfl), rfl⟩

end Ledger.Finished

/-! ## Runs over built sets -/

/-- A state is **complete** when all that a run allocates is bound and built. -/
structure Resolver.State.Complete (x : Context) (s : State) : Prop where
  queue : s.queue = []
  /-- All elements and complex types are bound that a schema declares. -/
  declared : ∀ id, (x.schema.component id).isGlobal = true →
    (x.schema.component id).ns ≠ xmlSchemaNs →
    ((∃ decl, (x.schema.component id).asElement = some decl ∧ decl.isAbstract = false) ∨
      (x.schema.component id).isComplexType = true) →
    ∃ target, s.registry.target? id = some target
  /-- Every class has been built, with one body for one of the components that are bound to it. -/
  built : ∀ k ∈ s.model.classIds, k ∈ s.built ∧
    ∃ c, s.registry.target? c = some (.classRef k) ∧ s.ledger.marks k = [.done c k, .begun c k]
  wrappers : ∀ w ∈ s.model.elementIds,
    ∃ e, s.registry.bindings.filter (fun b => b.target = .wrapper w) = [⟨e, .wrapper w⟩]
  documented : ∀ k ∈ s.model.classIds,
    (s.model.classInfo k).doc.isSome = x.config.generateDocs
  /-- There is one report for every class with a reserved name. -/
  reserved : (s.reports.withKey Finding.reservedClassNameKey).length =
    s.model.classIds.countP fun k => x.config.isReservedClassName (s.model.classInfo k).name

namespace Compilation

variable {c : Compilation} {s : State} {id : ComponentId}

/-- Global elements and complex types are declarations of a run, if a schema lists them. -/
theorem mem_declarations (hlisted : c.schema.Listed)
    (hglobal : (c.schema.component id).isGlobal = true)
    (hns : (c.schema.component id).ns ≠ xmlSchemaNs)
    (hkind : (c.schema.component id).isElement = true ∨
      (c.schema.component id).isComplexType = true) : id ∈ c.declarations := by
  obtain ⟨schema, hschema, hsame, hid⟩ := hlisted id hglobal
  have hgroup := hkind.elim Component.isGroup_of_isElement Component.isGroup_of_isComplexType
  unfold declarations SchemaSet.globalDeclarations
  rw [List.mem_filter, List.mem_filter, List.mem_flatMap]
  refine ⟨⟨⟨schema, List.mem_filter.2 ⟨hschema, ?_⟩, hid⟩, ?_⟩, ?_⟩
  · rw [hsame]
    simpa using hns
  · simp [Component.isGlobalDeclaration, hglobal, hgroup]
  · simpa using hkind

/-- A state with a finished ledger is **complete**, if all that is global is listed. -/
theorem complete_of_finished (hlisted : c.schema.Listed)
    (hfinished : s.ledger.Finished c.context c.declarations) : s.Complete c.context := by
  have hwritten := hfinished.reachable.written
  refine ⟨hfinished.queue, ?declared, ?built, ?wrappers, ?documented, ?reserved⟩
  case declared =>
    intro id hglobal hns hkind
    have hbindable : c.schema.isBindable id = true := by
      rcases hkind with ⟨decl, hdecl, hconcrete⟩ | hcomplex
      · have hkind : (c.schema.component id).kind = .element decl :=
          Component.asElement_eq_some.1 hdecl
        unfold SchemaSet.isBindable
        rw [hkind]
        simp [show (c.schema.component id).isGlobal = true from hglobal, hconcrete]
      · exact SchemaSet.isBindable_of_isComplexType hcomplex
    have hdeclared : id ∈ c.declarations := by
      refine mem_declarations hlisted hglobal hns ?_
      rcases hkind with ⟨decl, hdecl, -⟩ | hcomplex
      · exact .inl (Option.isSome_iff_exists.2 ⟨decl, hdecl⟩)
      · exact .inr hcomplex
    -- a declaration without a binding would not be bindable
    cases htarget : s.registry.target? id with
    | some target => exact ⟨target, rfl⟩
    | none =>
      have hnot := hfinished.answered id hdeclared htarget
      rw [show c.schema.isBindable id = false from hnot] at hbindable
      cases hbindable
  case built =>
    intro k hk
    have hmem := hfinished.mem_built (Model.mem_classIds.1 hk)
    exact ⟨hmem, hfinished.exists_marks hmem⟩
  case wrappers =>
    exact fun w hw => hfinished.filter_wrapper (Model.mem_elementIds.1 hw)
  case documented =>
    exact fun k hk => hwritten.documented k (hfinished.mem_built (Model.mem_classIds.1 hk))
  case reserved =>
    show s.ledger.reserved = _
    -- the reports count the classes that were built, which are all there are
    rw [hwritten.reserved]
    exact hfinished.perm_built.countP_eq _

/-- A standard run over a built schema set that comes to its end is **complete**. -/
theorem complete_of_run (hstandard : c.strategy = .standard) (hbuilt : c.schema.Built)
    (hrun : c.run = (.ok (), s)) : s.Complete c.context :=
  complete_of_finished hbuilt.listed (finished_of_run hstandard hrun)

/-- A run comes to its end when it does not fail. -/
theorem run_of_fst (h : c.run.1 = .ok ()) : c.run = (.ok (), c.run.2) := Prod.ext h rfl

/-- A global element of a simple type that occurs in another one with an anonymous type. -/
def shelf : Compilation where
  schema := (Builder.elementRef ⟨24⟩ ⟨22⟩).after
    ((Builder.anonymousComplexType ⟨23⟩).after
      ((Builder.globalElement "urn:x" "book" none).after
        ((Builder.globalElement "urn:x" "title" (some ⟨2⟩)).after .initial)))

/-- The shelf is built. -/
theorem built_shelf : shelf.schema.Built :=
  (((SchemaSet.Built.initial.call (.globalElement _ _ _)).call (.globalElement _ _ _)).call
    (.anonymousComplexType _)).call (.elementRef _ _)

/-- The run over the shelf comes to its end, and its state is complete. -/
theorem complete_of_run_shelf :
    shelf.run = (.ok (), shelf.run.2) ∧ shelf.run.2.Complete shelf.context := by
  have hrun : shelf.run = (.ok (), shelf.run.2) := run_of_fst (by decide +kernel)
  exact ⟨hrun, complete_of_run rfl built_shelf hrun⟩

/-- A **manifest** that compiles is compiled completely: the model of its outcome is that of a
complete state. -/
theorem compileManifest_complete {text name : String} {o : Outcome}
    (hstandard : c.strategy = .standard) (hcompile : c.compileManifest text name = .ok o) :
    ∃ s, ({ c with schema := o.schema } : Compilation).run = (.ok (), s) ∧ s.model = o.model ∧
      s.Complete ({ c with schema := o.schema } : Compilation).context := by
  obtain ⟨hmanifest, s, hrun, houtcome⟩ := exists_run_of_compileManifest hcompile
  have hbuilt := SchemaSet.built_of_ofManifest hmanifest
  have hfinished := finished_of_run (c := { c with schema := o.schema }) hstandard hrun
  refine ⟨s, hrun, ?_, complete_of_finished hbuilt.listed hfinished⟩
  rw [houtcome]

end Compilation

end SchemaBinding
