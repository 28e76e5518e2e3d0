import SchemaBinding.Proofs.Completion
import SchemaBinding.Proofs.Placement.Body

/-! # Runs in position
Every class is built in the scope inside of it, and every question is asked where its component
belongs. So resolvers place types, by induction on the number of questions inside each other, and
so does a whole run. -/

namespace SchemaBinding

open Resolver (State)
open Resolver.State (SamePlaces)

variable {allowed : String → Prop} {x : Context} {declared : List ComponentId} {r : Resolver}
  {s t : State} {c : ComponentId} {k : ClassId} {b : Binding}

namespace Resolving

/-! ## Building -/

/-- Before its body, a class is named, constructed and documented where it is. -/
theorem placing_prepareBody (hs : s.Placed x declared) (c : ComponentId) (k : ClassId) :
    Placing x declared (Resolver.prepareBody .standard r c k) s fun _ t => SamePlaces s t := by
  -- none of the three steps places anything
  have hname : Placing x declared (r.checkClassName c k) s fun _ t => SamePlaces s t := by
    unfold Resolver.checkClassName
    refine .reading ?_
    dsimp only
    split
    · exact .modify hs { SamePlaces.refl s with }
    · exact .pure hs (.refl s)
  have hconstructor (t : State) (ht : t.Placed x declared) :
      Placing x declared (r.addValueConstructor c k) t fun _ u => SamePlaces t u := by
    unfold Resolver.addValueConstructor
    split
    · split
      · refine placing_modifyClass ht k fun info => ?_
        obtain ⟨constructors, h⟩ := info.addConstructor_eq ["value"]
        rw [h]
      · exact .pure ht (.refl t)
    · exact .pure ht (.refl t)
  have hdocument (t : State) (ht : t.Placed x declared) :
      Placing x declared (Resolver.documentClass .standard r c k) t fun _ u => SamePlaces t u := by
    unfold Resolver.documentClass
    refine .reading ?_
    split
    · split
      · exact .error rfl trivial
      · rename_i paragraphs _
        refine placing_modifyClass ht k fun info => ?_
        obtain ⟨doc, h⟩ := info.foldl_appendDoc paragraphs
        rw [h]
    · exact .pure ht (.refl t)
  refine hname.bind fun _ t _ ht hsame => ?_
  refine (hconstructor t ht).bind fun _ u _ hu hsame' => ?_
  exact (hdocument u hu).imp fun _ v _ _ hsame'' => (hsame.trans hsame').trans hsame''

/-- The body of a class is run, and knows the packages of all that it refers to. -/
theorem placing_runBody (hset : x.schema.Loaded allowed) (hr : r.Places x declared)
    (hs : s.Placed x declared) (hwithin : s.Within x declared c k) :
    Placing x declared (Resolver.runBody .standard r c k) s fun _ _ => True := by
  unfold Resolver.runBody
  refine .reading ?_
  have hbegun : SamePlaces s { s with journal := .begun c k s.place :: s.journal } :=
    { SamePlaces.refl s with
      done := fun d j hdone => (List.mem_cons.1 hdone).resolve_left (by simp) }
  refine .of_run rfl ?_
  have hbody := placing_standardBody hset hr (hs.same hbegun) (hwithin.later hbegun.later rfl)
  refine hbody.bind fun _ t _ ht hknown => ?_
  exact .reading (.ok rfl (ht.finish t.place hknown) trivial)

/-- The scope of a class that the model has is not the root, and neither is the one inside. -/
theorem placing_placeBody (hset : x.schema.Loaded allowed) (hr : r.Places x declared)
    (hs : s.Placed x declared) (hproper : c ≠ SchemaSet.anyType)
    (hbound : s.registry.target? c = some (.classRef k)) :
    Placing x declared (Resolver.placeBody .standard r c k) s fun _ _ => True := by
  have hseat := hs.seated c _ hbound hproper
  obtain ⟨scope, hscope, -⟩ := hseat.position
  have hinner : r.innerScope s.model k = x.inside k scope := by
    rw [Model.scope?_classRef (Model.index_lt_of_scope? hscope)] at hscope
    obtain rfl := Option.some.inj hscope
    rw [← hr.context]
    rfl
  have hroot : x.inside k scope ≠ .root := x.inside_ne_root (hs.inside _ _ hscope)
  -- the body starts in the scope inside its class
  have hsame : SamePlaces s (inside (x.inside k scope) (s.under c k)) :=
    { SamePlaces.refl s with }
  have hwithin : (inside (x.inside k scope) (s.under c k)).Within x declared c k :=
    ⟨hproper, hbound, hseat.later hsame.later, scope, hscope, rfl⟩
  have hbody := placing_runBody hset hr (hs.same hsame) hwithin
  have hrun := Resolver.runFrom_placeBody hr.keeping Strategy.keeping_standard c k s
  rw [hinner] at hrun
  unfold State.enclosed at hrun
  rw [if_neg hroot] at hrun
  have hclosed := hbody.changed
    (f := fun u => { u with scopes := s.scopes, cursor := s.cursor }) hrun
      fun u => { SamePlaces.refl u with }
  exact hclosed.imp fun _ _ _ _ _ => trivial

/-- The class of a bound component is **built in position**. -/
theorem placing_buildBinding (hset : x.schema.Loaded allowed) (hr : r.Places x declared)
    (hs : s.Placed x declared) (hbound : s.registry.target? b.component = some b.target) :
    Placing x declared (Resolver.buildBinding .standard r b) s fun _ _ => True := by
  have hrun := Resolver.runFrom_buildBinding .standard r b s
  cases hclass : b.classId? with
  | none =>
    rw [hclass] at hrun
    exact .ok hrun hs trivial
  | some k =>
    rw [hclass] at hrun
    dsimp only at hrun
    split at hrun
    · exact .ok hrun hs trivial
    · rw [TypeRef.eq_classRef hclass] at hbound
      have hproper : b.component ≠ SchemaSet.anyType := by
        intro hany
        rw [hany, hs.anyType] at hbound
        cases hbound
      have hneeded := (hs.seated _ _ hbound hproper).needed
      split at hrun
      · rename_i cycle hcycle
        refine .error hrun fun a ha => ?_
        -- a cycle is made of bodies under construction, whose components are needed
        rcases CycleDetector.mem_path_of_enter hcycle ha with hactive | rfl
        · exact hs.building a hactive
        · exact hneeded
      · have hclaimed : s.Later (s.claimed b.component k) := ⟨id, id, List.Subset.refl _⟩
        have hbody : Placing x declared (Resolver.buildBody .standard r b.component k)
            (s.claimed b.component k) fun _ _ => True := by
          rw [Resolver.buildBody_eq]
          refine (placing_prepareBody (hs.claimed hneeded k) b.component k).bind
            fun _ t _ ht hsame => ?_
          exact placing_placeBody hset hr ht hproper
            (hsame.later.target? (hclaimed.target? hbound))
        have hclose (t : State) : SamePlaces t { t with building := t.building.leave } :=
          { SamePlaces.refl t with building := List.drop_subset 1 t.building.active }
        have hclosed := hbody.closing hclose
        refine .congr hrun (hclosed.bind fun _ t _ ht _ => ?_)
        split
        · exact (Placing.modify ht { SamePlaces.refl t with }).imp fun _ _ _ _ _ => trivial
        · exact .pure ht trivial

/-! ## Answers -/

/-- A question is answered in position. -/
theorem placing_resolveWith (hset : x.schema.Loaded allowed) (hr : r.Places x declared)
    (hs : s.Placed x declared) (hask : s.Askable x declared c) (immediately : Bool) :
    Placing x declared (Resolver.resolveWith .standard r c immediately) s fun a t =>
      t.Known x c ∧ ∀ target, a = some target → t.registry.target? c = some target := by
  unfold Resolver.resolveWith
  refine (placing_bindingFor hset hr hs hask).bind fun found t _ ht ⟨hknown, hfound⟩ => ?_
  cases found with
  | none => exact .pure ht ⟨hknown, by simp⟩
  | some b =>
    obtain ⟨rfl, htarget⟩ := hfound b rfl
    have hanswer (u : State) (hlater : t.Later u) : u.Known x b.component ∧
        ∀ target, some b.target = some target → u.registry.target? b.component = some target := by
      refine ⟨hknown.later hlater, ?_⟩
      rintro _ ⟨⟩
      exact hlater.target? htarget
    dsimp only
    split
    · refine .reading ?_
      split
      · rename_i hactive
        refine .error rfl fun a ha => ?_
        -- the component is under construction itself
        rcases List.mem_append.1 ha with hpath | hself
        · exact ht.building a (List.mem_reverse.1 hpath)
        · obtain rfl := List.mem_singleton.1 hself
          exact ht.building _ (CycleDetector.isActive_iff.1 hactive)
      · refine (placing_buildBinding hset hr ht htarget).bind fun _ u hrun hu _ => ?_
        have hkeeps : t.Keeps none u :=
          (Resolver.keeping_buildBinding hr.keeping Strategy.keeping_standard b).of_run hrun
        exact .pure hu (hanswer u hkeeps.later)
    · exact .pure ht (hanswer t (SamePlaces.refl t).later)

end Resolving

/-- The **standard** resolvers place types. -/
theorem Resolver.places_within (hset : x.schema.Loaded allowed) (declared : List ComponentId)
    (n : Nat) : (Resolver.within x .standard n).Places x declared := by
  induction n with
  | zero =>
    refine ⟨rfl, Resolver.keeping_within x Strategy.keeping_standard 0, ?_⟩
    exact fun c _ s _ _ => .error rfl trivial
  | succ n ih =>
    refine ⟨rfl, Resolver.keeping_within x Strategy.keeping_standard (n + 1), ?_⟩
    exact fun c immediately s hs hask => Resolving.placing_resolveWith hset ih hs hask immediately

namespace Resolving

/-! ## Whole runs -/

/-- The queue is drained in position. -/
theorem placing_drainWithin (hset : x.schema.Loaded allowed) (n : Nat) (hs : s.Placed x declared)
    (steps : Nat) :
    Placing x declared ((Resolver.within x .standard (n + 1)).drainWithin steps) s
      fun _ t => s.Later t := by
  induction steps generalizing s with
  | zero =>
    cases hqueue : s.queue with
    | nil => exact .of_run (Resolver.runFrom_takeQueued_nil hqueue) (.pure hs (.refl s))
    | cons b rest =>
      exact .of_run (Resolver.runFrom_takeQueued_cons hqueue) (.error rfl trivial)
  | succ steps ih =>
    cases hqueue : s.queue with
    | nil => exact .of_run (Resolver.runFrom_takeQueued_nil hqueue) (.pure hs (.refl s))
    | cons b rest =>
      have hbound := hs.queued b (by rw [hqueue]; exact List.mem_cons_self)
      have hrest := hs.dequeue hqueue
      refine .of_run (Resolver.runFrom_takeQueued_cons hqueue) ?_
      refine (placing_buildBinding hset (Resolver.places_within hset declared n) hrest
        hbound).bind fun _ t hrun ht _ => ?_
      have hkeeps : State.Keeps none { s with queue := rest } t :=
        (Resolver.keeping_buildBinding (Resolver.places_within hset declared n).keeping
          Strategy.keeping_standard b).of_run hrun
      have hlater : s.Later { s with queue := rest } := ⟨id, id, List.Subset.refl _⟩
      exact (ih ht).bind fun _ u _ hu hlater' =>
        .pure hu ((hlater.trans hkeeps.later).trans hlater')

/-- Declarations are bound one after the other. -/
theorem placing_declarations (hset : x.schema.Loaded allowed) (n : Nat) {ids : List ComponentId}
    (hs : s.Placed x declared) (hdeclared : ids ⊆ declared)
    (hglobal : ∀ id ∈ ids, (x.schema.component id).isGlobalDeclaration = true) :
    Placing x declared (ids.forM fun id => do
      let _ ← (Resolver.within x .standard n).bindToType id) s fun _ t =>
        ∀ id ∈ ids, t.Known x id := by
  have hr := Resolver.places_within hset declared n
  induction ids generalizing s with
  | nil => exact .pure hs (by simp)
  | cons id rest ih =>
    have hfirst : Placing x declared (do
        let _ ← (Resolver.within x .standard n).bindToType id) s fun _ t => t.Known x id := by
      have hask : s.Askable x declared id :=
        .global (.declared (hdeclared List.mem_cons_self)) (hglobal id List.mem_cons_self)
      exact (hr.answers id false s hs hask).bind fun _ t _ ht ⟨hknown, _⟩ => .pure ht hknown
    refine hfirst.bind fun _ t _ ht hknown => ?_
    have hrest := ih ht (fun d hd => hdeclared (.tail _ hd)) fun d hd => hglobal d (.tail _ hd)
    refine hrest.imp fun _ u hrun _ hothers d hd => ?_
    rcases List.mem_cons.1 hd with rfl | hd
    · have hkeeps : t.Keeps none u :=
        (Keeping.forM fun id _ => (hr.keeping id false).bind fun _ => .pure _).of_run hrun
      exact hknown.later hkeeps.later
    · exact hothers d hd

/-- Reports about unused customizations move nothing. -/
theorem placing_reportUnacknowledged (hs : s.Placed x declared) (y : Context) :
    Placing x declared y.reportUnacknowledged s fun _ t => SamePlaces s t := by
  unfold Context.reportUnacknowledged
  induction y.schema.ids generalizing s with
  | nil => exact .pure hs (.refl s)
  | cons id rest ih =>
    have hfirst : Placing x declared (do
        let component := y.schema.component id
        if component.custom.property.isSome && !(← get).acknowledged.contains id then
          report (.unusedCustomization (y.schema.label id) component.locator)) s
        fun _ t => SamePlaces s t := by
      refine .reading ?_
      split
      · exact .modify hs { SamePlaces.refl s with }
      · exact .pure hs (.refl s)
    exact hfirst.bind fun _ t _ ht hsame => (ih ht).imp fun _ u _ _ hsame' => hsame.trans hsame'

end Resolving

namespace Compilation

variable {c : Compilation}

/-- The state before a run is placed. -/
theorem placed_start (c : Compilation) (declared : List ComponentId) :
    c.start.Placed c.context declared := by
  refine ⟨rfl, fun d target hd hproper => ?_, fun target scope hscope => ?_, fun e note he => ?_,
    fun b hb => ?_, ⟨fun ns p hp => ?_, fun ns p hp => ?_, fun name hname => ?_, List.nodup_nil⟩,
    fun d k hdone => ?_, fun d hd => ?_⟩
  · have hmem := Registry.mem_of_target? hd
    simp only [start, State.initial, List.mem_singleton, Binding.mk.injEq] at hmem
    exact absurd hmem.1 hproper
  · cases target <;> simp [start, State.initial, Model.scope?] at hscope
  · cases he
  · cases hb
  · cases hp
  · cases hp
  · simp [start, State.initial] at hname
  · cases hdone
  · cases hd

/-- Declarations are global. -/
theorem isGlobalDeclaration_of_mem {id : ComponentId} (h : id ∈ c.declarations) :
    (c.schema.component id).isGlobalDeclaration = true := by
  unfold declarations SchemaSet.globalDeclarations at h
  exact (List.mem_filter.1 (List.mem_filter.1 h).1).2

/-- A standard run over a loaded set **places** types. -/
theorem placing_steps (hstandard : c.strategy = .standard) (hset : c.schema.Loaded allowed) :
    Resolving.Placing c.context c.declarations c.steps c.start fun _ t =>
      ∀ id ∈ c.declarations, t.Known c.context id := by
  have hresolver : c.resolver = .within c.context .standard (2 * c.schema.size + 2) := by
    rw [resolver, hstandard]
    rfl
  unfold steps
  rw [hresolver]
  have hdeclared := Resolving.placing_declarations (x := c.context) hset
    (2 * c.schema.size + 2) (placed_start c c.declarations) (List.Subset.refl _)
    fun id => isGlobalDeclaration_of_mem
  refine hdeclared.bind fun _ t _ ht hknown => ?_
  refine (Resolving.placing_drainWithin hset _ ht _).bind fun _ u _ hu hlater => ?_
  refine (Resolving.placing_reportUnacknowledged hu _).imp fun _ v _ _ hsame id hid => ?_
  exact ((hknown id hid).later hlater).later hsame.later

/-- A standard run over a loaded set that comes to its end leaves a **placed** state. -/
theorem placed_of_run (hstandard : c.strategy = .standard) (hset : c.schema.Loaded allowed)
    (hrun : c.run = (.ok (), s)) :
    s.Placed c.context c.declarations ∧ ∀ id ∈ c.declarations, s.Known c.context id :=
  (placing_steps hstandard hset).of_ok () s hrun

/-- A standard run over a loaded set **blames** only needed components for its failure. -/
theorem blames_of_run (hstandard : c.strategy = .standard) (hset : c.schema.Loaded allowed)
    {e : ResolveError} (hrun : c.run = (.error e, s)) :
    Resolving.Blames c.context c.declarations e :=
  (placing_steps hstandard hset).of_error e s hrun

end Compilation

end SchemaBinding
