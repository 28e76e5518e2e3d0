import SchemaBinding.Proofs.Placement.Steps

/-! # Proposals in position
A proposal is made where its component belongs: a global declaration in the package of its
namespace, an anonymous type inside the class that found it. So what is allocated in the innermost
scope, while nothing else is asked, is in position. -/

namespace SchemaBinding

open Resolver (State)
open Resolver.State (SamePlaces)

variable {allowed : String → Prop} {x : Context} {declared : List ComponentId} {r : Resolver}
  {s t : State} {c e : ComponentId}

/-! ## Questions -/

/-- A component may be **asked for** when it is global, when it is in position inside the innermost
scope, or when nothing is generated for it. -/
inductive Resolver.State.Askable (x : Context) (declared : List ComponentId) (s : State)
    (c : ComponentId) : Prop
  | global (needed : x.Needed declared c)
      (global : (x.schema.component c).isGlobalDeclaration = true) : Askable x declared s c
  | inner (needed : x.Needed declared c) (position : s.Position x c s.scopes.current) :
      Askable x declared s c
  | nothing (unbindable : x.schema.isBindable c = false)
      (inner : (x.schema.component c).isGlobalDeclaration = false) : Askable x declared s c

/-- What may be asked for may be asked for **later**, in the same scope. -/
theorem Resolver.State.Askable.later (h : s.Askable x declared c) (hlater : s.Later t)
    (hscopes : t.scopes = s.scopes) : t.Askable x declared c := by
  cases h with
  | global needed global => exact .global needed global
  | inner needed position => exact .inner needed (hscopes ▸ position.later hlater)
  | nothing unbindable inner => exact .nothing unbindable inner

/-- A resolver **places** types when its answers do. -/
structure Resolver.Places (x : Context) (declared : List ComponentId) (r : Resolver) : Prop where
  context : r.toContext = x
  keeping : r.Keeping
  answers : ∀ c immediately s, s.Placed x declared → s.Askable x declared c →
    Resolving.Placing x declared (r.resolve c immediately) s fun a t =>
      t.Known x c ∧ ∀ target, a = some target → t.registry.target? c = some target

namespace SchemaSet

variable {set : SchemaSet} {id : ComponentId}

/-- Local elements are not bindable. -/
theorem isBindable_of_local (helement : (set.component e).isElement = true)
    (hlocal : (set.component e).isGlobal = false) : set.isBindable e = false := by
  obtain ⟨decl, hkind⟩ := Component.isElement_iff.1 helement
  simp [isBindable, hkind, hlocal]

/-- Elements and complex types that are global are global declarations. -/
theorem isGlobalDeclaration_of_isElement (helement : (set.component e).isElement = true)
    (hglobal : (set.component e).isGlobal = true) :
    (set.component e).isGlobalDeclaration = true := by
  simp [Component.isGlobalDeclaration, hglobal, Component.isGroup_of_isElement helement]

/-- A global complex type is a global declaration. -/
theorem isGlobalDeclaration_of_isComplexType (hcomplex : (set.component c).isComplexType = true)
    (hglobal : (set.component c).isGlobal = true) :
    (set.component c).isGlobalDeclaration = true := by
  simp [Component.isGlobalDeclaration, hglobal, Component.isGroup_of_isComplexType hcomplex]

/-- The universal type is no element. -/
theorem Loaded.ne_anyType (h : set.Loaded allowed) (helement : (set.component e).isElement = true) :
    e ≠ anyType := by
  rintro rfl
  rw [h.stays_anyType.isElement] at helement
  cases helement

/-- The complex type of a wrapped element is global, since the element does not declare it. -/
theorem Loaded.isGlobal_of_contentSource (h : set.Loaded allowed)
    (hwrapped : set.isWrapped e = true) (hc : c ∈ (set.contentSource e).component?) :
    (set.component c).isComplexType = true ∧ (set.component c).isGlobal = true := by
  obtain ⟨type, htype⟩ := exists_elementType? (isElement_of_isWrapped hwrapped)
  have hsource : set.contentSource e = set.valueSource type := by simp [contentSource, htype]
  rw [hsource] at hc
  have hasked := asked?_of_isWrapped hwrapped htype hc
  obtain ⟨decl, hkind⟩ := Component.isElement_iff.1 (isElement_of_isWrapped hwrapped)
  obtain ⟨hsame, hcomplex⟩ : set.elementType? e = some c ∧
      (set.component c).isComplexType = true := by
    simpa [asked?, hkind, hwrapped, Option.filter_eq_some_iff] using hasked
  refine ⟨hcomplex, (h.carried hsame).resolve_right fun hdeclaring => ?_⟩
  -- otherwise the element would have a class
  have hanonymous := (isAnonymousTypeOf_iff hcomplex).2 hdeclaring
  simp [isWrapped, Resolver.declaresComplexType, hsame, hanonymous, hcomplex] at hwrapped

end SchemaSet

/-- An anonymous type in position has a **local** element. -/
theorem Resolver.State.Position.isGlobal_of_declaringElement? {scope : Scope}
    (h : s.Position x c scope) (hset : x.schema.Loaded allowed)
    (hdeclares : (x.schema.component c).declaringElement? = some e) :
    (x.schema.component e).isGlobal = false := by
  cases h with
  | declared global =>
    rw [(hset.fits c).anonymous e hdeclares] at global
    cases global
  | enclosed encloses =>
    obtain ⟨-, -, inner, declaring, -⟩ := encloses
    rw [hdeclares] at declaring
    obtain rfl := Option.some.inj declaring
    exact inner

namespace Resolving

/-- Nothing is known of an element for which nothing is generated. -/
theorem placing_isBound_none (hset : x.schema.Loaded allowed) (hr : r.Places x declared)
    (hs : s.Placed x declared) (helement : (x.schema.component e).isElement = true)
    (hlocal : (x.schema.component e).isGlobal = false) :
    Placing x declared (r.isBound e) s fun a _ => a = none := by
  have hunbindable := SchemaSet.isBindable_of_local helement hlocal
  unfold Resolver.isBound
  refine .reading ?_
  cases hnote : s.elements.lookup e with
  | some note =>
    refine .pure hs ?_
    -- a type is noted for bindable elements only
    cases note with
    | none => rfl
    | some target =>
      have hwrapped := (hs.noted e _ hnote).2 rfl
      rw [SchemaSet.isBindable_of_isWrapped hwrapped] at hunbindable
      cases hunbindable
  | none =>
    refine (hr.answers e false s hs ?_).imp fun a t _ ht ⟨_, hbound⟩ => ?_
    · exact .nothing hunbindable (by simp [Component.isGlobalDeclaration, hlocal])
    · cases a with
      | none => rfl
      | some target =>
        have hseat := ht.seated e target (hbound target rfl) (hset.ne_anyType helement)
        rw [hseat.bindable] at hunbindable
        cases hunbindable

/-- A source **asks** for its component, whose package is known then. -/
theorem placing_sourceType (hr : r.Places x declared) (hs : s.Placed x declared)
    (source : TypeSource) (hask : ∀ d ∈ source.component?, s.Askable x declared d) :
    Placing x declared (r.sourceType source) s fun _ t =>
      ∀ d ∈ source.component?, t.Known x d := by
  have hknown (d : ComponentId) (hd : s.Askable x declared d) :
      Placing x declared (r.bindToType d) s fun _ t => t.Known x d :=
    (hr.answers d false s hs hd).imp fun _ _ _ _ h => h.1
  cases source with
  | known type => exact .pure hs (by rintro d ⟨⟩)
  | complexType d =>
    refine (hknown d (hask d rfl)).imp fun _ t _ _ h => ?_
    rintro _ ⟨⟩
    exact h
  | element d =>
    show Placing x declared (r.isBound d) s _
    unfold Resolver.isBound
    refine .reading ?_
    cases hnote : s.elements.lookup d with
    | some note =>
      refine .pure hs ?_
      rintro _ ⟨⟩
      exact (hs.noted d note hnote).1
    | none =>
      refine (hknown d (hask d rfl)).imp fun _ t _ _ h => ?_
      rintro _ ⟨⟩
      exact h

/-! ## Standard proposals -/

/-- A class is allocated **in position**. -/
theorem placing_allocateClass (hs : s.Placed x declared) (hneeded : x.Needed declared c)
    (hbindable : x.schema.isBindable c = true) (hplain : x.schema.isWrapped c = false)
    (hposition : s.Position x c s.scopes.current) (named : ComponentId) :
    Placing x declared (r.allocateClass named) s fun k t => t.Seat x declared c (.classRef k) := by
  have hroot := hs.ne_root hposition
  unfold Resolver.allocateClass
  refine .of_run (r.runFrom_placement _ hroot) ?_
  refine .ok rfl (hs.newClass _ hroot) ⟨hneeded, hbindable, hplain, s.scopes.current, ?_, ?_⟩
  · exact (Model.scope?_newClass _ _ _).trans (if_pos rfl)
  · exact hposition.later (Keeping.newClass _ _ s : s.Keeps none _).later

/-- The class for a complex type is in position: an anonymous type that is asked for has a local
element, which has no class. -/
theorem placing_proposeComplexType (hset : x.schema.Loaded allowed) (hr : r.Places x declared)
    (hs : s.Placed x declared) {type : ComplexType}
    (hkind : (x.schema.component c).kind = .complexType type) (hneeded : x.Needed declared c)
    (hposition : s.Position x c s.scopes.current) :
    Placing x declared (r.proposeComplexType c type) s fun k t =>
      t.Seat x declared c (.classRef k) := by
  have hcomplex := Component.isComplexType_iff.2 ⟨type, hkind⟩
  have hbindable := SchemaSet.isBindable_of_isComplexType hcomplex
  have hplain := SchemaSet.isWrapped_of_isComplexType hcomplex
  obtain rfl := hr.context
  unfold Resolver.proposeComplexType
  split
  · rename_i e hname helement
    have hdeclares : (r.schema.component c).declaringElement? = some e := by
      rw [Component.declaringElement?, Component.asComplexType_eq_some.2 hkind]
      exact helement
    have hlocal := hposition.isGlobal_of_declaringElement? hset hdeclares
    have helement' := ((hset.fits c).declaring e hdeclares).2.1
    refine (placing_isBound_none hset hr hs helement' hlocal).bind fun a t hrun ht ha => ?_
    subst ha
    have hkeeps : s.Keeps none t := (Resolver.keeping_isBound hr.keeping e).of_run hrun
    refine placing_allocateClass ht hneeded hbindable hplain ?_ e
    rw [hkeeps.scopes]
    exact hposition.later hkeeps.later
  · exact placing_allocateClass hs hneeded hbindable hplain hposition c

/-- A wrapper is allocated **in position**. -/
theorem placing_allocateWrapper (hset : x.schema.Loaded allowed) (hr : r.Places x declared)
    (hs : s.Placed x declared) (hwrapped : x.schema.isWrapped c = true)
    (hneeded : x.Needed declared c) (hposition : s.Position x c s.scopes.current) :
    Placing x declared (r.allocateWrapper c) s fun w t => t.Seat x declared c (.wrapper w) := by
  have hroot := hs.ne_root hposition
  obtain rfl := hr.context
  rw [Resolver.allocateWrapper_eq]
  refine .of_run (r.runFrom_placement _ hroot) (.of_run (r.runFrom_noteWrapper c _ s) ?_)
  have hu := hs.wrapping (r.schema.component c) hroot hposition.known hwrapped
  have hgrows : s.model.Grows (fun _ => True)
      (s.wrapping (r.schema.component c) c s.scopes.current).model := .newElement _ _ _ _
  have hlater : s.Later (s.wrapping (r.schema.component c) c s.scopes.current) :=
    ⟨id, hgrows.scope?, List.Subset.refl _⟩
  have hseat : (s.wrapping (r.schema.component c) c s.scopes.current).Seat r.toContext declared c
      (.wrapper ⟨s.model.elements.size⟩) :=
    ⟨hneeded, SchemaSet.isBindable_of_isWrapped hwrapped, hwrapped, s.scopes.current,
      (Model.scope?_newElement _ _ _ _).trans (if_pos rfl), hposition.later hlater⟩
  -- the rest of the run knows the wrapper by its seat only
  generalize s.wrapping (r.schema.component c) c s.scopes.current = u at hu hseat
  obtain ⟨type, htype⟩ := SchemaSet.exists_elementType? (SchemaSet.isElement_of_isWrapped hwrapped)
  unfold Resolver.fillWrapper
  rw [htype]
  dsimp only
  rw [Resolver.bindSchemaType_eq, bind_assoc]
  refine (placing_sourceType hr hu _ fun d hd => ?_).bind fun content v hrun hv _ => ?_
  · -- the type of the content is global, and needed for the wrapper
    have hsource : r.schema.contentSource c = r.schema.valueSource type := by
      simp [SchemaSet.contentSource, htype]
    rw [← hsource] at hd
    obtain ⟨hcomplex, hglobal⟩ := hset.isGlobal_of_contentSource hwrapped hd
    exact .global (.wrapped hneeded hwrapped hd)
      (SchemaSet.isGlobalDeclaration_of_isComplexType hcomplex hglobal)
  · have hkeeps : u.Keeps none v := (Resolver.keeping_sourceType hr.keeping _).of_run hrun
    have hsame : SamePlaces v { v with
        model := v.model.modifyElement ⟨s.model.elements.size⟩ fun e => { e with content } } :=
      { SamePlaces.refl v with scope? := fun _ => Model.scope?_modifyElement _ _ _ }
    exact .ok rfl (hv.same hsame) ((hseat.later hkeeps.later).later hsame.later)

/-- To settle a class leaves it **where it was allocated**. -/
theorem placing_settleClass (hs : s.Placed x declared) (type : ComplexType) {k : ClassId}
    (hseat : s.Seat x declared c (.classRef k)) :
    Placing x declared (Resolver.settleClass type k) s fun a t =>
      ∀ target, a = some target → t.Seat x declared c target := by
  unfold Resolver.settleClass
  split
  · refine (placing_modifyClass (f := fun c => { c with isAbstract := true }) hs k
      fun _ => rfl).bind fun _ u _ hu hsame => .pure hu ?_
    rintro _ ⟨⟩
    exact hseat.later hsame.later
  · refine .pure hs ?_
    rintro _ ⟨⟩
    exact hseat

/-- A global element gets its type **in position**: a class, or a wrapper if it has no class of its
own. -/
theorem placing_proposeGlobalElement (hset : x.schema.Loaded allowed) (hr : r.Places x declared)
    (hs : s.Placed x declared) (helement : (x.schema.component c).isElement = true)
    (hbindable : x.schema.isBindable c = true) (hneeded : x.Needed declared c)
    (hposition : s.Position x c s.scopes.current) :
    Placing x declared (r.proposeGlobalElement c) s fun target t =>
      t.Seat x declared c target := by
  have hcontext := hr.context
  rw [r.proposeGlobalElement_eq (hcontext ▸ helement) (hcontext ▸ hbindable), hcontext]
  cases hwrapped : x.schema.isWrapped c with
  | true => exact .map (placing_allocateWrapper hset hr hs hwrapped hneeded hposition)
  | false => exact .map (placing_allocateClass hs hneeded hbindable hwrapped hposition c)

/-- What is proposed for a component is in position, if the innermost scope is. -/
theorem placing_proposeStandard (hset : x.schema.Loaded allowed) (hr : r.Places x declared)
    (hs : s.Placed x declared) (hspot : x.schema.isBindable c = true →
      x.Needed declared c ∧ s.Position x c s.scopes.current)
    (hknown : s.Known x c) :
    Placing x declared (r.proposeStandard c) s fun a t =>
      ∀ target, a = some target → t.Seat x declared c target := by
  have hcontext := hr.context
  have hnothing : ∀ target, none = some target → s.Seat x declared c target := by simp
  cases hkind : (x.schema.component c).kind with
  | complexType type =>
    obtain ⟨hneeded, hposition⟩ := hspot
      (SchemaSet.isBindable_of_isComplexType (Component.isComplexType_iff.2 ⟨type, hkind⟩))
    have hpropose := placing_proposeComplexType hset hr hs hkind hneeded hposition
    subst hcontext
    rw [r.proposeStandard_complexType hkind]
    exact hpropose.bind fun k t _ ht hseat => placing_settleClass ht type hseat
  | element decl =>
    have helement := Component.isElement_iff.2 ⟨decl, hkind⟩
    rw [r.proposeStandard_element (hcontext ▸ hkind), hcontext]
    split
    · exact .pure hs hnothing
    · rename_i hconcrete
      split
      · rename_i hglobal
        have hbindable : x.schema.isBindable c = true := by
          simp [SchemaSet.isBindable, hkind, hglobal, hconcrete]
        obtain ⟨hneeded, hposition⟩ := hspot hbindable
        refine .map ((placing_proposeGlobalElement hset hr hs helement hbindable hneeded
          hposition).imp ?_)
        rintro target t - - hseat _ ⟨⟩
        exact hseat
      · refine .of_run rfl (.pure (hs.markUnbound hknown) (by simp))
  | _ =>
    have helement : (r.schema.component c).isElement = false := by
      rw [hcontext]
      simp [Component.isElement, Component.asElement, hkind]
    have hcomplex : (r.schema.component c).isComplexType = false := by
      rw [hcontext]
      simp [Component.isComplexType, Component.asComplexType, hkind]
    rw [r.proposeStandard_other helement hcomplex]
    exact .pure hs hnothing

/-! ## Bindings -/

/-- A component with its seat is **registered**, if it is not bound to anything else. -/
theorem placing_queueBuild (hs : s.Placed x declared) {target : TypeRef}
    (hseat : s.Seat x declared c target) :
    Placing x declared (queueBuild c target) s fun b t =>
      s.Later t ∧ b.component = c ∧ t.registry.target? c = some b.target := by
  have hrun := Resolver.runFrom_queueBuild c target s
  cases htarget : s.registry.target? c with
  | some existing =>
    rw [htarget] at hrun
    dsimp only at hrun
    split at hrun
    · rename_i hsame
      exact .ok hrun hs ⟨(SamePlaces.refl s).later, rfl, hsame ▸ htarget⟩
    · exact .error hrun trivial
  | none =>
    rw [htarget] at hrun
    have hfresh := Registry.find?_eq_none_iff.2 htarget
    refine .ok hrun (hs.register hseat hfresh) ⟨State.later_register _ hfresh, rfl, ?_⟩
    exact (Registry.target?_insert hfresh c).trans (if_pos rfl)

/-- A proposal under its bracket. -/
theorem placing_propose (hset : x.schema.Loaded allowed) (hr : r.Places x declared)
    (hs : s.Placed x declared) (hspot : x.schema.isBindable c = true →
      x.Needed declared c ∧ s.Position x c s.scopes.current)
    (hknown : s.Known x c) :
    Placing x declared (Resolver.propose .standard r c) s fun a t =>
      t.Known x c ∧ ∀ target, a = some target → t.Seat x declared c target := by
  by_cases hc : c ∈ s.proposing.active
  · obtain ⟨path, hrun⟩ := Resolver.runFrom_propose_active .standard r hc
    exact .error hrun trivial
  · have hsame : SamePlaces s (s.proposal c) := { SamePlaces.refl s with }
    have hinside := placing_proposeStandard hset hr (hs.same hsame)
      (fun hbindable => (hspot hbindable).imp_right (·.later hsame.later))
      (hknown.later hsame.later)
    have hclose (u : State) : SamePlaces u { u with proposing := u.proposing.leave } :=
      { SamePlaces.refl u with }
    have hclosed := hinside.changed (f := fun u => { u with proposing := u.proposing.leave })
      (Resolver.runFrom_propose .standard r hc) hclose
    refine hclosed.imp fun a t _ _ ⟨u, hrun, hu, hseat, ht⟩ => ?_
    subst ht
    have hkeeps : (s.proposal c).Keeps none u :=
      (Resolver.keeping_proposeStandard hr.keeping c).of_run hrun
    exact ⟨((hknown.later hsame.later).later hkeeps.later).later (hclose u).later,
      fun target htarget => (hseat target htarget).later (hclose u).later⟩

/-- A global declaration is proposed **in its package**, any other component where it is found. -/
theorem placing_proposeFor (hset : x.schema.Loaded allowed) (hr : r.Places x declared)
    (hs : s.Placed x declared) (hask : s.Askable x declared c) (hproper : c ≠ SchemaSet.anyType) :
    Placing x declared (Resolver.proposeFor .standard r c) s fun a t =>
      t.Known x c ∧ ∀ target, a = some target → t.Seat x declared c target := by
  have hcontext := hr.context
  unfold Resolver.proposeFor
  rw [hcontext]
  split
  · rename_i hglobal
    have hneeded : x.Needed declared c := by
      cases hask with
      | global needed | inner needed => exact needed
      | nothing _ inner =>
        rw [inner] at hglobal
        cases hglobal
    -- inside its package, a declaration is in position
    refine (placing_packageFor hs hneeded hproper hglobal).bind fun p t _ ht hp => ?_
    have hisGlobal : (x.schema.component c).isGlobal = true := by
      simp only [Component.isGlobalDeclaration, Bool.and_eq_true] at hglobal
      exact hglobal.1
    have hsame : SamePlaces t (inside (.package p) t) := { SamePlaces.refl t with }
    have hinside := placing_propose hset hr (ht.same hsame)
      (fun _ => ⟨hneeded, .declared hisGlobal hp⟩) fun _ _ => ⟨p, hp⟩
    refine placing_withScope (Resolver.keeping_propose hr.keeping Strategy.keeping_standard c)
      (by simp) hinside fun a u hproposed => ?_
    obtain ⟨hknown, hseat⟩ := hproposed
    have hclose : SamePlaces u { u with scopes := t.scopes } := { SamePlaces.refl u with }
    exact ⟨hknown.later hclose.later, fun target htarget =>
      (hseat target htarget).later hclose.later⟩
  · rename_i hlocal
    -- no scope is opened, so the component has to be in position as it is
    refine placing_propose hset hr hs (fun hbindable => ?_) fun hglobal => absurd hglobal hlocal
    cases hask with
    | global _ global => exact absurd global hlocal
    | inner needed position => exact ⟨needed, position⟩
    | nothing unbindable =>
      rw [unbindable] at hbindable
      cases hbindable

/-- A component is **bound in position**. -/
theorem placing_bindingFor (hset : x.schema.Loaded allowed) (hr : r.Places x declared)
    (hs : s.Placed x declared) (hask : s.Askable x declared c) :
    Placing x declared (Resolver.bindingFor .standard r c) s fun found t =>
      t.Known x c ∧ ∀ b ∈ found, b.component = c ∧ t.registry.target? c = some b.target := by
  have hrun := Resolver.runFrom_bindingFor .standard r c s
  cases hfind : s.registry.find? c with
  | some b =>
    rw [hfind] at hrun
    have htarget : s.registry.target? c = some b.target := by
      rw [Registry.target?, hfind]
      rfl
    refine .ok hrun hs ⟨hs.known htarget, ?_⟩
    rintro _ ⟨⟩
    exact ⟨Registry.component_of_find? hfind, htarget⟩
  | none =>
    rw [hfind] at hrun
    -- the universal type is bound from the start
    have hproper : c ≠ SchemaSet.anyType := by
      rintro rfl
      rw [Registry.find?_eq_none_iff, hs.anyType] at hfind
      cases hfind
    refine .congr hrun ((placing_proposeFor hset hr hs hask hproper).bind
      fun a u _ hu hproposed => ?_)
    obtain ⟨hknown, hseat⟩ := hproposed
    cases a with
    | none => exact .pure hu ⟨hknown, by simp⟩
    | some target =>
      refine .map ((placing_queueBuild hu (hseat target rfl)).imp fun b t _ _ hqueued => ?_)
      obtain ⟨hlater, hb⟩ := hqueued
      refine ⟨hknown.later hlater, ?_⟩
      rintro _ ⟨⟩
      exact hb

end Resolving

end SchemaBinding
