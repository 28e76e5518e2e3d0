import SchemaBinding.Proofs.Moves.Allocation
import SchemaBinding.Proofs.Placement.Basic

/-! # Steps that place types
A step **places** types when it takes a placed state to a placed one, if it succeeds. Allocating in
the innermost scope does, as long as that scope is the position of the component in question. -/

namespace SchemaBinding

open Resolver (State)

variable {α β : Type} {x : Context} {declared : List ComponentId} {s t : State}

/-! ## Packages of a model -/

namespace Model

/-- A package that the model has is found, and any other one is added. -/
theorem package_cases (m : Model) (name : String) :
    (name ∈ m.packages ∧ (m.package name).2 = m ∧
      m.packages[(m.package name).1.index]? = some name) ∨
    (name ∉ m.packages ∧
      m.package name = (⟨m.packages.size⟩, { m with packages := m.packages.push name })) := by
  unfold package findPackage?
  cases hindex : m.packages.toList.idxOf? name with
  | some i =>
    left
    obtain ⟨hlt, hname, -⟩ := List.idxOf?_eq_some_iff.1 hindex
    have hi : m.packages[i]? = some name := by
      rw [← Array.getElem?_toList, List.getElem?_eq_getElem hlt]
      exact congrArg some (by simpa using hname)
    exact ⟨Array.mem_of_getElem? hi, rfl, hi⟩
  | none =>
    right
    exact ⟨fun h => List.idxOf?_eq_none_iff.1 hindex (Array.mem_toList_iff.2 h), rfl⟩

/-- The package that is given has the name. -/
theorem getElem?_package (m : Model) (name : String) :
    (m.package name).2.packages[(m.package name).1.index]? = some name := by
  rcases m.package_cases name with ⟨-, hmodel, hname⟩ | ⟨-, hnew⟩
  · rw [hmodel]
    exact hname
  · rw [hnew]
    simp

/-- No package is removed. -/
theorem size_packages_package_le (m : Model) (name : String) :
    m.packages.size ≤ (m.package name).2.packages.size := by
  rcases m.package_cases name with ⟨-, hmodel, -⟩ | ⟨-, hnew⟩
  · rw [hmodel]
  · simp [hnew]

/-- A package keeps its name. -/
theorem getElem?_package_of {m : Model} {name other : String} {i : Nat}
    (h : m.packages[i]? = some other) : (m.package name).2.packages[i]? = some other := by
  rcases m.package_cases name with ⟨-, hmodel, -⟩ | ⟨-, hnew⟩
  · rw [hmodel]
    exact h
  · have hi := (Array.getElem?_eq_some_iff.1 h).1
    rw [hnew]
    dsimp only
    rw [Array.getElem?_push, if_neg (Nat.ne_of_lt hi)]
    exact h

/-- No package but the given one is added. -/
theorem mem_package {m : Model} {name other : String}
    (h : other ∈ (m.package name).2.packages) : other ∈ m.packages ∨ other = name := by
  rcases m.package_cases name with ⟨-, hmodel, -⟩ | ⟨-, hnew⟩
  · rw [hmodel] at h
    exact .inl h
  · rw [hnew] at h
    exact Array.mem_push.1 h

/-- No two packages have the same name. -/
theorem nodup_package {m : Model} (h : m.packages.toList.Nodup) (name : String) :
    (m.package name).2.packages.toList.Nodup := by
  rcases m.package_cases name with ⟨-, hmodel, -⟩ | ⟨hfresh, hnew⟩
  · rw [hmodel]
    exact h
  · rw [hnew]
    dsimp only
    rw [Array.toList_push]
    exact List.nodup_append.2 ⟨h, List.nodup_singleton _, fun a ha b hb => by
      obtain rfl := List.mem_singleton.1 hb
      rintro rfl
      exact hfresh (Array.mem_toList_iff.1 ha)⟩

end Model

namespace Resolving

/-! ## Placing -/

/-- Only needed components are **blamed** for a body that has to be complete before itself. -/
def Blames (x : Context) (declared : List ComponentId) : ResolveError → Prop
  | .buildCycle path => ∀ c ∈ path, x.Needed declared c
  | _ => True

/-- A step **places** types: if it succeeds, it leaves a placed state, with what is known of it. -/
structure Placing (x : Context) (declared : List ComponentId) (step : Resolving α) (s : State)
    (answer : α → State → Prop) : Prop where
  of_ok : ∀ a t, step.runFrom s = (.ok a, t) → t.Placed x declared ∧ answer a t
  of_error : ∀ e t, step.runFrom s = (.error e, t) → Blames x declared e

namespace Placing

variable {step : Resolving α} {next : α → Resolving β} {answer : α → State → Prop}
  {answer' : β → State → Prop}

/-- A step whose outcome is known. -/
theorem ok {a : α} (hrun : step.runFrom s = (.ok a, t)) (ht : t.Placed x declared)
    (hanswer : answer a t) : Placing x declared step s answer where
  of_ok b u hrun' := by
    rw [hrun] at hrun'
    cases hrun'
    exact ⟨ht, hanswer⟩
  of_error e u hrun' := by
    rw [hrun] at hrun'
    cases hrun'

/-- To return places nothing new. -/
theorem pure {a : α} (hs : s.Placed x declared) (hanswer : answer a s) :
    Placing x declared (Pure.pure a) s answer := .ok rfl hs hanswer

/-- A step that fails places nothing. -/
theorem error {e : ResolveError} (hrun : step.runFrom s = (.error e, t))
    (hblames : Blames x declared e) : Placing x declared step s answer where
  of_ok b u hrun' := by
    rw [hrun] at hrun'
    cases hrun'
  of_error e' u hrun' := by
    rw [hrun] at hrun'
    cases hrun'
    exact hblames

/-- Steps in a row place types if each does, from what is known after those before it. -/
theorem bind (h : Placing x declared step s answer)
    (hnext : ∀ a t, step.runFrom s = (.ok a, t) → t.Placed x declared → answer a t →
      Placing x declared (next a) t answer') : Placing x declared (step >>= next) s answer' where
  of_ok b u hrun := by
    obtain ⟨a, t, hstep, hrest⟩ := runFrom_bind_ok.1 hrun
    obtain ⟨ht, hanswer⟩ := h.of_ok a t hstep
    exact (hnext a t hstep ht hanswer).of_ok b u hrest
  of_error e u hrun := by
    rcases runFrom_bind_error.1 hrun with hstep | ⟨a, t, hstep, hrest⟩
    · exact h.of_error e u hstep
    · obtain ⟨ht, hanswer⟩ := h.of_ok a t hstep
      exact (hnext a t hstep ht hanswer).of_error e u hrest

/-- A step that runs like another one. -/
theorem congr {other : Resolving α} (hrun : step.runFrom s = other.runFrom t)
    (h : Placing x declared other t answer) : Placing x declared step s answer where
  of_ok a u hstep := h.of_ok a u (hrun ▸ hstep)
  of_error e u hstep := h.of_error e u (hrun ▸ hstep)

/-- A step that is known to succeed may come before. -/
theorem of_run {a : α} (hrun : step.runFrom s = (.ok a, t))
    (h : Placing x declared (next a) t answer') : Placing x declared (step >>= next) s answer' :=
  .congr (by rw [runFrom_bind, hrun]) h

/-- What is known after a step may be weakened. -/
theorem imp {later : α → State → Prop} (h : Placing x declared step s answer)
    (himp : ∀ a t, step.runFrom s = (.ok a, t) → t.Placed x declared → answer a t → later a t) :
    Placing x declared step s later where
  of_ok a t hrun := by
    obtain ⟨ht, hanswer⟩ := h.of_ok a t hrun
    exact ⟨ht, himp a t hrun ht hanswer⟩
  of_error := h.of_error

/-- Rewriting the answer of a step places nothing. -/
theorem map {f : α → β} (h : Placing x declared step s fun a t => answer' (f a) t) :
    Placing x declared (f <$> step) s answer' := by
  rw [map_eq_pure_bind]
  exact h.bind fun a t _ ht hanswer => .pure ht hanswer

/-- A step that first looks at the state. -/
theorem reading {next : State → Resolving β} (h : Placing x declared (next s) s answer') :
    Placing x declared (MonadState.get >>= next) s answer' := .of_run (runFrom_get s) h

/-- A single change after which the places are the same. -/
theorem modify {f : State → State} (hs : s.Placed x declared) (hsame : State.SamePlaces s (f s)) :
    Placing x declared (modify f : Resolving PUnit) s fun _ t => State.SamePlaces s t :=
  .ok rfl (hs.same hsame) hsame

/-- A step that runs like another one, but for a change of the state that it leaves. -/
theorem changed {other : Resolving α} {f : State → State}
    (h : Placing x declared other t answer)
    (hrun : step.runFrom s = ((other.runFrom t).1, f (other.runFrom t).2))
    (hchange : ∀ u, State.SamePlaces u (f u)) :
    Placing x declared step s fun a v => ∃ u, other.runFrom t = (.ok a, u) ∧ u.Placed x declared ∧
      answer a u ∧ v = f u where
  of_ok a v hstep := by
    rw [hrun] at hstep
    rcases hother : other.runFrom t with ⟨_ | b, u⟩
    · rw [hother] at hstep
      cases hstep
    · rw [hother] at hstep
      cases hstep
      obtain ⟨hu, hanswer⟩ := h.of_ok a u hother
      exact ⟨hu.same (hchange u), u, rfl, hu, hanswer, rfl⟩
  of_error e v hstep := by
    rw [hrun] at hstep
    rcases hother : other.runFrom t with ⟨e' | _, u⟩
    · rw [hother] at hstep
      cases hstep
      exact h.of_error e u hother
    · rw [hother] at hstep
      cases hstep

/-- A change of the state after a step. -/
theorem closing {close : State → State} (h : Placing x declared step s answer)
    (hclose : ∀ t, State.SamePlaces t (close t)) :
    Placing x declared (step.closing close) s fun _ _ => True :=
  (h.changed (runFrom_closing step close s) hclose).imp fun _ _ _ _ _ => trivial

end Placing

end Resolving

/-! ## Single changes -/

/-- A new binding leaves all others alone. -/
theorem Resolver.State.later_register {c : ComponentId} (target : TypeRef)
    (hfresh : s.registry.find? c = none) :
    s.Later { s with
      registry := s.registry.insert ⟨c, target⟩
      queue := if target.isPrebuilt then s.queue else ⟨c, target⟩ :: s.queue } := by
  refine ⟨fun {d other} hd => ?_, id, List.Subset.refl _⟩
  show (s.registry.insert ⟨c, target⟩).target? d = some other
  rw [Registry.target?_insert hfresh, if_neg]
  · exact hd
  · rintro rfl
    rw [Registry.find?_eq_none_iff.1 hfresh] at hd
    cases hd

namespace Resolver.State.Placed

variable {c : ComponentId} {scope : Scope}

/-- A class may be added anywhere but at the root. -/
theorem newClass (h : s.Placed x declared) (name : String) (hscope : scope ≠ .root) :
    ({ s with model := (s.model.newClass name scope).2 } : State).Placed x declared := by
  have hgrows : s.model.Grows (fun _ => True) (s.model.newClass name scope).2 := .newClass _ _ _
  refine h.of_later ⟨id, hgrows.scope?, List.Subset.refl _⟩ rfl rfl (fun target other hother => ?_)
    (fun e note he => .inl he) (h.packaged.congr rfl rfl) (fun _ _ hdone => hdone)
    (List.Subset.refl _)
  rw [Model.scope?_newClass] at hother
  split at hother
  · obtain rfl := Option.some.inj hother
    exact .inr hscope
  · exact .inl hother

/-- A wrapper may be noted for a wrapped element anywhere but at the root. -/
theorem wrapping (h : s.Placed x declared) (info : Component) (hscope : scope ≠ .root)
    (hknown : s.Known x c) (hwrapped : x.schema.isWrapped c = true) :
    (s.wrapping info c scope).Placed x declared := by
  have hgrows : s.model.Grows (fun _ => True)
      (s.model.newElement info.nameOrEmpty info.ns scope).2 := .newElement _ _ _ _
  refine h.of_later ⟨id, hgrows.scope?, List.Subset.refl _⟩ rfl rfl (fun target other hother => ?_)
    (fun e note he => ?_) (h.packaged.congr rfl rfl) (fun _ _ hdone => hdone)
    (List.Subset.refl _)
  · change (s.model.newElement info.nameOrEmpty info.ns scope).2.scope? target = _ at hother
    rw [Model.scope?_newElement] at hother
    split at hother
    · obtain rfl := Option.some.inj hother
      exact .inr hscope
    · exact .inl hother
  · change List.lookup e ((c, _) :: s.elements) = _ at he
    rw [Ledger.lookup_noted] at he
    split at he
    · rename_i hec
      rw [hec]
      exact .inr ⟨hknown, fun _ => hwrapped⟩
    · exact .inl he

/-- That an element has no type of its own may be noted when its package is known. -/
theorem markUnbound (h : s.Placed x declared) (hknown : s.Known x c) :
    ({ s with elements := (c, none) :: s.elements } : State).Placed x declared := by
  refine h.of_later ⟨id, id, List.Subset.refl _⟩ rfl rfl (fun _ _ hscope => .inl hscope)
    (fun e note he => ?_) (h.packaged.congr rfl rfl) (fun _ _ hdone => hdone)
    (List.Subset.refl _)
  change List.lookup e ((c, none) :: s.elements) = _ at he
  rw [Ledger.lookup_noted] at he
  split at he
  · rename_i hec
    obtain rfl := Option.some.inj he
    rw [hec]
    exact .inr ⟨hknown, by simp⟩
  · exact .inl he

/-- A component with its seat may be registered. -/
theorem register (h : s.Placed x declared) {target : TypeRef}
    (hseat : s.Seat x declared c target) (hfresh : s.registry.find? c = none) :
    ({ s with
      registry := s.registry.insert ⟨c, target⟩
      queue := if target.isPrebuilt then s.queue else ⟨c, target⟩ :: s.queue } : State).Placed x
        declared := by
  have hlater := later_register target hfresh
  have hself : (s.registry.insert ⟨c, target⟩).target? c = some target := by
    rw [Registry.target?_insert hfresh, if_pos rfl]
  refine ⟨hlater.target? h.anyType, fun d other hd hany => ?_, h.inside,
    fun e note he => (h.noted e note he).imp_left (·.later hlater), fun b hb => ?_,
    h.packaged.congr rfl rfl, fun d k hdone a ha => (h.told d k hdone a ha).later hlater,
    h.building⟩
  · change (s.registry.insert ⟨c, target⟩).target? d = some other at hd
    rw [Registry.target?_insert hfresh] at hd
    split at hd
    · rename_i hdc
      obtain rfl := Option.some.inj hd
      obtain rfl : d = c := hdc
      exact hseat.later hlater
    · exact (h.seated d other hd hany).later hlater
  · have hold (hb : b ∈ s.queue) :
        (s.registry.insert ⟨c, target⟩).target? b.component = some b.target :=
      hlater.target? (h.queued b hb)
    change b ∈ (if target.isPrebuilt then s.queue else ⟨c, target⟩ :: s.queue) at hb
    split at hb
    · exact hold hb
    · rcases List.mem_cons.1 hb with rfl | hb
      · exact hself
      · exact hold hb

/-- A binding may leave the queue. -/
theorem dequeue (h : s.Placed x declared) {b : Binding} {rest : List Binding}
    (hqueue : s.queue = b :: rest) : ({ s with queue := rest } : State).Placed x declared := by
  have hlater : s.Later { s with queue := rest } := ⟨id, id, List.Subset.refl _⟩
  refine ⟨h.anyType, fun c target hc hany => (h.seated c target hc hany).later hlater, h.inside,
    fun e note he => (h.noted e note he).imp_left (·.later hlater), fun a ha => h.queued a ?_,
    h.packaged.congr rfl rfl, fun c k hdone d hd => (h.told c k hdone d hd).later hlater,
    h.building⟩
  rw [hqueue]
  exact .tail b ha

/-- The body of a needed component may be begun. -/
theorem claimed (h : s.Placed x declared) (hneeded : x.Needed declared c) (k : ClassId) :
    (s.claimed c k).Placed x declared := by
  have hlater : s.Later (s.claimed c k) := ⟨id, id, List.Subset.refl _⟩
  refine ⟨h.anyType, fun d target hd hany => (h.seated d target hd hany).later hlater, h.inside,
    fun e note he => (h.noted e note he).imp_left (·.later hlater), h.queued,
    h.packaged.congr rfl rfl, fun d j hdone a ha => (h.told d j hdone a ha).later hlater,
    fun d hd => ?_⟩
  rcases List.mem_cons.1 hd with rfl | hd
  · exact hneeded
  · exact h.building d hd

/-- A body may be finished that knows the packages of what it refers to. -/
theorem finish (h : s.Placed x declared) {k : ClassId} (place : Place)
    (hknown : ∀ d ∈ x.referenced c, s.Known x d) :
    ({ s with journal := .done c k place :: s.journal } : State).Placed x declared := by
  have hlater : s.Later { s with journal := .done c k place :: s.journal } :=
    ⟨id, id, List.Subset.refl _⟩
  refine ⟨h.anyType, fun d target hd hany => (h.seated d target hd hany).later hlater, h.inside,
    fun e note he => (h.noted e note he).imp_left (·.later hlater), h.queued,
    h.packaged.congr rfl rfl, fun d j hdone a ha => ?_, h.building⟩
  rcases List.mem_cons.1 hdone with heq | hold
  · obtain ⟨rfl, rfl⟩ : d = c ∧ j = k := by simpa using heq
    exact (hknown a ha).later hlater
  · exact (h.told d j hold a ha).later hlater

end Resolver.State.Placed

namespace Resolving

open Resolver.State

variable {c : ComponentId}

/-- A needed namespace gets **its package**. -/
theorem placing_packageFor (hs : s.Placed x declared) (hneeded : x.Needed declared c)
    (hproper : c ≠ SchemaSet.anyType)
    (hglobal : (x.schema.component c).isGlobalDeclaration = true) :
    Placing x declared (x.packageFor (x.schema.component c).ns) s fun p t =>
      ((x.schema.component c).ns, p) ∈ t.packages := by
  have hstep : (x.packageFor (x.schema.component c).ns).runFrom s =
      (.ok (x.packageOf (x.schema.component c).ns s).1,
        (x.packageOf (x.schema.component c).ns s).2) := rfl
  generalize hns : (x.schema.component c).ns = ns at hstep ⊢
  cases hlookup : s.packages.lookup ns with
  | some p =>
    rw [x.packageOf_known hlookup] at hstep
    refine .ok hstep hs ?_
    obtain ⟨before, after, hpackages, -⟩ := List.lookup_eq_some_iff.1 hlookup
    rw [hpackages]
    simp
  | none =>
    rw [x.packageOf_unknown hlookup] at hstep
    -- checking the name raises at most a finding
    have hcheck : SamePlaces s (x.checkPackageName ns (x.packageName ns) s) :=
      x.checkPackageName_cases _ _ s (fun _ => .refl s) (fun _ _ => { SamePlaces.refl s with })
        fun _ _ => { SamePlaces.refl s with }
    have hu := hs.same hcheck
    generalize x.checkPackageName ns (x.packageName ns) s = u at hstep hu
    refine .ok hstep ?_ (by simp)
    obtain ⟨named, asked, known, nodup⟩ := hu.packaged
    refine hu.of_later ⟨id, fun hscope => by simpa using hscope, List.subset_append_left _ _⟩ rfl
      rfl (fun target scope hscope => .inl (by simpa using hscope)) (fun e note he => .inl he)
      ⟨fun ns' p hp => ?_, fun ns' p hp => ?_, fun name hname => ?_, Model.nodup_package nodup _⟩
      (fun _ _ hdone => hdone) (List.Subset.refl _)
    · rcases List.mem_append.1 hp with hp | hp
      · exact Model.getElem?_package_of (named ns' p hp)
      · obtain ⟨rfl, rfl⟩ : ns' = ns ∧ p = (u.model.package (x.packageName ns)).1 := by
          simpa using hp
        exact Model.getElem?_package _ _
    · rcases List.mem_append.1 hp with hp | hp
      · exact asked ns' p hp
      · obtain ⟨rfl, -⟩ : ns' = ns ∧ p = (u.model.package (x.packageName ns)).1 := by
          simpa using hp
        exact ⟨c, hneeded, hproper, hglobal, hns⟩
    · rcases Model.mem_package hname with hold | rfl
      · obtain ⟨ns', p, hp, hname⟩ := known name hold
        exact ⟨ns', p, List.mem_append_left _ hp, hname⟩
      · exact ⟨ns, _, List.mem_append_right _ (List.mem_singleton_self _), rfl⟩

/-- A step inside a scope finds the scope innermost, and is placed afterwards if it was inside. -/
theorem placing_withScope {step : Resolving α} {inner : Option ClassId} {scope : Scope}
    {answer : α → State → Prop} (hkeeping : Keeping inner step) (hscope : scope ≠ .root)
    (h : Placing x declared step (inside scope s) answer)
    (hanswer : ∀ a t, answer a t → answer a { t with scopes := s.scopes }) :
    Placing x declared (withScope scope step) s answer := by
  have hrun := runFrom_withScope hscope (hkeeping (inside scope s)).scopes
  have hclosed := h.changed (f := fun u => { u with scopes := s.scopes }) hrun fun u =>
    { SamePlaces.refl u with }
  refine hclosed.imp fun a t _ _ ⟨u, _, _, ha, ht⟩ => ?_
  rw [ht]
  exact hanswer a u ha

/-- A change of a class that leaves its scope alone. -/
theorem placing_modifyClass (hs : s.Placed x declared) (k : ClassId) {f : ClassInfo → ClassInfo}
    (hscope : ∀ c, (f c).scope = c.scope) :
    Placing x declared (changeModel fun m => m.modifyClass k f) s fun _ t => SamePlaces s t :=
  .modify hs (.modifyClass s k hscope)

end Resolving

end SchemaBinding
