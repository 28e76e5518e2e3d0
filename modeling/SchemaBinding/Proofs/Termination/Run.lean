import SchemaBinding.Proofs.Failure
import SchemaBinding.Proofs.Manifest.Loaded
import SchemaBinding.Proofs.Termination.Fragment
import SchemaBinding.Proofs.Termination.Resolver

/-! # Compilations that come to an end
The schema graph is cyclic and the bodies that are built feed the queue that is worked off. A
standard compilation of a manifest comes to its end or fails nevertheless, within bounds that are
read off the schema set: for the questions asked inside each other, for the bodies under
construction and for the bindings taken off the queue. Whatever more it is allowed, it is the same
run. -/

namespace SchemaBinding

open Resolver (State)
open Resolving (runFrom_bind runFrom_bind_ok)

variable {allowed : String → Prop}

/-! ## Draining -/

namespace Resolver

variable {r r' outer outer' : Resolver} {strategy : Strategy} {bodies turns more n : Nat}
  {s t : State} {b : Binding} {rest : List Binding}

/-- Nothing is drained from an empty queue, whatever number of turns is left. -/
theorem runFrom_drainWithin_nil (r : Resolver) (turns : Nat) (h : s.queue = []) :
    (r.drainWithin turns).runFrom s = (.ok 0, s) := by
  cases turns <;>
  · unfold drainWithin
    rw [runFrom_bind, runFrom_takeQueued_nil h]
    rfl

/-- A binding for which there is no turn cuts the run short. -/
theorem runFrom_drainWithin_zero (r : Resolver) (h : s.queue = b :: rest) :
    (r.drainWithin 0).runFrom s = (.error (.endless b.component), { s with queue := rest }) := by
  unfold drainWithin
  rw [runFrom_bind, runFrom_takeQueued_cons h]
  rfl

/-- A turn takes the first binding off the queue and builds it. -/
theorem runFrom_drainWithin_succ (r : Resolver) (turns : Nat) (h : s.queue = b :: rest) :
    (r.drainWithin (turns + 1)).runFrom s =
      (r.build b >>= fun _ => r.drainWithin turns >>= fun n => pure (n + 1)).runFrom
        { s with queue := rest } := by
  rw [drainWithin, runFrom_bind, runFrom_takeQueued_cons h]

/-- No more bindings are taken off the queue than there are turns. -/
theorem le_of_drainWithin (h : (r.drainWithin turns).runFrom s = (.ok n, t)) : n ≤ turns := by
  induction turns generalizing n s t with
  | zero =>
    cases hqueue : s.queue with
    | nil =>
      rw [runFrom_drainWithin_nil r 0 hqueue] at h
      cases h
      exact le_rfl
    | cons b rest =>
      rw [runFrom_drainWithin_zero r hqueue] at h
      cases h
  | succ turns ih =>
    cases hqueue : s.queue with
    | nil =>
      rw [runFrom_drainWithin_nil r _ hqueue] at h
      cases h
      exact Nat.zero_le _
    | cons b rest =>
      rw [runFrom_drainWithin_succ r turns hqueue] at h
      obtain ⟨_, u, -, h⟩ := runFrom_bind_ok.1 h
      obtain ⟨m, v, hrest, h⟩ := runFrom_bind_ok.1 h
      cases h
      exact Nat.succ_le_succ (ih hrest)

/-- The queue is worked off alike if at least as many bindings may be taken off it. -/
theorem Foretells.drainWithin (h : r.Foretells r') (hagrees : strategy.AgreesUpTo bodies)
    (hbound : ∀ u : State, u.Stacked r.schema → u.building.depth ≤ bodies)
    (hbuild : outer.build = Resolver.buildBinding .standard r)
    (hbuild' : outer'.build = Resolver.buildBinding strategy r') (hle : turns ≤ more)
    (hs : s.Stacked r.schema) (outside : s.building.active = []) :
    (outer.drainWithin turns).Foretells (outer'.drainWithin more) s := by
  induction turns generalizing more s with
  | zero =>
    cases hqueue : s.queue with
    | nil =>
      refine .of_eq ?_
      rw [runFrom_drainWithin_nil outer 0 hqueue, runFrom_drainWithin_nil outer' more hqueue]
    | cons b rest => exact .inl ⟨b.component, by rw [runFrom_drainWithin_zero outer hqueue]⟩
  | succ turns ih =>
    obtain ⟨more, rfl⟩ : ∃ m, more = m + 1 := Nat.exists_eq_succ_of_ne_zero (by omega)
    cases hqueue : s.queue with
    | nil =>
      refine .of_eq ?_
      rw [runFrom_drainWithin_nil outer _ hqueue, runFrom_drainWithin_nil outer' _ hqueue]
    | cons b rest =>
      have hrest : ({ s with queue := rest } : State).Stacked r.schema :=
        ⟨hs.nodup, hs.chain, hs.anyType⟩
      -- outside of all bodies there is none that would have to extend the next one
      have hbody := h.buildBinding (b := b) hagrees hbound hrest (by simp [outside])
      rw [← hbuild, ← hbuild'] at hbody
      have hturn := hbody.bind fun _ u hrun => (?_ : Resolving.Foretells
        (outer.drainWithin turns >>= fun n => pure (n + 1))
        (outer'.drainWithin more >>= fun n => pure (n + 1)) u)
      · exact hturn.congr (runFrom_drainWithin_succ outer turns hqueue)
          (runFrom_drainWithin_succ outer' more hqueue)
      · rw [hbuild] at hrun
        have hkeeps : State.Keeps none { s with queue := rest } u :=
          (keeping_buildBinding h.keeping Strategy.keeping_standard b).of_run hrun
        have hlater := ih (Nat.le_of_succ_le_succ hle) (hrest.keeps hkeeps)
          ((congrArg CycleDetector.active hkeeps.building).trans outside)
        exact hlater.bind fun n v _ => .refl _ v

end Resolver

/-! ## Bounds -/

/-- In every ledger that a run reaches the bodies under construction extend each other, so there are
no more of them than **declared types and one**. -/
theorem Ledger.length_building_le_declaredTypes {x : Context} {l : Ledger} (hl : Reachable x l)
    (hset : x.schema.Loaded allowed) : l.building.length ≤ x.schema.declaredTypes.length + 1 := by
  refine hset.length_le hl.building.nodup (hl.building.chain.imp_of_mem_imp ?_)
  intro later earlier hlater _ hextended
  refine ⟨hextended, fun hany => ?_⟩
  -- the universal type is bound to a leaf, and what has a body to a class
  obtain ⟨k, hk, -⟩ := hl.building.active later hlater
  rw [hany, hl.inOrder.anyType] at hk
  cases hk

/-- A run over a loaded set is **not cut short** if more brackets may be open than there are
declared types and four: one for each body and three for proposals. -/
theorem Stuck.ne_endless {x : Context} {limit : Nat} {l : Ledger} {e : ResolveError}
    (hl : Reachable x l) (hset : x.schema.Loaded allowed)
    (hlimit : x.schema.declaredTypes.length + 5 ≤ limit) (h : Stuck x limit l e)
    (c : ComponentId) : e ≠ .endless c := by
  cases h with
  | extending | proposing => simp
  | deep deep =>
    have hproposing := hl.inOrder.length_proposing_le hset
    have hbuilding := Ledger.length_building_le_declaredTypes hl hset
    unfold Ledger.depth at deep
    omega
  | undocumented bound endless =>
    have hbindable := hl.inOrder.isBindable_of_classRef bound
    exact absurd endless (hset.documentation?_ne_none (SchemaSet.isGroup_of_isBindable hbindable))
  | unwritten building endless => exact absurd endless (hset.items?_ne_none _)

namespace Compilation

variable {c : Compilation} {strategy : Strategy} {turns more n n' : Nat}

/-! ## Runs -/

/-- The run in which at most so many questions are asked inside each other, so many bodies are under
construction, and so many bindings are taken off the queue; it is cut short as endless when there
would be more. -/
def runWithin (c : Compilation) (questions bodies turns : Nat) : Except ResolveError Unit × State :=
  (c.stepsWith (.within c.context (.standardUpTo bodies) questions) turns).runFrom c.start

/-- Binding the declarations keeps the state. -/
theorem keeping_bindDeclarations (c : Compilation) {r : Resolver} (hr : r.Keeping) :
    Resolving.Keeping none (c.bindDeclarations r) :=
  .forM fun id _ => (Resolver.keeping_bindToType hr id).bind fun _ => .pure _

/-- Declarations are bound alike, as no body is under construction. -/
theorem foretells_bindDeclarations {r r' : Resolver} (h : r.Foretells r') :
    (c.bindDeclarations r).Foretells (c.bindDeclarations r') c.start := by
  have hstart : c.start.Stacked r.schema := .initial _ _
  refine .forM (P := fun t => t.Stacked r.schema) hstart (fun id t ht => ?_)
    fun id t u ht hrun => ?_
  · exact (h.bindToType ht id).bind fun _ u _ => .refl _ u
  · have hkeeping : Resolving.Keeping none (do let _ ← r.bindToType id) :=
      (Resolver.keeping_bindToType h.keeping id).bind fun _ => .pure _
    exact ht.keeps (hkeeping.of_run hrun)

/-- Over a loaded set the stack of bodies is bounded, so the standard resolver **foretells** every
one that is told apart from it beyond the bound only. -/
theorem foretells_within (hset : c.schema.Loaded allowed)
    (hagrees : strategy.AgreesUpTo (c.schema.declaredTypes.length + 1)) (hn : n ≤ n') :
    (Resolver.within c.context .standard n).Foretells (Resolver.within c.context strategy n') := by
  have hbound (u : State) (hu : u.Stacked c.context.schema) :
      u.building.depth ≤ c.schema.declaredTypes.length + 1 := hu.depth_le hset
  exact .within hagrees hbound hn

/-- Once the declarations are bound, the queue is worked off alike. -/
theorem foretells_drainWithin (hset : c.schema.Loaded allowed)
    (hagrees : strategy.AgreesUpTo (c.schema.declaredTypes.length + 1)) (hn : n ≤ n')
    (hturns : turns ≤ more) {t : State}
    (hrun : (c.bindDeclarations (.within c.context .standard (n + 1))).runFrom c.start =
      (.ok (), t)) :
    ((Resolver.within c.context .standard (n + 1)).drainWithin turns).Foretells
      ((Resolver.within c.context strategy (n' + 1)).drainWithin more) t := by
  have hschema : (Resolver.within c.context .standard n).schema = c.schema :=
    congrArg Context.schema (Resolver.Foretells.context_within c.context .standard n)
  have hkeeping := Resolver.keeping_within c.context Strategy.keeping_standard (n + 1)
  have hkeeps : c.start.Keeps none t := (c.keeping_bindDeclarations hkeeping).of_run hrun
  have hstacked : t.Stacked c.schema := (State.Stacked.initial _ _).keeps hkeeps
  have houtside : t.building.active = [] := congrArg CycleDetector.active hkeeps.building
  exact (foretells_within hset hagrees hn).drainWithin hagrees
    (fun u hu => (hschema ▸ hu).depth_le hset) rfl rfl hturns (hschema ▸ hstacked) houtside

/-- A run **foretells** every one that is allowed at least as much. -/
theorem foretells_stepsWith (hset : c.schema.Loaded allowed)
    (hagrees : strategy.AgreesUpTo (c.schema.declaredTypes.length + 1)) (hn : n ≤ n')
    (hturns : turns ≤ more) :
    (c.stepsWith (.within c.context .standard (n + 1)) turns).Foretells
      (c.stepsWith (.within c.context strategy (n' + 1)) more) c.start := by
  have hwithin := foretells_within hset hagrees (Nat.succ_le_succ hn)
  refine (foretells_bindDeclarations hwithin).bind fun _ t hrun => ?_
  exact (foretells_drainWithin hset hagrees hn hturns hrun).bind fun _ u _ => .refl _ u

/-- A standard run is **not cut short** if it is allowed what the bounds say. -/
theorem ne_endless_stepsWith (hset : c.schema.Loaded allowed)
    (hn : c.schema.declaredTypes.length + 5 ≤ n + 1) (hturns : c.schema.size ≤ turns)
    (d : ComponentId) :
    ((c.stepsWith (.within c.context .standard (n + 1)) turns).runFrom c.start).1 ≠
      .error (.endless d) := by
  intro hend
  have hfollows : Resolving.Follows c.context (n + 1)
      (c.stepsWith (.within c.context .standard (n + 1)) turns) c.start _ :=
    follows_stepsWith le_rfl hturns
  obtain ⟨l, hmoves, hstuck⟩ := hfollows.of_error (Resolving.runFrom_of_fst hend)
  rw [ledger_start] at hmoves
  exact hstuck.ne_endless hmoves hset hn d rfl

/-- No more bindings are taken off the queue of a run than there are components, however many it is
allowed. -/
theorem le_size_of_drainWithin (hset : c.schema.Loaded allowed)
    (hn : c.schema.declaredTypes.length + 4 ≤ n) (hturns : c.schema.size ≤ turns) {s t : State}
    {k : Nat}
    (hdeclared : (c.bindDeclarations (.within c.context .standard (n + 1))).runFrom c.start =
      (.ok (), s))
    (hdrained : ((Resolver.within c.context .standard (n + 1)).drainWithin turns).runFrom s =
      (.ok k, t)) : k ≤ c.schema.size := by
  have hfinite := ne_endless_stepsWith hset (n := c.schema.declaredTypes.length + 4) le_rfl
    (le_refl c.schema.size)
  -- the declarations are bound as they are in the least run that is not cut short
  have hleast := (foretells_bindDeclarations (foretells_within hset (.standard _)
    (Nat.succ_le_succ hn))).eq fun d hd => hfinite d (Resolving.fst_runFrom_bind_of_error hd)
  rw [hdeclared] at hleast
  have hqueue := (foretells_drainWithin hset (.standard _) hn hturns hleast.symm).eq fun d hd => by
    refine hfinite d ?_
    unfold stepsWith
    rw [runFrom_bind, ← hleast]
    exact Resolving.fst_runFrom_bind_of_error hd
  rw [hdrained] at hqueue
  exact Resolver.le_of_drainWithin hqueue.symm

/-- A standard compilation **ends** within its bounds: those for the questions, the bodies and the
queue of its run, and for the recursion over contents and fragments. -/
structure Ends (c : Compilation) : Prop where
  /-- Whatever more the run is allowed, it is the same. -/
  bounded : ∀ questions bodies turns, c.schema.declaredTypes.length + 5 ≤ questions →
    c.schema.declaredTypes.length + 1 ≤ bodies → c.schema.size ≤ turns →
      c.runWithin questions bodies turns = c.run
  /-- It is not cut short. -/
  finite : ∀ d, c.run.1 ≠ .error (.endless d)
  /-- No more bindings are taken off the queue than there are components. -/
  drained : ∀ n s t, (c.bindDeclarations c.resolver).runFrom c.start = (.ok (), s) →
    c.resolver.drain.runFrom s = (.ok n, t) → n ≤ c.schema.size
  /-- A content is a list of elements, which is found on the first level. -/
  contents : ∀ id type, (c.schema.component id).asComplexType = some type → ∀ steps, 0 < steps →
    (type.content.mapM (c.schema.particleOccurrences steps)).map List.flatten = some type.content
  /-- Fragments are written through as many levels as there are components from the first one on. -/
  fragments : ∀ id home depth top repeated, ∃ lines, ∀ steps, c.schema.size - id.index < steps →
    c.schema.fragmentLines home steps id depth top repeated = some lines

/-- A standard compilation over a loaded set **ends**. -/
theorem ends_of_loaded (hstandard : c.strategy = .standard) (hset : c.schema.Loaded allowed) :
    c.Ends := by
  have hsize : c.schema.declaredTypes.length + 4 ≤ 2 * c.schema.size + 1 := by
    have hfilter : c.schema.declaredTypes.length ≤ c.schema.size := by
      simpa [SchemaSet.declaredTypes, SchemaSet.ids] using
        List.length_filter_le _ c.schema.ids
    have hinitial : 22 ≤ SchemaSet.initial.size := by decide +kernel
    have hgrown := hset.grown.size
    omega
  have hresolver : c.resolver = .within c.context .standard (2 * c.schema.size + 1 + 1) := by
    rw [← hstandard]
    rfl
  -- the least run that is not cut short is the same as every other one
  have hfinite := ne_endless_stepsWith hset (n := c.schema.declaredTypes.length + 4) le_rfl
    (le_refl c.schema.size)
  have hsame {strategy : Strategy} {n turns : Nat}
      (hagrees : strategy.AgreesUpTo (c.schema.declaredTypes.length + 1))
      (hn : c.schema.declaredTypes.length + 4 ≤ n) (hturns : c.schema.size ≤ turns) :=
    (foretells_stepsWith hset hagrees hn hturns).eq hfinite
  have hrun : c.run = (c.stepsWith (.within c.context .standard
      (c.schema.declaredTypes.length + 4 + 1)) c.schema.size).runFrom c.start := by
    rw [← hsame (.standard _) hsize (Nat.le_succ _), ← hresolver]
    rfl
  refine ⟨?bounded, ?finite, ?drained,
    fun id type htype steps => hset.mapM_particleOccurrences htype, hset.exists_fragmentLines⟩
  case bounded =>
    intro questions bodies turns hquestions hbodies hturns
    obtain ⟨n, rfl⟩ : ∃ n, questions = n + 1 := Nat.exists_eq_succ_of_ne_zero (by omega)
    rw [hrun]
    exact hsame ((Strategy.AgreesUpTo.standardUpTo bodies).mono hbodies) (by omega) hturns
  case finite =>
    rw [hrun]
    exact hfinite
  case drained =>
    intro k s t hdeclared hdrained
    rw [hresolver] at hdeclared hdrained
    exact le_size_of_drainWithin hset hsize (Nat.le_succ _) hdeclared hdrained

/-- **Every compilation of a manifest ends within explicit bounds**, whatever the configuration. -/
theorem ends_of_ofManifest {text name : String} (hstandard : c.strategy = .standard)
    (h : SchemaSet.ofManifest text name = .ok c.schema) : c.Ends :=
  ends_of_loaded hstandard (SchemaSet.loaded_of_ofManifest h)

/-- A manifest of a type, and of an element with a class of its own that extends the class of the
type. The type refers back to the element. -/
def heirText : String :=
  "schema=[\x7bnamespace=\"a\",complex_type=[" ++
    "\x7bname=\"T\",element=[\x7bref=\"\x7bb\x7dx\"\x7d]\x7d]\x7d," ++
    "\x7bnamespace=\"b\",element=[\x7bname=\"x\",type=\"\x7ba\x7dT\",class=\"C\"\x7d]\x7d]"

set_option maxRecDepth 100000 in
/-- Its run has two bodies under construction at a time, which is as many as the bound allows. -/
theorem ends_of_ofManifest_heirText : ∃ set, SchemaSet.ofManifest heirText "a.toml" = .ok set ∧
    ({ schema := set } : Compilation).Ends ∧ set.declaredTypes.length = 1 ∧
      (({ schema := set } : Compilation).runWithin 6 2 24).1.isOk = true ∧
      (({ schema := set } : Compilation).runWithin 6 1 24).1.isOk = false := by
  have haccepted : (SchemaSet.ofManifest heirText "a.toml").toOption.any (fun set =>
      set.declaredTypes.length = 1 ∧
        (({ schema := set } : Compilation).runWithin 6 2 24).1.isOk = true ∧
        (({ schema := set } : Compilation).runWithin 6 1 24).1.isOk = false) = true := by
    decide +kernel
  cases hset : SchemaSet.ofManifest heirText "a.toml" with
  | ok set =>
    rw [hset] at haccepted
    exact ⟨set, rfl, ends_of_ofManifest (c := { schema := set }) rfl hset,
      of_decide_eq_true haccepted⟩
  | error e =>
    rw [hset] at haccepted
    cases haccepted

end Compilation

end SchemaBinding
