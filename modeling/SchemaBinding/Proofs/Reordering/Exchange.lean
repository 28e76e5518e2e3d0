import SchemaBinding.Proofs.Reordering.Matched

/-! # Exchanging tasks
Two declarations may be filled in either order. Each of them adds its components at the end, so the
second one adds them behind those of the first, and all else is the same. Hence any number of
declarations may be filled in any order: the sets that come of it match. -/

namespace SchemaBinding

variable {allowed : String → Prop} {set set' image : SchemaSet} {a b t : Task} {c : ComponentId}

/-! ## Single tasks -/

namespace Task

/-- The components that a task is **about**: the one that it fills, and all that are added. -/
def About (t : Task) (set : SchemaSet) (c : ComponentId) : Prop := c = t.2 ∨ set.size ≤ c.index

/-- A task keeps a loaded set loaded. -/
theorem loads (ht : t.2.index < set.size) : Loads allowed t.step set fun _ _ => True := by
  unfold step Declaration.fill
  cases t.1.entry with
  | simpleType entry =>
    exact (Loading.loads_resolveType _ _).bind fun base _ _ _ hbase =>
      .building (Builder.loads_setSimpleBase hbase _)
  | complexType entry => exact Loading.loads_fillComplexType _ _ entry t.2
  | element entry =>
    dsimp only
    split
    · exact .failed _ _
    · exact Loading.loads_fillElement _ _ entry set t.2 ht

/-- A task **spares** all that it is not about. -/
theorem spares (hindexed : set.Indexed) (hrun : t.step.run.run set = (.ok (), set')) :
    SchemaSet.Spares (t.About set) set set' := by
  let M : Mirror :=
    { base := set
      image := set
      place := id
      inner := t.About set
      injective := Function.injective_id
      fresh := fun _ => .inr
      builtin := fun _ _ _ => rfl
      found := fun _ _ _ => Option.map_id_apply.symm }
  -- a run mirrors itself
  have hmirrors : M.Mirrors set set :=
    ⟨.refl hindexed, .refl hindexed, fun _ => rfl, fun _ _ => (Component.rename_id _).symm⟩
  have halike := Mirror.mirroring_fill (M := M) (.inl rfl) t.1 set set hmirrors
  change M.Alike _ (t.step.run.run set) (t.step.run.run set) at halike
  rw [hrun] at halike
  cases halike with
  | ok mirrors => exact mirrors.spares

end Task

/-! ## A task after another one -/

/-- Where the components that a task adds stand after another task: behind those that it has
added. -/
def shift (set image : SchemaSet) (c : ComponentId) : ComponentId :=
  if c.index < set.size then c else ⟨c.index + (image.size - set.size)⟩

/-- What was there before both tasks stands where it stood. -/
theorem shift_of_lt (h : c.index < set.size) : shift set image c = c := if_pos h

/-- No two components are shifted to one place. -/
theorem shift_injective (set image : SchemaSet) : (shift set image).Injective := by
  rintro ⟨i⟩ ⟨j⟩ hij
  unfold shift at hij
  dsimp only at hij
  split at hij <;> split at hij <;> simp only [ComponentId.mk.injEq] at hij ⊢ <;> omega

/-- After one task, another one sees the set **as before**, but for what was added. -/
def Task.after (t : Task) (hset : set.Loaded allowed) (hindexed : set.Indexed)
    (himage : SchemaSet.Spares (a.About set) set image) : Mirror where
  base := set
  image := image
  place := shift set image
  inner := t.About set
  injective := shift_injective set image
  fresh _ := .inr
  builtin _ id hid := shift_of_lt
    (Nat.lt_of_lt_of_le (SchemaSet.index_lt_of_builtin? hid) hset.grown.size)
  found ns name wantType := by
    rw [himage.found]
    cases hfind : set.findGlobal? ns name wantType with
    | none => rfl
    | some id => exact congrArg some (shift_of_lt (hindexed.index_lt_of_findGlobal? hfind)).symm

/-- Behind one task, another one finds the components that it is about as they were. -/
theorem Task.mirrors_after (hset : set.Loaded allowed) (hindexed : set.Indexed)
    (himage : SchemaSet.Spares (a.About set) set image) (ht : t.2.index < set.size)
    (hne : t.2 ≠ a.2) : (Task.after t hset hindexed himage).Mirrors set image where
  spares := .refl hindexed
  spares' := .refl himage.indexed
  size i := by
    have hsize : set.size ≤ image.size := himage.size
    show shift set image ⟨set.size + i⟩ = ⟨image.size + i⟩
    rw [shift, if_neg (Nat.not_lt.2 (Nat.le_add_right _ _))]
    refine congrArg ComponentId.mk ?_
    dsimp only
    omega
  component c hc := by
    show image.component (shift set image c) = (set.component c).rename (shift set image)
    rcases hc with rfl | hbeyond
    · -- the declaration to be filled was spared
      have hkept : image.component t.2 = set.component t.2 := by
        refine himage.kept _ ?_
        rintro (hsame | hbeyond)
        · exact hne hsame
        · exact Nat.not_le.2 ht hbeyond
      have hsame : (set.component t.2).rename (shift set image) = set.component t.2 :=
        (hset.rename_congr (fun d hd => shift_of_lt hd) t.2).trans (Component.rename_id _)
      rw [shift_of_lt ht, hkept, hsame]
    · -- nothing is there as yet
      have hshift : image.size ≤ (shift set image c).index := by
        have hsize : set.size ≤ image.size := himage.size
        unfold shift
        rw [if_neg (Nat.not_lt.2 hbeyond)]
        dsimp only
        omega
      rw [SchemaSet.component_of_size_le hbeyond, SchemaSet.component_of_size_le hshift]
      rfl

/-! ## Two tasks -/

/-- The positions after two tasks, exchanged: behind `n` components there are `p` of the one task
and `q` of the other. -/
def exchanged (n p q i : Nat) : Nat :=
  if i < n then i else if i < n + p then i + q else if i < n + p + q then i - p else i

/-- Exchanged twice, a position is back. -/
theorem exchanged_exchanged (n p q i : Nat) : exchanged n q p (exchanged n p q i) = i := by
  unfold exchanged
  split_ifs <;> omega

/-- The permutation of components that **exchanges** those of two tasks. -/
def exchange (n p q : Nat) : Equiv.Perm ComponentId where
  toFun c := ⟨exchanged n p q c.index⟩
  invFun c := ⟨exchanged n q p c.index⟩
  left_inv c := congrArg ComponentId.mk (exchanged_exchanged n p q c.index)
  right_inv c := congrArg ComponentId.mk (exchanged_exchanged n q p c.index)

/-- What was there before both tasks is not exchanged. -/
theorem exchange_of_lt {n p q : Nat} (h : c.index < n) : exchange n p q c = c :=
  congrArg ComponentId.mk (if_pos h)

variable {left right both both' : SchemaSet}

/-- What the first task has left behind is moved like what comes **after** the other task. -/
theorem exchange_eq_shift (hleft : set.size ≤ left.size) (hc : c.index < left.size) :
    exchange set.size (left.size - set.size) (right.size - set.size) c = shift set right c := by
  show (⟨exchanged _ _ _ c.index⟩ : ComponentId) = _
  unfold exchanged shift
  split
  · rfl
  · rw [if_pos (by omega)]

/-- What the second task has left behind is moved **back** to where it is without the first one. -/
theorem exchange_shift (hc : c.index < right.size) :
    exchange set.size (left.size - set.size) (right.size - set.size) (shift set left c) = c := by
  by_cases hold : c.index < set.size
  · rw [shift_of_lt hold, exchange_of_lt hold]
  · unfold shift
    rw [if_neg hold]
    refine congrArg ComponentId.mk ?_
    dsimp only
    unfold exchanged
    rw [if_neg (by omega), if_neg (by omega), if_pos (by omega)]
    omega

namespace Task

/-- All that stood there before a task, apart from what it fills, is **left alone**. -/
theorem kept_after (hset : set.Loaded allowed) (hindexed : set.Indexed)
    (hleft : SchemaSet.Spares (a.About set) set left) (hb : b.2.index < set.size)
    (hboth : (Task.after b hset hindexed hleft).Mirrors right both) (hc : c.index < left.size)
    (hne : c ≠ b.2) : both.component c = left.component c := by
  refine hboth.spares'.kept c ?_
  rintro ⟨d, rfl | hbeyond, hshift⟩
  · exact hne (hshift.symm.trans (shift_of_lt hb))
  · -- what is added stands behind it
    change shift set left d = c at hshift
    have hsize := hleft.size
    rw [← hshift, shift, if_neg (Nat.not_lt.2 hbeyond)] at hc
    dsimp only at hc
    omega

/-- The second task adds as much as it would on its own. -/
theorem size_after (hset : set.Loaded allowed) (hindexed : set.Indexed)
    (hleft : SchemaSet.Spares (a.About set) set left)
    (hboth : (Task.after b hset hindexed hleft).Mirrors right both) :
    both.size = right.size + (left.size - set.size) := by
  have hend : shift set left ⟨right.size⟩ = ⟨both.size⟩ := hboth.size 0
  have hsize : set.size ≤ right.size := hboth.spares.size
  rw [shift, if_neg (Nat.not_lt.2 hsize)] at hend
  exact (congrArg ComponentId.index hend).symm

section

variable (hset : set.Loaded allowed) (hindexed : set.Indexed)
  (hleft : SchemaSet.Spares (a.About set) set left)
  (hright : SchemaSet.Spares (b.About set) set right)
  (hboth : (Task.after b hset hindexed hleft).Mirrors right both)
  (hboth' : (Task.after a hset hindexed hright).Mirrors left both')

include hset hindexed hleft hright hboth hboth'

/-- A component that neither of two tasks is about is **the same** after both of them. -/
theorem component_neither (ha : a.2.index < set.size) (hb : b.2.index < set.size)
    (habout : ¬ a.About set c) (hcb : c ≠ b.2) : both'.component c = both.component c := by
  have hold : c.index < set.size := Nat.lt_of_not_le fun hbeyond => habout (.inr hbeyond)
  have hright_kept : right.component c = set.component c := by
    refine hright.kept c ?_
    rintro (hcb' | hbeyond)
    · exact hcb hcb'
    · exact Nat.not_le.2 hold hbeyond
  have hboth_kept : both.component c = left.component c :=
    kept_after hset hindexed hleft hb hboth (Nat.lt_of_lt_of_le hold hleft.size) hcb
  have hboth_kept' : both'.component c = right.component c :=
    kept_after hset hindexed hright ha hboth' (Nat.lt_of_lt_of_le hold hright.size)
      fun hca => habout (.inl hca)
  rw [hboth_kept, hboth_kept', hright_kept, hleft.kept c habout]

/-- What the second task is about is moved back to where that task **leaves it on its own**. -/
theorem component_second (hloaded' : right.Loaded allowed) (ha : a.2.index < set.size)
    (habout : b.About set c) (hlt : c.index < right.size) (hca : c ≠ a.2) :
    both'.component (exchange set.size (left.size - set.size) (right.size - set.size)
        (shift set left c)) =
      (both.component (shift set left c)).rename
        (exchange set.size (left.size - set.size) (right.size - set.size)) := by
  have hmoved : both.component (shift set left c) =
      (right.component c).rename (shift set left) := hboth.component c habout
  rw [exchange_shift hlt, kept_after hset hindexed hright ha hboth' hlt hca, hmoved,
    Component.rename_rename]
  refine Eq.trans (Component.rename_id _).symm (hloaded'.rename_congr (fun d hd => ?_) c)
  exact (exchange_shift hd).symm

/-- After two tasks, every component stands **where the exchange moves it**. -/
theorem component_exchange (hloaded : left.Loaded allowed) (hloaded' : right.Loaded allowed)
    (ha : a.2.index < set.size) (hb : b.2.index < set.size) (hne : a.2 ≠ b.2) (c : ComponentId) :
    both'.component (exchange set.size (left.size - set.size) (right.size - set.size) c) =
      (both.component c).rename
        (exchange set.size (left.size - set.size) (right.size - set.size)) := by
  have hleft_size := hleft.size
  have hsize := size_after hset hindexed hleft hboth
  have hsize' := size_after hset hindexed hright hboth'
  have hsecond {d : ComponentId} (hd : b.About set d) (hlt : d.index < right.size)
      (hda : d ≠ a.2) := component_second hset hindexed hleft hright hboth hboth' hloaded' ha hd
    hlt hda
  -- the cases go by who has left the component: either task, both, or none
  by_cases hlt : c.index < left.size
  · by_cases hcb : c = b.2
    · subst hcb
      have hright_size : set.size ≤ right.size := hright.size
      have hback := hsecond (.inl rfl) (Nat.lt_of_lt_of_le hb hright_size) hne.symm
      rwa [shift_of_lt hb] at hback
    · by_cases habout : a.About set c
      · have hmoved : both'.component (shift set right c) =
            (left.component c).rename (shift set right) := hboth'.component c habout
        rw [exchange_eq_shift hleft_size hlt,
          kept_after hset hindexed hleft hb hboth hlt hcb, hmoved]
        exact hloaded.rename_congr (fun d hd => (exchange_eq_shift hleft_size hd).symm) c
      · have hold : c.index < set.size := Nat.lt_of_not_le fun hbeyond => habout (.inr hbeyond)
        have hsame : both.component c = set.component c :=
          (kept_after hset hindexed hleft hb hboth hlt hcb).trans (hleft.kept c habout)
        rw [exchange_of_lt hold, component_neither hset hindexed hleft hright hboth hboth' ha hb
          habout hcb, hsame]
        refine Eq.trans (Component.rename_id _).symm (hset.rename_congr (fun d hd => ?_) c)
        exact (exchange_of_lt hd).symm
  · by_cases hend : c.index < both.size
    · -- the second task has added it, where it stands further to the front on its own
      have hback : shift set left ⟨c.index - (left.size - set.size)⟩ = c := by
        unfold shift
        dsimp only
        rw [if_neg (by omega)]
        exact congrArg ComponentId.mk (by omega)
      rw [← hback]
      refine hsecond (.inr ?_) ?_ ?_
      · dsimp only
        omega
      · dsimp only
        omega
      · rintro hca
        rw [← hca] at ha
        dsimp only at ha
        omega
    · have hbeyond : both'.size ≤ (exchange set.size (left.size - set.size)
          (right.size - set.size) c).index := by
        show _ ≤ exchanged _ _ _ c.index
        unfold exchanged
        split_ifs <;> omega
      rw [SchemaSet.component_of_size_le (Nat.not_lt.1 hend),
        SchemaSet.component_of_size_le hbeyond]
      rfl

/-- The sets after two tasks in either order **match**. -/
theorem matched_after (hloaded : left.Loaded allowed) (hloaded' : right.Loaded allowed)
    (ha : a.2.index < set.size) (hb : b.2.index < set.size) (hne : a.2 ≠ b.2) :
    SchemaSet.Matched (exchange set.size (left.size - set.size) (right.size - set.size)) both
      both' := by
  have hsize := size_after hset hindexed hleft hboth
  have hsize' := size_after hset hindexed hright hboth'
  have hleft_size := hleft.size
  have hright_size := hright.size
  refine ⟨hboth.spares'.indexed, hboth'.spares'.indexed, by omega,
    component_exchange hset hindexed hleft hright hboth hboth' hloaded hloaded' ha hb hne,
    fun c hc => ?initial, fun c hc => ?beyond, fun ns name wantType => ?found, fun ns => ?package⟩
  case initial => exact exchange_of_lt (Nat.lt_of_lt_of_le hc hset.grown.size)
  case beyond =>
    refine congrArg ComponentId.mk ?_
    unfold exchanged
    split_ifs <;> omega
  case found =>
    -- tasks fill what was declared, so references mean what they meant before both
    have hfound : both.findGlobal? ns name wantType = set.findGlobal? ns name wantType :=
      (hboth.spares'.found ns name wantType).trans (hleft.found ns name wantType)
    have hfound' : both'.findGlobal? ns name wantType = set.findGlobal? ns name wantType :=
      (hboth'.spares'.found ns name wantType).trans (hright.found ns name wantType)
    rw [hfound, hfound']
    cases hfind : set.findGlobal? ns name wantType with
    | none => rfl
    | some id =>
      exact congrArg some (exchange_of_lt (hindexed.index_lt_of_findGlobal? hfind)).symm
  case package =>
    have hpackage := (hboth.spares'.package ns).trans (hleft.package ns)
    have hpackage' := (hboth'.spares'.package ns).trans (hright.package ns)
    exact hpackage'.trans hpackage.symm

end

/-- A task after another one has the outcome that it has without it. -/
theorem alike_after (hset : set.Loaded allowed) (hindexed : set.Indexed)
    (hleft : SchemaSet.Spares (a.About set) set left) (hb : b.2.index < set.size)
    (hne : b.2 ≠ a.2) : (Task.after b hset hindexed hleft).Alike (fun _ _ => True)
      (b.step.run.run set) (b.step.run.run left) := by
  have hplace : shift set left b.2 = b.2 := shift_of_lt hb
  have halike := Mirror.mirroring_fill (M := Task.after b hset hindexed hleft) (.inl rfl) b.1 set
    left (mirrors_after hset hindexed hleft hb hne)
  change Mirror.Alike _ _ (b.step.run.run set) ((b.1.fill (shift set left b.2)).run.run left)
    at halike
  rw [hplace] at halike
  exact halike

end Task

/-! ## Many tasks -/

namespace Loading.Agree

variable {fixed : ComponentId → Prop} {r r' r'' : Except ManifestError Unit × SchemaSet}

/-- Runs that agree with a third one agree, fixing what both of them fix. -/
theorem trans (h : Agree fixed r r') (h' : Agree fixed r' r'') : Agree fixed r r'' := by
  cases h with
  | ok matched fixes =>
    cases h' with
    | ok matched' fixes' =>
      refine .ok (matched.trans matched') fun c hc => ?_
      rw [Equiv.trans_apply, fixes c hc, fixes' c hc]
  | error =>
    cases h' with
    | error => exact .error

/-- Fewer components may be claimed to be fixed. -/
theorem imp {more : ComponentId → Prop} (h : Agree fixed r r')
    (himp : ∀ c, more c → fixed c) : Agree more r r' := by
  cases h with
  | ok matched fixes => exact .ok matched fun c hc => fixes c (himp c hc)
  | error => exact .error

end Loading.Agree

namespace Loading

/-- Tasks are done from the first one on, up to the first that fails. -/
theorem run_fillAll_cons (t : Task) (rest : List Task) (set : SchemaSet) :
    (fillAll (t :: rest)).run.run set =
      match t.step.run.run set with
      | (.ok (), u) => (fillAll rest).run.run u
      | (.error e, u) => (.error e, u) := by
  show (t.step >>= fun _ => fillAll rest).run.run set = _
  rw [SchemaSet.run_bind]
  rcases t.step.run.run set with ⟨_ | ⟨⟩, u⟩ <;> rfl

/-- The first two tasks may be done in **either order**. -/
theorem agree_swap (hset : set.Loaded allowed) (hindexed : set.Indexed)
    (ha : a.2.index < set.size) (hb : b.2.index < set.size) (hne : a.2 ≠ b.2)
    {rest : List Task} (hrest : ∀ t ∈ rest, t.2.index < set.size) :
    Agree (fun c => c.index < set.size) ((fillAll (a :: b :: rest)).run.run set)
      ((fillAll (b :: a :: rest)).run.run set) := by
  have hafter (t : Task) (u : SchemaSet) : (fillAll (t :: rest)).run.run u = _ :=
    run_fillAll_cons t rest u
  rw [run_fillAll_cons, run_fillAll_cons]
  rcases hrun : a.step.run.run set with ⟨e | ⟨⟩, left⟩
  · -- the first task fails in either order
    rcases hrun' : b.step.run.run set with ⟨e' | ⟨⟩, right⟩
    · exact .error
    · have hright := Task.spares hindexed hrun'
      have halike := Task.alike_after hset hindexed hright ha hne
      rw [hrun] at halike
      dsimp only
      rw [hafter]
      generalize a.step.run.run right = r at halike ⊢
      cases halike
      exact .error
  · have hleft := Task.spares hindexed hrun
    have halike := Task.alike_after hset hindexed hleft hb hne.symm
    rcases hrun' : b.step.run.run set with ⟨e' | ⟨⟩, right⟩
    · rw [hrun'] at halike
      dsimp only
      rw [hafter]
      generalize b.step.run.run left = r at halike ⊢
      cases halike
      exact .error
    · have hright := Task.spares hindexed hrun'
      have halike' := Task.alike_after hset hindexed hright ha hne
      rw [hrun'] at halike
      rw [hrun] at halike'
      dsimp only
      rw [hafter, hafter]
      generalize b.step.run.run left = r at halike ⊢
      generalize a.step.run.run right = r' at halike' ⊢
      cases halike with
      | ok hboth =>
        cases halike' with
        | ok hboth' =>
          -- the other tasks are done in sets that match
          have hmatched := Task.matched_after hset hindexed hleft hright hboth
            hboth' (Task.loads ha hset _ _ hrun).1 (Task.loads hb hset _ _ hrun').1 ha hb hne
          have hmoved : rest.map (Task.moved (exchange set.size (left.size - set.size)
              (right.size - set.size))) = rest := by
            refine (List.map_congr_left fun t ht => ?_).trans (List.map_id rest)
            exact Prod.ext rfl (exchange_of_lt (hrest t ht))
          have hfill := hmatched.fillAll rest
          rw [hmoved] at hfill
          exact hfill.imp fun c hc => exchange_of_lt hc

/-- Declarations may be filled in **any order**. -/
theorem agree_perm {tasks tasks' : List Task} (hperm : tasks.Perm tasks')
    (hset : set.Loaded allowed) (hindexed : set.Indexed)
    (htargets : ∀ t ∈ tasks, t.2.index < set.size) (hnodup : (tasks.map Prod.snd).Nodup) :
    Agree (fun c => c.index < set.size) ((fillAll tasks).run.run set)
      ((fillAll tasks').run.run set) := by
  -- by induction on the permutation: only two neighbours are ever exchanged, and the rest runs from
  -- sets that match
  induction hperm generalizing set with
  | nil => exact .ok (.refl hindexed) fun _ _ => rfl
  | cons t hperm ih =>
    rw [run_fillAll_cons, run_fillAll_cons]
    rcases hrun : t.step.run.run set with ⟨e | ⟨⟩, u⟩
    · exact .error
    · have ht := htargets t List.mem_cons_self
      obtain ⟨hloaded, -, -⟩ := Task.loads ht hset _ _ hrun
      have hspares := Task.spares hindexed hrun
      have hrest := ih hloaded hspares.indexed
        (fun s hs => Nat.lt_of_lt_of_le (htargets s (.tail _ hs)) hspares.size)
        (List.nodup_cons.1 hnodup).2
      exact hrest.imp fun c hc => Nat.lt_of_lt_of_le hc hspares.size
  | swap b a rest =>
    refine agree_swap hset hindexed (htargets _ List.mem_cons_self)
      (htargets _ (.tail _ List.mem_cons_self)) (fun hsame => ?_)
      fun t ht => htargets t (.tail _ (.tail _ ht))
    refine (List.nodup_cons.1 hnodup).1 ?_
    rw [hsame]
    exact List.mem_cons_self
  | trans hperm hperm' ih ih' =>
    refine (ih hset hindexed htargets hnodup).trans (ih' hset hindexed ?_ ?_)
    · exact fun t ht => htargets t (hperm.symm.subset ht)
    · exact (hperm.map Prod.snd).nodup_iff.1 hnodup

end Loading

end SchemaBinding
