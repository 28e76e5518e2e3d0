import SchemaBinding.Proofs.Reordering.Matched

/-! # Declaring and filling
Loading a manifest takes two passes. The first one cannot fail: it leaves the components of all
declarations behind, one after the other, as they are before they are filled. The second one is to
fill them in the same order. -/

namespace SchemaBinding

variable {set : SchemaSet} {d : Declaration} {ds : List Declaration} {ns sourceName : String}

/-! ## The declarations of a manifest -/

/-- The declarations of a schema in the order in which they are declared. -/
def SchemaEntry.declarations (schema : SchemaEntry) (sourceName : String) : List Declaration :=
  let document := schema.location.getD sourceName
  schema.simpleTypes.map (fun entry => ⟨schema.ns, document, .simpleType entry⟩) ++
    schema.complexTypes.map (fun entry => ⟨schema.ns, document, .complexType entry⟩) ++
      schema.elements.map (fun entry => ⟨schema.ns, document, .element entry⟩)

/-- The declarations of a manifest in the order in which they are declared. -/
def Manifest.declarations (m : Manifest) (sourceName : String) : List Declaration :=
  m.schemas.flatMap fun schema => schema.declarations sourceName

/-! ## Sets with new declarations -/

namespace SchemaSet

/-- To change a component that was just added is to add it changed. -/
theorem modifyComponent_insert (set : SchemaSet) {c : Component} {f : Component → Component}
    (hns : (f c).ns = c.ns) (hglobal : (f c).isGlobal = c.isGlobal) :
    (set.insert c).2.modifyComponent ⟨set.size⟩ f = (set.insert (f c)).2 := by
  unfold insert modifyComponent modifySchema
  dsimp only
  rw [hns, hglobal]
  congr 1
  refine Array.ext (by simp) fun i hi _ => ?_
  rw [Array.getElem_modify, Array.getElem_push, Array.getElem_push]
  have hi' : i < set.components.size + 1 := by simpa using hi
  unfold size
  split <;> split <;> first | rfl | omega

/-- The set with more declarations, which are not filled as yet. -/
def declaring (set : SchemaSet) (ds : List Declaration) : SchemaSet :=
  ds.foldl (fun set d => (set.insert d.placeholder).2) set

/-- Declarations in a row are declared one list after the other. -/
theorem declaring_append (set : SchemaSet) (ds es : List Declaration) :
    set.declaring (ds ++ es) = (set.declaring ds).declaring es := List.foldl_append

@[simp] theorem size_declaring (set : SchemaSet) (ds : List Declaration) :
    (set.declaring ds).size = set.size + ds.length := by
  induction ds generalizing set with
  | nil => rfl
  | cons d rest ih =>
    show ((set.insert d.placeholder).2.declaring rest).size = _
    rw [ih, size_insert, List.length_cons]
    omega

/-- What is declared stands behind what was there, in order. -/
theorem components_declaring (set : SchemaSet) (ds : List Declaration) :
    (set.declaring ds).components.toList =
      set.components.toList ++ ds.map Declaration.placeholder := by
  induction ds generalizing set with
  | nil => exact (List.append_nil _).symm
  | cons d rest ih =>
    show ((set.insert d.placeholder).2.declaring rest).components.toList = _
    rw [ih]
    show (set.components.push d.placeholder).toList ++ _ = _
    rw [Array.toList_push, List.append_assoc]
    rfl

/-- Declaring keeps a set indexed. -/
theorem Indexed.declaring (h : set.Indexed) (ds : List Declaration) :
    (set.declaring ds).Indexed := by
  induction ds generalizing set with
  | nil => exact h
  | cons d rest ih => exact ih (h.insert d.placeholder)

/-- Declaring names no package. -/
theorem package_declaring (set : SchemaSet) (ds : List Declaration) (ns : String) :
    ((set.declaring ds).schema? ns).bind Schema.package =
      (set.schema? ns).bind Schema.package := by
  induction ds generalizing set with
  | nil => rfl
  | cons d rest ih => exact (ih _).trans (package_insert set d.placeholder ns)

end SchemaSet

/-- A set in which a schema is **opened**: it is located, and its package is named. -/
def SchemaEntry.opened (schema : SchemaEntry) (sourceName : String) (set : SchemaSet) :
    SchemaSet :=
  let located := set.modifySchema schema.ns fun s =>
    { s with locator := some { systemId := some (schema.location.getD sourceName) } }
  match schema.package with
  | some name => located.modifySchema schema.ns fun s => { s with package := some name }
  | none => located

namespace SchemaSet

/-- Opening a schema names its package, unless it names none; all other packages stay. -/
theorem package_opened (set : SchemaSet) (schema : SchemaEntry) (sourceName ns : String) :
    ((schema.opened sourceName set).schema? ns).bind Schema.package =
      if ns = schema.ns then schema.package.or ((set.schema? ns).bind Schema.package)
      else (set.schema? ns).bind Schema.package := by
  let locate (s : Schema) : Schema :=
    { s with locator := some { systemId := some (schema.location.getD sourceName) } }
  have hlocated : ((set.modifySchema schema.ns locate).schema? ns).bind Schema.package =
      (set.schema? ns).bind Schema.package := by
    rw [schema?_modifySchema set schema.ns (f := locate) fun _ => rfl]
    split
    · rename_i hns
      subst hns
      cases set.schema? schema.ns <;> rfl
    · rfl
  unfold SchemaEntry.opened
  cases schema.package with
  | none =>
    refine hlocated.trans ?_
    split <;> simp
  | some name =>
    dsimp only
    rw [schema?_modifySchema _ schema.ns (f := fun s => { s with package := some name })
      fun _ => rfl]
    split
    · rfl
    · exact hlocated

/-- Opening a schema keeps a set indexed. -/
theorem Indexed.opened (h : set.Indexed) (schema : SchemaEntry) (sourceName : String) :
    (schema.opened sourceName set).Indexed := by
  unfold SchemaEntry.opened
  have hlocated := h.modifySchema schema.ns (f := fun s =>
    { s with locator := some { systemId := some (schema.location.getD sourceName) } })
      fun _ => ⟨rfl, rfl⟩
  cases schema.package with
  | none => exact hlocated
  | some name =>
    exact hlocated.modifySchema schema.ns (f := fun s => { s with package := some name })
      fun _ => ⟨rfl, rfl⟩

@[simp] theorem components_opened (set : SchemaSet) (schema : SchemaEntry) (sourceName : String) :
    (schema.opened sourceName set).components = set.components := by
  unfold SchemaEntry.opened
  cases schema.package <;> rfl

end SchemaSet

/-! ## The first pass -/

/-- The positions of so many components from one on. -/
def ComponentId.following (first count : Nat) : List ComponentId :=
  (List.range' first count).map ComponentId.mk

/-- The tasks of filling declarations that stand one after the other. -/
def Declaration.tasks (first : Nat) (ds : List Declaration) : List Task :=
  ds.zip (ComponentId.following first ds.length)

namespace Loading

/-- A declaration is added with its line. -/
theorem run_declare_entry (set : SchemaSet) (c : Component) (document : String)
    (line : Option Nat) (hlocator : c.locator = none) :
    (do
      let id ← building (Builder.insert c)
      locate id document line
      return id : Loading ComponentId).run.run set =
        (.ok ⟨set.size⟩,
          (set.insert { c with locator := line.map (Locator.atLine document) }).2) := by
  cases line with
  | none =>
    rw [Option.map_none, ← hlocator]
    rfl
  | some line =>
    have hchanged := SchemaSet.modifyComponent_insert set (c := c)
      (f := fun c => { c with locator := some (.atLine document line) }) rfl rfl
    have hsize : (⟨set.size⟩ : ComponentId).index < (set.insert c).2.size := by
      rw [SchemaSet.size_insert]
      exact Nat.lt_succ_self _
    have hlocated : (locate ⟨set.size⟩ document (some line)).run.run (set.insert c).2 =
        (.ok (), _) := run_building (Builder.run_change hsize _)
    have hinsert : (building (Builder.insert c)).run.run set =
        (.ok (⟨set.size⟩ : ComponentId), (set.insert c).2) := rfl
    rw [Option.map_some, ← hchanged]
    exact (SchemaSet.run_bind_of_ok hinsert _).trans (SchemaSet.run_bind_of_ok hlocated _)

/-- Declarations are added **one after the other**. -/
theorem run_mapM_declare {α : Type} {step : α → Loading ComponentId} {f : α → Declaration}
    (hstep : ∀ a set, (step a).run.run set =
      (.ok ⟨set.size⟩, (set.insert (f a).placeholder).2)) (entries : List α) (set : SchemaSet) :
    (entries.mapM step).run.run set =
      (.ok (ComponentId.following set.size entries.length),
        set.declaring (entries.map f)) := by
  induction entries generalizing set with
  | nil => rfl
  | cons a rest ih =>
    rw [List.mapM_cons, SchemaSet.run_bind, hstep]
    dsimp only
    rw [SchemaSet.run_bind, ih, SchemaSet.size_insert]
    rfl

/-- The globals of a schema stand one after the other. -/
theorem run_declare (schema : SchemaEntry) (sourceName : String) (set : SchemaSet) :
    (declare sourceName schema).run.run set =
      (.ok
        ⟨ComponentId.following set.size schema.simpleTypes.length,
          ComponentId.following (set.size + schema.simpleTypes.length) schema.complexTypes.length,
          ComponentId.following
            (set.size + schema.simpleTypes.length + schema.complexTypes.length)
            schema.elements.length⟩,
        (schema.opened sourceName set).declaring (schema.declarations sourceName)) := by
  -- before the globals, the schema is opened: its locator, its package, the placeholder type
  have hlocated : (building (.schemaLocator schema.ns
      { systemId := some (schema.location.getD sourceName) })).run.run set =
        (.ok (), set.modifySchema schema.ns fun s =>
          { s with locator := some { systemId := some (schema.location.getD sourceName) } }) := rfl
  have hopened : (whenSome schema.package fun name => building (.package schema.ns name)).run.run
      (set.modifySchema schema.ns fun s =>
        { s with locator := some { systemId := some (schema.location.getD sourceName) } }) =
      (.ok (), schema.opened sourceName set) := by
    unfold SchemaEntry.opened
    cases schema.package <;> rfl
  have hplaceholder (u : SchemaSet) :
      (building (.builtin "anySimpleType")).run.run u = (.ok ⟨1⟩, u) := rfl
  have hsize : (schema.opened sourceName set).size = set.size :=
    congrArg Array.size (SchemaSet.components_opened set schema sourceName)
  unfold declare
  dsimp only
  refine (SchemaSet.run_bind_of_ok hlocated _).trans ((SchemaSet.run_bind_of_ok hopened _).trans
    ((SchemaSet.run_bind_of_ok (hplaceholder _) _).trans ?_))
  refine (SchemaSet.run_bind_of_ok (run_mapM_declare (f := fun entry =>
    ⟨schema.ns, schema.location.getD sourceName, .simpleType entry⟩)
      (fun entry u => run_declare_entry u _ _ _ rfl) _ _) _).trans ?_
  refine (SchemaSet.run_bind_of_ok (run_mapM_declare (f := fun entry =>
    ⟨schema.ns, schema.location.getD sourceName, .complexType entry⟩)
      (fun entry u => run_declare_entry u _ _ _ rfl) _ _) _).trans ?_
  refine (SchemaSet.run_bind_of_ok (run_mapM_declare (f := fun entry =>
    ⟨schema.ns, schema.location.getD sourceName, .element entry⟩)
      (fun entry u => run_declare_entry u _ _ _ rfl) _ _) _).trans ?_
  simp only [SchemaEntry.declarations, SchemaSet.declaring_append, SchemaSet.size_declaring,
    List.length_map, hsize]
  rfl

end Loading

/-- A set in which the declarations of some schemas are declared. -/
def SchemaSet.declared (set : SchemaSet) (sourceName : String) (schemas : List SchemaEntry) :
    SchemaSet :=
  schemas.foldl (fun set schema =>
    (schema.opened sourceName set).declaring (schema.declarations sourceName)) set

namespace SchemaSet

/-- The declarations of schemas stand behind what was there, one schema after the other. -/
theorem components_declared (set : SchemaSet) (sourceName : String)
    (schemas : List SchemaEntry) : (set.declared sourceName schemas).components.toList =
      set.components.toList ++ (schemas.flatMap fun schema =>
        schema.declarations sourceName).map Declaration.placeholder := by
  induction schemas generalizing set with
  | nil => exact (List.append_nil _).symm
  | cons schema rest ih =>
    show (((schema.opened sourceName set).declaring
      (schema.declarations sourceName)).declared sourceName rest).components.toList = _
    rw [ih, components_declaring, components_opened, List.flatMap_cons, List.map_append,
      List.append_assoc]

/-- Declaring schemas keeps a set indexed. -/
theorem Indexed.declared (h : set.Indexed) (sourceName : String) (schemas : List SchemaEntry) :
    (set.declared sourceName schemas).Indexed := by
  induction schemas generalizing set with
  | nil => exact h
  | cons schema rest ih => exact ih ((h.opened schema sourceName).declaring _)

/-- A namespace without a schema keeps its package. -/
theorem package_declared_of_not_mem (set : SchemaSet) (sourceName : String)
    {schemas : List SchemaEntry} (h : ∀ schema ∈ schemas, schema.ns ≠ ns) :
    ((set.declared sourceName schemas).schema? ns).bind Schema.package =
      (set.schema? ns).bind Schema.package := by
  induction schemas generalizing set with
  | nil => rfl
  | cons schema rest ih =>
    have hns := h schema List.mem_cons_self
    refine (ih _ fun other hother => h other (.tail _ hother)).trans ?_
    rw [package_declaring, package_opened, if_neg hns.symm]

/-- A namespace with one schema gets **the package of that schema**, if it names one. -/
theorem package_declared_of_mem (set : SchemaSet) (sourceName : String)
    {schemas : List SchemaEntry} (hnodup : (schemas.map SchemaEntry.ns).Nodup)
    {schema : SchemaEntry} (hmem : schema ∈ schemas) :
    ((set.declared sourceName schemas).schema? schema.ns).bind Schema.package =
      schema.package.or ((set.schema? schema.ns).bind Schema.package) := by
  induction schemas generalizing set with
  | nil => cases hmem
  | cons first rest ih =>
    obtain ⟨hfirst, hrest⟩ := List.nodup_cons.1 hnodup
    rcases List.mem_cons.1 hmem with rfl | hmem
    · have hothers : ∀ other ∈ rest, other.ns ≠ schema.ns :=
        fun other hother hns => hfirst (List.mem_map.2 ⟨other, hother, hns⟩)
      refine (package_declared_of_not_mem _ sourceName hothers).trans ?_
      rw [package_declaring, package_opened, if_pos rfl]
    · refine (ih _ hrest hmem).trans ?_
      rw [package_declaring, package_opened, if_neg]
      intro hns
      exact hfirst (List.mem_map.2 ⟨schema, hmem, hns⟩)

end SchemaSet

/-! ## The second pass -/

namespace Loading

/-- Tasks in a row are done one list after the other. -/
theorem fillAll_append (tasks more : List Task) :
    fillAll (tasks ++ more) = fillAll tasks >>= fun _ => fillAll more := List.forM_append

end Loading

/-- The tasks of a second list of declarations are about the positions behind those of the first. -/
theorem Declaration.tasks_append (first : Nat) (ds es : List Declaration) :
    Declaration.tasks first (ds ++ es) =
      Declaration.tasks first ds ++ Declaration.tasks (first + ds.length) es := by
  have hfollowing : ComponentId.following first (ds ++ es).length =
      ComponentId.following first ds.length ++
        ComponentId.following (first + ds.length) es.length := by
    unfold ComponentId.following
    rw [List.length_append, ← List.map_append, List.range'_append_1]
  unfold Declaration.tasks
  rw [hfollowing, List.zip_append]
  simp [ComponentId.following]

namespace Loading

/-- Entries are filled as their declarations are. -/
theorem forM_zip_eq_fillAll {α : Type} {decl : α → Declaration} (first : Nat)
    (entries : List α) :
    ((entries.zip (ComponentId.following first entries.length)).forM fun (a, id) =>
      (decl a).fill id) = fillAll (Declaration.tasks first (entries.map decl)) := by
  unfold fillAll Declaration.tasks
  rw [List.length_map, List.zip_map_left]
  generalize entries.zip (ComponentId.following first entries.length) = pairs
  induction pairs with
  | nil => rfl
  | cons pair rest ih => exact congrArg (((decl pair.1).fill pair.2) >>= fun _ => ·) ih

/-- The globals of a schema are **filled** as its declarations are. -/
theorem fill_eq_fillAll (schema : SchemaEntry) (sourceName : String) (first : Nat) :
    fill sourceName schema
      ⟨ComponentId.following first schema.simpleTypes.length,
        ComponentId.following (first + schema.simpleTypes.length) schema.complexTypes.length,
        ComponentId.following (first + schema.simpleTypes.length + schema.complexTypes.length)
          schema.elements.length⟩ =
      fillAll (Declaration.tasks first (schema.declarations sourceName)) := by
  unfold SchemaEntry.declarations
  dsimp only
  rw [Declaration.tasks_append, Declaration.tasks_append, fillAll_append, fillAll_append,
    bind_assoc, List.length_append, List.length_map, List.length_map, ← Nat.add_assoc,
    ← forM_zip_eq_fillAll, ← forM_zip_eq_fillAll, ← forM_zip_eq_fillAll]
  rfl

/-- All schemas are declared, and then their declarations are **filled in order**. -/
theorem run_schemas (sourceName : String) (schemas : List SchemaEntry) (set : SchemaSet) :
    ∃ globals, (schemas.mapM (declare sourceName)).run.run set =
        (.ok globals, set.declared sourceName schemas) ∧
      ((schemas.zip globals).forM fun (schema, globals) => fill sourceName schema globals) =
        fillAll (Declaration.tasks set.size
          (schemas.flatMap fun schema => schema.declarations sourceName)) := by
  induction schemas generalizing set with
  | nil => exact ⟨[], rfl, rfl⟩
  | cons schema rest ih =>
    have hsize : ((schema.opened sourceName set).declaring
        (schema.declarations sourceName)).size =
          set.size + (schema.declarations sourceName).length := by
      rw [SchemaSet.size_declaring]
      congr 1
      exact congrArg Array.size (SchemaSet.components_opened set schema sourceName)
    obtain ⟨globals, hrun, hfill⟩ := ih
      ((schema.opened sourceName set).declaring (schema.declarations sourceName))
    refine ⟨⟨ComponentId.following set.size schema.simpleTypes.length,
        ComponentId.following (set.size + schema.simpleTypes.length) schema.complexTypes.length,
        ComponentId.following (set.size + schema.simpleTypes.length + schema.complexTypes.length)
          schema.elements.length⟩ :: globals, ?_, ?_⟩
    · rw [List.mapM_cons]
      exact (SchemaSet.run_bind_of_ok (run_declare schema sourceName set) _).trans
        (SchemaSet.run_bind_of_ok hrun _)
    · rw [List.flatMap_cons, Declaration.tasks_append, fillAll_append, ← hsize, ← hfill,
        ← fill_eq_fillAll]
      rfl

/-- Loading a manifest is to **declare and then to fill** its declarations. -/
theorem run_manifest (m : Manifest) (sourceName : String) (set : SchemaSet) :
    (manifest sourceName m).run.run set =
      (fillAll (Declaration.tasks set.size (m.declarations sourceName))).run.run
        (set.declared sourceName m.schemas) := by
  obtain ⟨globals, hrun, hfill⟩ := run_schemas sourceName m.schemas set
  refine (SchemaSet.run_bind_of_ok hrun _).trans ?_
  rw [hfill]
  rfl

end Loading

end SchemaBinding
