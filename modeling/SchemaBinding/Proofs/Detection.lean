import Mathlib.Data.Finset.Dedup
import Mathlib.Data.Finset.Erase
import Mathlib.Data.Finset.Insert
import SchemaBinding.Proofs.Frame.Resolver

/-! # Exact detection of cycles
A detector may be asked to enter nodes and to exit them in any order. Whatever it was asked, it
refuses exactly the nodes on its path, and the cycle that it shows then runs from the only entry of
the node to the top. An exit gives back what there was before the latest entry that is still to be
undone. A detector may also keep the nodes on its path in a set, to look them up there: the set and
the path stay **in step**, and nobody can tell the two detectors apart. -/

namespace SchemaBinding

variable {α : Type}

namespace CycleDetector

variable {d : CycleDetector α} {node : α} {lead since active : List α}

/-! ## The path -/

@[simp] theorem mem_path : node ∈ d.path ↔ node ∈ d.active := List.mem_reverse

/-- The path grows at its end. -/
theorem path_entered (d : CycleDetector α) (node : α) :
    (CycleDetector.mk (node :: d.active)).path = d.path ++ [node] := List.reverse_cons

/-- The cycle that a refused node **closes** on a path: it runs from the only entry of the node to
the top. -/
structure Closes (path : List α) (node : α) (cycle : Cycle α) : Prop where
  path_eq : cycle.path = path ++ [node]
  nodes_eq : ∃ lead since, path = lead ++ node :: since ∧ node ∉ lead ∧ node ∉ since ∧
    cycle.nodes = node :: since
  nodup : cycle.nodes.Nodup
  isSelfCycle_iff : cycle.isSelfCycle = true ↔ path.getLast? = some node

/-- Without duplicates, the cycle that a node closes is read off the path at its only entry. -/
theorem closes_of_append (hnodup : (lead ++ node :: since).Nodup) :
    Closes (lead ++ node :: since) node ⟨lead, node, since⟩ := by
  obtain ⟨-, hnodes, hapart⟩ := List.nodup_append.1 hnodup
  have hsince : node ∉ since := (List.nodup_cons.1 hnodes).1
  have hlead : node ∉ lead := fun h => hapart node h node List.mem_cons_self rfl
  refine ⟨rfl, ⟨lead, since, rfl, hlead, hsince, rfl⟩, hnodes, ?_⟩
  rw [Cycle.isSelfCycle, List.isEmpty_iff, List.getLast?_append_cons]
  -- the last of several nodes was entered since, and the node itself was not
  cases since with
  | nil => simp
  | cons next rest =>
    refine iff_of_false (List.cons_ne_nil next rest) fun h => hsince ?_
    rw [List.getLast?_cons_cons] at h
    exact List.mem_of_getLast? h

/-! ## Histories -/

/-- An **entry** in the history of a detector: a node that was entered, the detector as it was found
then, and whether the entry has been undone since. -/
structure Entry (α : Type) where
  node : α
  found : CycleDetector α
  undone : Bool := false

/-- Undoes the latest entry that has not been undone yet. The latest entry is the first one. -/
def undoLatest : List (Entry α) → List (Entry α)
  | [] => []
  | entry :: earlier =>
    if entry.undone then entry :: undoLatest earlier
    else { entry with undone := true } :: earlier

/-- The latest entry that is still to be undone. -/
def pending? (history : List (Entry α)) : Option (Entry α) :=
  history.find? fun entry => !entry.undone

variable {history : List (Entry α)}

/-- The entries of a history that are still to be undone are **pending**: their nodes are the active
ones, and each was entered where the ones below it were active. -/
inductive Pending : List (Entry α) → List α → Prop
  | nil : Pending [] []
  | undone {entry : Entry α} {earlier : List (Entry α)} {active : List α}
      (undone : entry.undone = true) (rest : Pending earlier active) :
      Pending (entry :: earlier) active
  | entered {node : α} {earlier : List (Entry α)} {active : List α}
      (rest : Pending earlier active) :
      Pending (⟨node, ⟨active⟩, false⟩ :: earlier) (node :: active)

/-- An exit takes the node of the latest pending entry and gives back what that entry **found**. -/
theorem Pending.exit_eq (h : Pending history active) :
    exit ⟨active⟩ = (pending? history).map fun entry => (entry.node, entry.found) := by
  induction h with
  | nil => rfl
  | undone undone rest ih =>
    rw [ih, pending?, pending?, List.find?_cons_of_neg (by simp [undone])]
  | entered rest ih => rfl

/-- After the latest pending entry is undone, the ones below it are pending. -/
theorem Pending.undoLatest (h : Pending history active) :
    Pending (undoLatest history) (active.drop 1) := by
  induction h with
  | nil => exact .nil
  | undone undone rest ih =>
    rw [CycleDetector.undoLatest, if_pos undone]
    exact .undone undone ih
  | entered rest ih => exact .undone rfl rest

end CycleDetector

/-! ## Calls -/

/-- A **call** of a detector. -/
inductive DetectorCall (α : Type) where
  | enter (node : α)
  | exit
  deriving DecidableEq

namespace CycleDetector

variable [DecidableEq α] {d : CycleDetector α} {node : α} {lead since : List α}
  {history : List (Entry α)}

/-- The detector after a call. -/
def after (d : CycleDetector α) : DetectorCall α → CycleDetector α
  | .enter node =>
    match d.enter node with
    | .ok entered => entered
    | .error _ => d
  | .exit =>
    match d.exit with
    | some (_, left) => left
    | none => d

/-- The history goes on with a call: a node that is entered is a new entry, and an exit undoes one
that there is. -/
def record (d : CycleDetector α) (history : List (Entry α)) : DetectorCall α → List (Entry α)
  | .enter node =>
    match d.enter node with
    | .ok _ => ⟨node, d, false⟩ :: history
    | .error _ => history
  | .exit => undoLatest history

/-- The detector that calls **reach**, one after the other. -/
def reached (calls : List (DetectorCall α)) : CycleDetector α := calls.foldl after {}

/-- The history of calls from a detector on. -/
def historyFrom : CycleDetector α → List (Entry α) → List (DetectorCall α) → List (Entry α)
  | _, history, [] => history
  | d, history, call :: calls => historyFrom (d.after call) (d.record history call) calls

/-- To enter an active node changes nothing: the detector refuses it. -/
theorem after_enter_of_mem (h : node ∈ d.active) : d.after (.enter node) = d := by
  obtain ⟨cycle, hcycle⟩ := enter_of_mem h
  simp only [after, hcycle]

/-- To enter any other node makes it active. -/
theorem after_enter_of_notMem (h : node ∉ d.active) :
    d.after (.enter node) = ⟨node :: d.active⟩ := by
  simp only [after, enter_of_notMem h]

/-- An exit leaves the node entered last. -/
theorem after_exit (d : CycleDetector α) : d.after .exit = d.leave := by
  obtain ⟨active⟩ := d
  cases active <;> rfl

/-- No call brings a node to the path **twice**. -/
theorem nodup_after (h : d.active.Nodup) (call : DetectorCall α) : (d.after call).active.Nodup := by
  cases call with
  | enter node =>
    by_cases hnode : node ∈ d.active
    · rwa [after_enter_of_mem hnode]
    · rw [after_enter_of_notMem hnode]
      exact List.nodup_cons.2 ⟨hnode, h⟩
  | exit =>
    rw [after_exit]
    exact h.sublist (List.drop_sublist 1 d.active)

/-- A call leaves the active nodes **pending**. -/
theorem Pending.record (h : Pending history d.active) (call : DetectorCall α) :
    Pending (d.record history call) (d.after call).active := by
  cases call with
  | enter node =>
    by_cases hnode : node ∈ d.active
    · obtain ⟨cycle, hcycle⟩ := enter_of_mem hnode
      rw [after_enter_of_mem hnode]
      simpa only [CycleDetector.record, hcycle] using h
    · rw [after_enter_of_notMem hnode]
      simpa only [CycleDetector.record, enter_of_notMem hnode] using h.entered
  | exit =>
    rw [after_exit]
    exact h.undoLatest

/-- Calls keep the pending entries of a history pending. -/
theorem Pending.historyFrom (h : Pending history d.active) (calls : List (DetectorCall α)) :
    Pending (d.historyFrom history calls) (calls.foldl after d).active := by
  induction calls generalizing d history with
  | nil => exact h
  | cons call calls ih => exact ih (h.record call)

/-! ## What a detector shows -/

/-- A node on the path is refused with the cycle from its **first** entry. -/
theorem enter_of_path_eq_append (hpath : d.path = lead ++ node :: since) (hlead : node ∉ lead) :
    d.enter node = .error ⟨lead, node, since⟩ := by
  have hactive : d.isActive node = true := isActive_iff.2 (mem_path.1 (by simp [hpath]))
  -- the search for the node passes over all that was entered before it
  have hbefore : ∀ a ∈ lead, decide (a ≠ node) = true := fun a ha =>
    decide_eq_true fun h => hlead (h ▸ ha)
  unfold enter
  rw [if_pos hactive, hpath, List.takeWhile_append_of_pos hbefore,
    List.dropWhile_append_of_pos hbefore, List.takeWhile_cons_of_neg (by simp),
    List.dropWhile_cons_of_neg (by simp), List.append_nil, List.drop_one, List.tail_cons]

/-- What a detector with a history **shows** to its caller. -/
structure Exact (d : CycleDetector α) (history : List (Entry α)) : Prop where
  /-- No node is on the path twice. -/
  nodup : d.path.Nodup
  /-- The nodes on the path are the active ones. -/
  isActive : ∀ node, d.isActive node = true ↔ node ∈ d.path
  /-- A node that is not on the path is entered at its top. -/
  enters : ∀ node ∉ d.path, ∃ entered, d.enter node = .ok entered ∧
    d.after (.enter node) = entered ∧ entered.path = d.path ++ [node]
  /-- A node on the path is refused, and nothing changes. -/
  refuses : ∀ node ∈ d.path, ∃ cycle, d.enter node = .error cycle ∧
    d.after (.enter node) = d ∧ Closes d.path node cycle
  /-- An exit answers with the node of the latest pending entry, and undoes that entry. -/
  exits : d.exit = (pending? history).map fun entry => (entry.node, entry.found)

/-- A detector shows what its history holds, as soon as its entries are pending and its nodes
distinct. -/
theorem exact_of_pending (hnodup : d.active.Nodup) (hpending : Pending history d.active) :
    d.Exact history where
  nodup := List.nodup_reverse.2 hnodup
  isActive node := isActive_iff.trans mem_path.symm
  enters node hnode := by
    have hinactive : node ∉ d.active := fun h => hnode (mem_path.2 h)
    exact ⟨_, enter_of_notMem hinactive, after_enter_of_notMem hinactive, path_entered d node⟩
  refuses node hnode := by
    have hactive : node ∈ d.active := mem_path.1 hnode
    obtain ⟨lead, since, hpath, hlead⟩ := List.eq_append_cons_of_mem hnode
    refine ⟨_, enter_of_path_eq_append hpath hlead, after_enter_of_mem hactive, ?_⟩
    rw [hpath]
    exact closes_of_append (hpath ▸ List.nodup_reverse.2 hnodup)
  exits := hpending.exit_eq

end CycleDetector

/-! ## A set beside the path -/

/-- A cycle as a **slice** of a path: the path ends with the node that is entered again, and the
slice starts where that node was entered first. -/
structure CycleSlice (α : Type) where
  path : List α
  start : Nat

namespace CycleSlice

/-- The nodes from the start on, without the last one. -/
def nodes (c : CycleSlice α) : List α := (c.path.take (c.path.length - 1)).drop c.start

/-- Whether the node leads directly to itself. -/
def isSelfCycle (c : CycleSlice α) : Bool := c.path.length - c.start == 2

/-- A slice **shows** a cycle; it lies within its path. -/
structure Shows (slice : CycleSlice α) (cycle : Cycle α) : Prop where
  path_eq : slice.path = cycle.path
  start_lt : slice.start < slice.path.length - 1
  nodes_eq : slice.nodes = cycle.nodes
  isSelfCycle_eq : slice.isSelfCycle = cycle.isSelfCycle

/-- The path of a cycle, sliced at its lead, shows the cycle. -/
theorem shows_of_start (cycle : Cycle α) : Shows ⟨cycle.path, cycle.lead.length⟩ cycle := by
  have hlength : cycle.path.length = cycle.lead.length + (cycle.since.length + 2) := by
    simp [Cycle.path]
  have hbut : cycle.path.length - 1 = (cycle.lead ++ cycle.node :: cycle.since).length := by
    simp [Cycle.path]
  refine ⟨rfl, ?_, ?_, ?_⟩
  · dsimp only
    omega
  · rw [nodes, hbut, Cycle.path, List.take_left, List.drop_left, Cycle.nodes]
  · rw [isSelfCycle, hlength, Nat.add_sub_cancel_left, Cycle.isSelfCycle, Bool.eq_iff_iff,
      beq_iff_eq, List.isEmpty_iff_length_eq_zero]
    omega

end CycleSlice

/-- A **marked path**: the nodes that are entered, in the order of their entry, and the set of
them. -/
structure MarkedPath (α : Type) where
  marked : Finset α := ∅
  stack : List α := []

namespace MarkedPath

variable [DecidableEq α]

/-- Whether a node is entered. -/
def isActive (m : MarkedPath α) (node : α) : Bool := node ∈ m.marked

/-- Enters a node, or shows the cycle that it would close. -/
def enter (m : MarkedPath α) (node : α) : Except (CycleSlice α) Unit × MarkedPath α :=
  if m.isActive node then
    (.error ⟨m.stack ++ [node], (m.stack.idxOf? node).getD 0⟩, m)
  else (.ok (), ⟨insert node m.marked, m.stack ++ [node]⟩)

/-- Exits the node entered last. -/
def exit (m : MarkedPath α) : Option α × MarkedPath α :=
  match m.stack.getLast? with
  | none => (none, m)
  | some node => (some node, ⟨m.marked.erase node, m.stack.dropLast⟩)

/-- The marked path after a call. -/
def after (m : MarkedPath α) : DetectorCall α → MarkedPath α
  | .enter node => (m.enter node).2
  | .exit => m.exit.2

/-- The marked path that calls **reach**, one after the other. -/
def reached (calls : List (DetectorCall α)) : MarkedPath α := calls.foldl after {}

/-- A marked path is **in step** with a detector: they hold the same nodes, and answer alike
whatever they are asked next. -/
structure InStep (m : MarkedPath α) (d : CycleDetector α) : Prop where
  stack_eq : m.stack = d.path
  mem_marked : ∀ node, node ∈ m.marked ↔ node ∈ m.stack
  isActive : ∀ node, m.isActive node = d.isActive node
  enters : ∀ node entered, d.enter node = .ok entered → (m.enter node).1 = .ok ()
  refuses : ∀ node cycle, d.enter node = .error cycle →
    ∃ slice, m.enter node = (.error slice, m) ∧ slice.Shows cycle
  exits : m.exit.1 = d.exit.map Prod.fst

end MarkedPath

namespace CycleDetector

variable [DecidableEq α] {d : CycleDetector α} {node : α}

/-- The path of a detector with its nodes **marked**. -/
def marked (d : CycleDetector α) : MarkedPath α := ⟨d.path.toFinset, d.path⟩

/-- The marked nodes are the active ones. -/
theorem mem_marked : node ∈ d.marked.marked ↔ node ∈ d.active :=
  List.mem_toFinset.trans mem_path

/-- The set answers whether a node is entered as the stack does. -/
theorem isActive_marked (d : CycleDetector α) (node : α) :
    d.marked.isActive node = d.isActive node := by
  rw [Bool.eq_iff_iff, isActive_iff, MarkedPath.isActive, decide_eq_true_iff, mem_marked]

/-- A node is **entered** in both. -/
theorem enter_marked_of_notMem (h : node ∉ d.active) :
    d.marked.enter node = (.ok (), (d.after (.enter node)).marked) := by
  have hactive : ¬ d.marked.isActive node = true := by rwa [isActive_marked, isActive_iff]
  have hmarked : insert node d.path.toFinset = (d.path ++ [node]).toFinset := by
    ext other
    rw [Finset.mem_insert, List.mem_toFinset, List.mem_toFinset, List.mem_append,
      List.mem_singleton, or_comm]
  rw [MarkedPath.enter, if_neg hactive, after_enter_of_notMem h]
  simp only [marked, path_entered, hmarked]

/-- A node is **refused** in both, with the same cycle. -/
theorem enter_marked_of_mem (h : node ∈ d.active) :
    ∃ cycle slice, d.enter node = .error cycle ∧ d.marked.enter node = (.error slice, d.marked) ∧
      slice.Shows cycle := by
  obtain ⟨lead, since, hpath, hlead⟩ := List.eq_append_cons_of_mem (mem_path.2 h)
  have hactive : d.marked.isActive node = true := by rwa [isActive_marked, isActive_iff]
  have hstart : d.path.idxOf? node = some lead.length := by
    rw [hpath, List.idxOf?_eq_some_iff]
    refine ⟨by simp, by simp, fun j hj heq => hlead ?_⟩
    rw [List.getElem_append_left hj] at heq
    exact heq ▸ List.getElem_mem hj
  refine ⟨_, ⟨d.path ++ [node], lead.length⟩, enter_of_path_eq_append hpath hlead, ?_, ?_⟩
  · rw [MarkedPath.enter, if_pos hactive]
    simp only [marked, hstart, Option.getD_some]
  · rw [hpath]
    exact CycleSlice.shows_of_start ⟨lead, node, since⟩

/-- Both **exit** the same node. -/
theorem exit_marked (hnodup : d.active.Nodup) :
    d.marked.exit = (d.exit.map Prod.fst, (d.after .exit).marked) := by
  obtain ⟨active⟩ := d
  cases active with
  | nil => rfl
  | cons top below =>
    -- the top is on the path once, so its mark can go
    have htop : top ∉ below := (List.nodup_cons.1 hnodup).1
    have herase : ((CycleDetector.mk below).path ++ [top]).toFinset.erase top =
        (CycleDetector.mk below).path.toFinset := by
      ext node
      rw [Finset.mem_erase, List.mem_toFinset, List.mem_toFinset, List.mem_append,
        List.mem_singleton, mem_path]
      constructor
      · exact fun h => h.2.resolve_right h.1
      · exact fun h => ⟨fun heq => htop (heq ▸ h), .inl h⟩
    rw [MarkedPath.exit]
    simp only [marked, path_entered ⟨below⟩ top, List.getLast?_concat, List.dropLast_concat, herase]
    rfl

/-- A call keeps a marked path **in step**. -/
theorem after_marked (hnodup : d.active.Nodup) (call : DetectorCall α) :
    d.marked.after call = (d.after call).marked := by
  cases call with
  | enter node =>
    by_cases hnode : node ∈ d.active
    · obtain ⟨cycle, slice, -, hslice, -⟩ := enter_marked_of_mem hnode
      rw [after_enter_of_mem hnode]
      exact congrArg Prod.snd hslice
    · exact congrArg Prod.snd (enter_marked_of_notMem hnode)
  | exit => exact congrArg Prod.snd (exit_marked hnodup)

/-- Marking the nodes of a detector puts the two in step, as long as no node is active twice. -/
theorem inStep_marked (hnodup : d.active.Nodup) : d.marked.InStep d where
  stack_eq := rfl
  mem_marked node := List.mem_toFinset
  isActive node := isActive_marked d node
  enters node entered henter := by
    by_cases hnode : node ∈ d.active
    · obtain ⟨cycle, hcycle⟩ := enter_of_mem hnode
      rw [hcycle] at henter
      cases henter
    · exact congrArg Prod.fst (enter_marked_of_notMem hnode)
  refuses node cycle henter := by
    by_cases hnode : node ∈ d.active
    · obtain ⟨cycle', slice, hcycle, hslice, hshows⟩ := enter_marked_of_mem hnode
      rw [henter] at hcycle
      cases hcycle
      exact ⟨slice, hslice, hshows⟩
    · rw [enter_of_notMem hnode] at henter
      cases henter
  exits := congrArg Prod.fst (exit_marked hnodup)

/-- Calls keep a path without repetitions, and the marked path beside it. -/
theorem foldl_after (hnodup : d.active.Nodup) (calls : List (DetectorCall α)) :
    (calls.foldl after d).active.Nodup ∧
      calls.foldl MarkedPath.after d.marked = (calls.foldl after d).marked := by
  -- call by call; the set stays in step because no node is on the path twice
  induction calls generalizing d with
  | nil => exact ⟨hnodup, rfl⟩
  | cons call calls ih =>
    rw [List.foldl_cons, List.foldl_cons, after_marked hnodup]
    exact ih (nodup_after hnodup call)

/-- Detectors are **exact** whatever they have been asked: they refuse the nodes on their path and
no others, show the cycle from the only entry of a refused node, and undo entries from the latest
on; and a set of the nodes on the path stays in step with it. -/
theorem exact_reached (calls : List (DetectorCall α)) :
    (reached calls).Exact (historyFrom {} [] calls) ∧
      (MarkedPath.reached calls).InStep (reached calls) := by
  obtain ⟨hnodup, hmarked⟩ := foldl_after (d := {}) List.nodup_nil calls
  have hpending : Pending (historyFrom {} [] calls) (reached calls).active :=
    Pending.historyFrom (d := {}) .nil calls
  have hreached : MarkedPath.reached calls = (reached calls).marked := hmarked
  rw [hreached]
  exact ⟨exact_of_pending hnodup hpending, inStep_marked hnodup⟩

end CycleDetector

end SchemaBinding
