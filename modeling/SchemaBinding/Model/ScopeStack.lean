import SchemaBinding.Model.Basic

/-! # Scope stacks
Where new classes are placed: a stack of scopes with the root at the bottom. The root can be neither
pushed nor popped. A stack carries the proof that the root is its last scope, and every operation
shows that it keeps the root there; that no other scope of it is the root is not part of the type,
since it only holds of the stacks that operations reach. -/

namespace SchemaBinding

/-- Misuse of a scope stack. -/
inductive ScopeError where
  /-- A scope was popped although none was pushed. -/
  | underflow
  /-- The root was pushed. -/
  | rootPushed
  /-- A bracket was closed at another depth than it was opened. -/
  | unbalanced (expected found : Nat)
  deriving DecidableEq, Repr

/-- The message of a scope error. -/
def ScopeError.message : ScopeError → String
  | underflow => "scope popped with nothing pushed"
  | rootPushed => "the root scope cannot be pushed"
  | unbalanced expected found =>
    "unbalanced scope stack: expected depth " ++ toString expected ++ ", found " ++ toString found

/-- A **scope stack**: all its scopes, from the innermost to the root. -/
structure ScopeStack where
  scopes : List Scope := [.root]
  /-- The outermost scope is the root. -/
  rooted : scopes.getLast? = some .root := by rfl
  deriving DecidableEq, Repr

namespace ScopeStack

instance : Inhabited ScopeStack := ⟨{}⟩

/-- The innermost scope. -/
def current (s : ScopeStack) : Scope := s.scopes.headD .root

/-- The number of scopes above the root. -/
def depth (s : ScopeStack) : Nat := s.scopes.length - 1

/-- Pushes a scope other than the root. -/
def push (s : ScopeStack) (scope : Scope) : Except ScopeError ScopeStack :=
  if scope = .root then .error .rootPushed
  else .ok
    { scopes := scope :: s.scopes
      rooted := by rw [List.getLast?_cons, s.rooted]; rfl }

/-- Pops the innermost scope, unless only the root is left. -/
def pop : ScopeStack → Except ScopeError (Scope × ScopeStack)
  | ⟨scope :: next :: rest, rooted⟩ =>
    .ok (scope, ⟨next :: rest, by rwa [List.getLast?_cons_cons] at rooted⟩)
  | _ => .error .underflow

/-- Pops the scope of a bracket that was opened at a depth; the stack must be exactly one scope
deeper. -/
def popTo (s : ScopeStack) (depth : Nat) : Except ScopeError ScopeStack :=
  if s.depth = depth + 1 then Prod.snd <$> s.pop else .error (.unbalanced (depth + 1) s.depth)

/-! ## Scopes above the root -/

/-- The **pushed** scopes, the innermost first. -/
def pushed (s : ScopeStack) : List Scope := s.scopes.dropLast

/-- The stack of scopes **above** the root. -/
def above (pushed : List Scope) : ScopeStack where
  scopes := pushed ++ [.root]
  rooted := List.getLast?_concat ..

variable {s : ScopeStack} {scope : Scope} {pushed : List Scope} {n : Nat}

/-- The scopes of a stack are what is pushed, and below it the root. -/
theorem scopes_eq (s : ScopeStack) : s.scopes = s.pushed ++ [.root] := by
  obtain ⟨scopes, hscopes⟩ := List.getLast?_eq_some_iff.1 s.rooted
  simp [ScopeStack.pushed, hscopes]

@[simp] theorem pushed_above (pushed : List Scope) : (above pushed).pushed = pushed :=
  List.dropLast_concat

/-- A stack is given by what is pushed. -/
@[simp] theorem above_pushed (s : ScopeStack) : above s.pushed = s := by
  have hscopes := (scopes_eq s).symm
  cases s
  unfold above
  congr 1

/-- Two stacks with the same scopes pushed are the same. -/
theorem eq_of_pushed {t : ScopeStack} (h : s.pushed = t.pushed) : s = t := by
  rw [← above_pushed s, h, above_pushed]

/-- The innermost scope is the last that was pushed; the root if none is. -/
theorem current_eq (s : ScopeStack) : s.current = s.pushed.headD .root := by
  rw [current, scopes_eq]
  cases s.pushed <;> rfl

/-- The depth counts what is pushed. -/
theorem depth_eq (s : ScopeStack) : s.depth = s.pushed.length := by
  simp [depth, scopes_eq]

@[simp] theorem depth_above (pushed : List Scope) : (above pushed).depth = pushed.length := by
  simp [depth_eq]

/-- A scope other than the root is pushed above all others. -/
theorem push_of_ne (h : scope ≠ .root) (s : ScopeStack) :
    s.push scope = .ok (above (scope :: s.pushed)) := by
  rw [push, if_neg h]
  simp [above, scopes_eq]

/-- Nothing can be popped when nothing is pushed. -/
theorem pop_of_nil (h : s.pushed = []) : s.pop = .error .underflow := by
  rw [← above_pushed s, h]
  rfl

/-- The innermost of the scopes that are pushed is popped. -/
theorem pop_of_cons (h : s.pushed = scope :: pushed) : s.pop = .ok (scope, above pushed) := by
  rw [← above_pushed s, h]
  cases pushed <;> rfl

/-- A bracket is closed by taking away the innermost scope. -/
theorem popTo_of_eq (h : s.depth = n + 1) : s.popTo n = .ok (above (s.pushed.drop 1)) := by
  rw [popTo, if_pos h]
  rw [depth_eq] at h
  obtain ⟨scope, rest, hpushed⟩ := List.exists_cons_of_length_eq_add_one h
  rw [pop_of_cons hpushed, hpushed]
  rfl

/-- A bracket is not closed at another depth. -/
theorem popTo_of_ne (h : s.depth ≠ n + 1) : s.popTo n = .error (.unbalanced (n + 1) s.depth) :=
  if_neg h

end ScopeStack

end SchemaBinding
