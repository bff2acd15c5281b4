import ScopeScript.Text.Quoted
import ScopeScript.Value.Basic

/-!
# Scopes

A scope binds names to values and may lie in a parent scope. All scopes live in one heap that
only grows. The parent of a scope is chosen when the scope is made and is older than the
scope, so every chain of parents ends at a root.

Looking a name up walks outward and takes the innermost binding; binding always writes into
the scope it is asked of. Clearing a scope drops its bindings and keeps its place.
-/

namespace ScopeScript

/-- A scope: its own bindings, and the scope it lies in. -/
structure Scope where
  bindings : List (String × Value)
  parent : Option ScopeId
  deriving Inhabited

namespace Scope

/-- The value bound to a name in a list of bindings. -/
def get? (name : String) : List (String × Value) → Option Value
  | [] => none
  | (n, v) :: rest => if n = name then some v else get? name rest

/-- Bind a name, in place of its old binding if there is one. -/
def set (name : String) (value : Value) : List (String × Value) → List (String × Value)
  | [] => [(name, value)]
  | (n, v) :: rest => if n = name then (name, value) :: rest else (n, v) :: set name value rest

/-- Binding a name changes that name alone. -/
theorem get?_set (name other : String) (value : Value) (bindings : List (String × Value)) :
    get? other (set name value bindings) =
      if other = name then some value else get? other bindings := by
  induction bindings with
  | nil => simp [set, get?, eq_comm]
  | cons b rest ih => grind [set, get?]

/-- The bound names. -/
def names (s : Scope) : List String := s.bindings.map Prod.fst

end Scope

/-- All scopes, the oldest first. -/
structure Heap where
  scopes : Array Scope
  /-- A parent is older than its child. -/
  parent_lt : ∀ (i : Nat) (h : i < scopes.size) (p : ScopeId), scopes[i].parent = some p → p < i

namespace Heap

/-- The heap without scopes. -/
def empty : Heap := ⟨#[], by simp⟩

instance : Inhabited Heap := ⟨empty⟩

/-- Add a scope, with a parent that is there already. -/
def push (h : Heap) (s : Scope) (hs : ∀ p, s.parent = some p → p < h.scopes.size) : Heap where
  scopes := h.scopes.push s
  parent_lt i hi p hp := by
    rw [Array.getElem_push] at hp
    split at hp
    · exact h.parent_lt i ‹_› p hp
    · simp only [Array.size_push] at hi
      have : i = h.scopes.size := by omega
      exact this ▸ hs p hp

/-- Add a scope without a parent. -/
def newRoot (h : Heap) : Heap × ScopeId :=
  let i := h.scopes.size
  (h.push ⟨[], none⟩ (by simp), i)

/-- Add a scope that lies in `parent`. The heap has the scopes that programs are evaluated in and
those of their functions, so that none of the scopes made for programs is a root for want of its
parent. -/
def newChild (h : Heap) (parent : ScopeId) : Heap × ScopeId :=
  let i := h.scopes.size
  if hp : parent < i then (h.push ⟨[], some parent⟩ (by simpa using hp), i) else h.newRoot

/-- Change the bindings of one scope. -/
def update (h : Heap) (i : ScopeId) (f : List (String × Value) → List (String × Value)) :
    Heap where
  scopes := h.scopes.modify i fun s => ⟨f s.bindings, s.parent⟩
  parent_lt j hj p hp := by
    simp only [Array.size_modify] at hj
    rw [Array.getElem_modify] at hp
    split at hp <;> exact h.parent_lt j hj p hp

/-- Bind a name in the scope itself. -/
def bind (h : Heap) (i : ScopeId) (name : String) (value : Value) : Heap :=
  h.update i (Scope.set name value)

/-- Drop every binding of a scope. -/
def clear (h : Heap) (i : ScopeId) : Heap := h.update i fun _ => []

/-- The parent of a scope. -/
def parent? (h : Heap) (i : ScopeId) : Option ScopeId := h.scopes[i]?.bind Scope.parent

/-- The bindings of a scope. -/
def bindings (h : Heap) (i : ScopeId) : List (String × Value) :=
  (h.scopes[i]?.map Scope.bindings).getD []

/-- The first answer of `f` on the way from a scope outward. -/
def findOutward? {α : Type} (h : Heap) (f : ScopeId → Scope → Option α) (i : ScopeId) :
    Option α :=
  if hi : i < h.scopes.size then
    match f i h.scopes[i] with
    | some a => some a
    | none =>
      match hp : h.scopes[i].parent with
      | some p =>
        have := h.parent_lt i hi p hp
        h.findOutward? f p
      | none => none
  else none
termination_by i

/-- The innermost binding of a name, seen from a scope. -/
def lookup? (h : Heap) (i : ScopeId) (name : String) : Option Value :=
  h.findOutward? (fun _ s => Scope.get? name s.bindings) i

/-- Whether a scope is `outer` or lies in it, at any remove. -/
def isWithin (h : Heap) (i outer : ScopeId) : Bool :=
  (h.findOutward? (fun j _ => if j = outer then some () else none) i).isSome

/-- Whether two names, each seen from a scope, stand for equal values or both for none. -/
def agree (h : Heap) (i : ScopeId) (name : String) (j : ScopeId) (other : String) : Bool :=
  match h.lookup? i name, h.lookup? j other with
  | some v, some w => v.equal w
  | none, none => true
  | _, _ => false

/-- A scope and those around it, innermost first. -/
def chain (h : Heap) (i : ScopeId) : List ScopeId :=
  if hi : i < h.scopes.size then
    match hp : h.scopes[i].parent with
    | some p =>
      have := h.parent_lt i hi p hp
      i :: h.chain p
    | none => [i]
  else []
termination_by i

/-- How many scopes there are from a scope to its root, both counted. -/
def depth (h : Heap) (i : ScopeId) : Nat := (h.chain i).length

/-- The text of a scope: its own names in order, and its depth. -/
def scopeText (h : Heap) (i : ScopeId) : String :=
  let names := ((h.bindings i).map Prod.fst).mergeSort fun a b => decide (a ≤ b)
  "Env \x7b names: [" ++ ", ".intercalate (names.map quoted) ++ "], depth: " ++
    toString (h.depth i) ++ " \x7d"

mutual

/-- Whether a value is or contains a function whose captured scope lies in `scope`. -/
def captures (h : Heap) (scope : ScopeId) : Value → Bool
  | .function f => h.isWithin f.scope scope
  | .list items => capturesAny h scope items
  | _ => false

/-- Whether one of several values captures a scope. -/
def capturesAny (h : Heap) (scope : ScopeId) : List Value → Bool
  | [] => false
  | v :: rest => h.captures scope v || capturesAny h scope rest

end

end Heap

end ScopeScript
