import ScopeScript.Expr.Basic
import ScopeScript.Proofs.Source.Shift

/-!
# Expressions at other places

Moving an expression changes its spans and nothing else. Expressions are equal up to their
spans if they are equal once all places are forgotten, that is, moved to one place.
-/

namespace ScopeScript

/-- A name at another place. -/
def Name.relocate (g : Location → Location) (n : Name) : Name := ⟨n.text, n.span.relocate g⟩

namespace Expr

mutual

/-- An expression whose places are moved by `g`. -/
def relocate (g : Location → Location) : Expr → Expr
  | number text s => .number text (s.relocate g)
  | string text s => .string text (s.relocate g)
  | symbol name s => .symbol name (s.relocate g)
  | operation op left right s => .operation op (left.relocate g) (right.relocate g) (s.relocate g)
  | call callee args s => .call (callee.relocate g) (relocateAll g args) (s.relocate g)
  | definition name params body s =>
    .definition (name.relocate g) (relocateAll g params) (relocateAll g body) (s.relocate g)
  | assignment target value s =>
    .assignment (target.relocate g) (value.relocate g) (s.relocate g)

/-- Several expressions whose places are moved. -/
def relocateAll (g : Location → Location) : List Expr → List Expr
  | [] => []
  | e :: rest => e.relocate g :: relocateAll g rest

end

mutual

/-- Places that stay leave the expression as it is. -/
theorem relocate_id : ∀ e : Expr, e.relocate id = e
  | number _ _ => rfl
  | string _ _ => rfl
  | symbol _ _ => rfl
  | operation _ left right s => by
    rw [relocate, relocate_id left, relocate_id right]
    rfl
  | call callee args _ => by
    rw [relocate, relocate_id callee, relocateAll_id args]
    rfl
  | definition _ params body _ => by
    rw [relocate, relocateAll_id params, relocateAll_id body]
    rfl
  | assignment _ value _ => by
    rw [relocate, relocate_id value]
    rfl

/-- Trees that are not moved stay the same. -/
theorem relocateAll_id : ∀ es : List Expr, relocateAll id es = es
  | [] => rfl
  | e :: rest => by rw [relocateAll, relocate_id e, relocateAll_id rest]

end

/-- The span of an expression moves with it. -/
theorem span_relocate (g : Location → Location) :
    ∀ e : Expr, (e.relocate g).span = e.span.relocate g
  | number _ _ => rfl
  | string _ _ => rfl
  | symbol _ _ => rfl
  | operation _ left right _ => by
    rw [relocate, span, span, span_relocate g left, span_relocate g right, Span.relocate_till]
  | call _ _ _ => rfl
  | definition _ _ _ _ => rfl
  | assignment _ _ _ => rfl

/-- An expression without its places. -/
def erase : Expr → Expr := relocate fun _ => ⟨0, 0⟩

/-- Several expressions without their places. -/
def eraseAll : List Expr → List Expr := relocateAll fun _ => ⟨0, 0⟩

/-- An operation without places. -/
theorem erase_operation (op : String) (left right : Expr) (s : Span) :
    (operation op left right s).erase = operation op left.erase right.erase .none := rfl

/-- A call without places. -/
theorem erase_call (callee : Expr) (args : List Expr) (s : Span) :
    (call callee args s).erase = call callee.erase (eraseAll args) .none := rfl

/-- A definition without places. -/
theorem erase_definition (name : Name) (params body : List Expr) (s : Span) :
    (definition name params body s).erase =
      definition ⟨name.text, .none⟩ (eraseAll params) (eraseAll body) .none := rfl

/-- An assignment without places. -/
theorem erase_assignment (target : Name) (value : Expr) (s : Span) :
    (assignment target value s).erase = assignment ⟨target.text, .none⟩ value.erase .none := rfl

/-- A list without places. -/
theorem eraseAll_cons (e : Expr) (es : List Expr) : eraseAll (e :: es) = e.erase :: eraseAll es :=
  rfl

end Expr

end ScopeScript
