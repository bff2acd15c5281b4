import ScopeScript.Source.Location

/-!
# Expressions

A program is a list of expressions. An operation keeps the span of its operator, the other
nodes keep their own; the span of an operation is that of its operands and all between them.
The parameters of a definition are expressions, because the block form of a special form has
arbitrary expressions there.
-/

namespace ScopeScript

/-- A name with the place where it stands. -/
structure Name where
  text : String
  span : Span
  deriving Repr, DecidableEq

/-- A node of an expression tree. -/
inductive Expr where
  | number (text : String) (span : Span)
  | string (text : String) (span : Span)
  | symbol (name : String) (span : Span)
  /-- A binary operator between its operands, with the span of the operator. -/
  | operation (op : String) (left right : Expr) (opSpan : Span)
  | call (callee : Expr) (args : List Expr) (span : Span)
  /-- A definition `name(params) { body }`. -/
  | definition (name : Name) (params body : List Expr) (span : Span)
  | assignment (target : Name) (value : Expr) (span : Span)
  deriving Repr, Inhabited

namespace Expr

/-- The stretch of source text that an expression was read from. -/
def span : Expr → Span
  | number _ s => s
  | string _ s => s
  | symbol _ s => s
  | operation _ left right _ => left.span.till right.span
  | call _ _ s => s
  | definition _ _ _ s => s
  | assignment _ _ s => s

/-- The name of an expression that is nothing but a name. -/
def asSymbol? : Expr → Option String
  | symbol name _ => some name
  | _ => none

/-- What an expression is called where it cannot be assigned to. -/
def describe : Expr → String
  | number text _ => text
  | string text _ => s!"\"{text}\""
  | symbol name _ => name
  | operation op _ _ _ => s!"{op} operation"
  | call _ _ _ => "call"
  | definition name _ _ _ => s!"function {name.text}"
  | assignment target _ _ => s!"assignment to {target.text}"

mutual

/-- The nodes of an expression in pre-order, each with its depth, in front of `rest`. -/
def outlineOnto (depth : Nat) (rest : List (Nat × Expr)) : Expr → List (Nat × Expr)
  | e@(number _ _) => (depth, e) :: rest
  | e@(string _ _) => (depth, e) :: rest
  | e@(symbol _ _) => (depth, e) :: rest
  | e@(operation _ left right _) =>
    (depth, e) :: outlineOnto (depth + 1) (outlineOnto (depth + 1) rest right) left
  | e@(call callee args _) =>
    (depth, e) :: outlineOnto (depth + 1) (outlineListOnto (depth + 1) rest args) callee
  | e@(definition _ params body _) =>
    (depth, e) ::
      outlineListOnto (depth + 1) (outlineListOnto (depth + 1) rest body) params
  | e@(assignment _ value _) => (depth, e) :: outlineOnto (depth + 1) rest value

/-- The nodes of several expressions in pre-order, in front of `rest`. -/
def outlineListOnto (depth : Nat) (rest : List (Nat × Expr)) : List Expr → List (Nat × Expr)
  | [] => rest
  | e :: es => outlineOnto depth (outlineListOnto depth rest es) e

end

/-- The nodes of a program in pre-order, each with its depth below its statement. -/
def outline (program : List Expr) : List (Nat × Expr) := outlineListOnto 0 [] program

end Expr

end ScopeScript
