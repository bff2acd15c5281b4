import ScopeScript.Eval.Error
import ScopeScript.Value.Text

/-!
# Operations

The binary operators on values. Addition joins texts as soon as one side is a string, and two
strings compare by their characters; everything else is arithmetic on numeric readings, the
left operand checked first.
-/

namespace ScopeScript

/-- The numeric reading of an operand. -/
def operandNumber (op : String) (span : Span) (v : Value) : Except RuntimeError Float :=
  match v.asNumber? with
  | some n => .ok n
  | none => .error (.invalidOperand op v.typeName span)

/-- Arithmetic on the numeric readings of two operands. -/
def arithmetic (op : String) (span : Span) (left right : Value) (f : Float → Float → Value) :
    Except RuntimeError Value := do
  let a ← operandNumber op span left
  let b ← operandNumber op span right
  return f a b

/-- The value of an operation on texts: addition with a string on either side, and comparison
of two strings. -/
def textOperation? (op : String) (left right : Value) : Option Value :=
  match op, left, right with
  | "+", .string a, _ => some (.string (a ++ right.text))
  | "+", _, .string b => some (.string (left.text ++ b))
  | "<", .string a, .string b => some (.boolean (decide (a < b)))
  | ">", .string a, .string b => some (.boolean (decide (b < a)))
  | _, _, _ => none

/-- The value of an operation on numbers. -/
def numberOperation? : (op : String) → Option (Float → Float → Value)
  | "+" => some fun a b => .number (a + b)
  | "-" => some fun a b => .number (a - b)
  | "*" => some fun a b => .number (a * b)
  | "/" => some fun a b => .number (a / b)
  | "<" => some fun a b => .boolean (decide (a < b))
  | ">" => some fun a b => .boolean (decide (b < a))
  | _ => none

/-- The value of an operation on evaluated operands. -/
def operate (op : String) (left right : Value) (span : Span) : Except RuntimeError Value :=
  match textOperation? op left right with
  | some v => .ok v
  | none =>
    match numberOperation? op with
    | some f => arithmetic op span left right f
    | none => .error (.unknownOperation op span)

end ScopeScript
