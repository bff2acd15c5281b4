import ScopeScript.Eval.Operation
import ScopeScript.Search.Library

/-!
# Builtins

The functions that every program finds in its global scope. A native builtin takes evaluated
arguments; a special form decides itself what it evaluates. The builtins that neither print,
search nor choose are functions from values to a value, defined here with the answers of a
search. An argument that is missing makes the result `undefined`.
-/

namespace ScopeScript

/-- Builtins that take evaluated arguments. -/
inductive Native where
  | print
  | searchIndexes
  | searchElements
  | indexAccess
  | indexCount
  deriving Repr, DecidableEq

/-- Builtins that take expressions. -/
inductive SpecialForm where
  | choice
  | loop
  deriving Repr, DecidableEq

/-- A builtin function. -/
inductive Builtin where
  | native (n : Native)
  | special (f : SpecialForm)
  deriving Repr, DecidableEq

namespace Builtin

/-- The builtin of a name. A function of such a name is that builtin, however it was made. -/
def ofName? : String → Option Builtin
  | "print" => some (.native .print)
  | "searchIndexes" => some (.native .searchIndexes)
  | "searchElements" => some (.native .searchElements)
  | "indexAccess" => some (.native .indexAccess)
  | "indexCount" => some (.native .indexCount)
  | "if" => some (.special .choice)
  | "ifLoop" => some (.special .loop)
  | _ => none

/-- The names of all builtins. -/
def names : List String :=
  ["print", "searchIndexes", "searchElements", "indexAccess", "indexCount", "if", "ifLoop"]

end Builtin

/-- The texts of a pattern and of the subject to search, unless the subject is missing. -/
def searchArguments? : List Value → Option (String × String)
  | _ :: .undefined :: _ => none
  | pattern :: subject :: _ => some (pattern.text, subject.text)
  | _ => none

/-- What the search builtins look for: where the matches start, or their texts. -/
inductive SearchKind where
  | indexes
  | elements
  deriving Repr, DecidableEq

/-- What a search answers with if it finds these matches: places are counted in characters, and
for texts there is no empty answer but `undefined`. -/
def SearchKind.answer (found : List PatternMatch) : SearchKind → Value
  | indexes => .list (found.map fun m => .number (.ofNat m.offset))
  | elements =>
    if found.isEmpty then .undefined else .list (found.map fun m => .string (.ofList m.text))

/-- The natural number that a number is, if it is one. -/
def asIndex? (n : Float) : Option Nat :=
  if 0 ≤ n ∧ n.floor == n ∧ !n.isInf then some n.toUInt64.toNat else none

/-- The character of a text at an index. -/
def charAt? (s : String) (i : Nat) : Option Char :=
  if i < s.utf8ByteSize then (s.drop i).front? else none

/-- The character or item at an index. -/
def indexAccess (args : List Value) : Value :=
  match args with
  | subject :: index :: _ =>
    match index.asNumber?.bind asIndex? with
    | none => .undefined
    | some i =>
      match subject with
      | .string s => ((charAt? s i).map fun c => Value.string c.toString).getD .undefined
      | .list items => items[i]?.getD .undefined
      | _ => .undefined
  | _ => .undefined

/-- How many characters or items there are, `undefined` if none. -/
def indexCount (args : List Value) : Value :=
  let count :=
    match args with
    | .string s :: _ => s.length
    | .list items :: _ => items.length
    | _ => 0
  if count = 0 then .undefined else .number (.ofNat count)

end ScopeScript
