import ScopeScript.Expr.Basic

/-!
# Values

What expressions evaluate to. A function remembers the scope that was made for it when its
definition was evaluated. No two definitions share such a scope, so it also tells one function
from another.
-/

namespace ScopeScript

/-- The place of a scope in the heap of scopes. -/
abbrev ScopeId := Nat

/-- A function with its captured scope. -/
structure Closure where
  name : String
  params : List String
  body : List Expr
  /-- The scope that every call frame of the function lies in. -/
  scope : ScopeId
  deriving Inhabited

/-- A value. -/
inductive Value where
  | number (n : Float)
  /-- The outcome of a comparison; it counts as one or zero in arithmetic. -/
  | boolean (b : Bool)
  | string (s : String)
  /-- The results of a search, in order. -/
  | list (items : List Value)
  | function (f : Closure)
  | undefined
  deriving Inhabited

namespace Value

/-- The name of the kind of a value. -/
def typeName : Value → String
  | number _ => "number"
  | boolean _ => "boolean"
  | string _ => "string"
  | list _ => "list"
  | function _ => "function"
  | undefined => "undefined"

/-- Only `false` and zero do not count as true. -/
def isTruthy : Value → Bool
  | number n => n != 0
  | boolean b => b
  | _ => true

/-- The numeric reading of a value, if it has one. -/
def asNumber? : Value → Option Float
  | number n => some n
  | boolean b => some (if b then 1 else 0)
  | _ => none

mutual

/-- Whether two values are equal. Kinds never mix, functions are equal if they are the same
one, and a number that is not a number differs from itself. -/
def equal : Value → Value → Bool
  | number a, number b => a == b
  | boolean a, boolean b => a == b
  | string a, string b => a == b
  | list a, list b => equalLists a b
  | function f, function g => f.scope == g.scope
  | undefined, undefined => true
  | _, _ => false

/-- Whether two lists of values are equal item by item. -/
def equalLists : List Value → List Value → Bool
  | [], [] => true
  | a :: as, b :: bs => a.equal b && equalLists as bs
  | _, _ => false

end

end Value

end ScopeScript
