import ScopeScript.Source.Location

/-!
# Runtime errors

Why an evaluation ends early. There is no way to recover inside a program: the first error
ends the run.
-/

namespace ScopeScript

/-- Why an evaluation fails. -/
inductive RuntimeError where
  /-- A name bound nowhere on the chain of scopes. -/
  | undefinedVariable (name : String) (span : Span)
  /-- A call of a value that is not a function, given by its code text. -/
  | notCallable (value : String) (span : Span)
  /-- An operator without meaning. -/
  | unknownOperation (op : String) (span : Span)
  /-- Arithmetic on a value without numeric reading, given by its type. -/
  | invalidOperand (op typeName : String) (span : Span)
  /-- A parameter of a definition that is not a plain name. -/
  | invalidParameter (function : String) (span : Span)
  /-- A search pattern that cannot be compiled, with what the search library says about it. -/
  | invalidPattern (pattern reason : String)
  /-- A call nested deeper than allowed. -/
  | recursionLimit (limit : Nat) (function : String) (span : Span)
  /-- Output that could not be written. -/
  | output (reason : String)
  deriving Repr, DecidableEq

namespace RuntimeError

/-- The error in words. -/
def message : RuntimeError → String
  | undefinedVariable name span => s!"no such variable '{name}' at {span.text}"
  | notCallable value span => s!"{value} is not a function at {span.text}"
  | unknownOperation op span => s!"unknown operation '{op}' at {span.text}"
  | invalidOperand op typeName span =>
    s!"unsupported operand type for '{op}': {typeName} at {span.text}"
  | invalidParameter function span =>
    s!"parameter of '{function}' must be a name at {span.text}"
  | invalidPattern pattern reason => s!"invalid search pattern '{pattern}': {reason}"
  | recursionLimit limit function span =>
    s!"maximum call depth of {limit} exceeded calling '{function}' at {span.text}"
  | output reason => s!"failed to write output: {reason}"

/-- The place that an error points at, if it points at one. -/
def span? : RuntimeError → Option Span
  | undefinedVariable _ span => some span
  | notCallable _ span => some span
  | unknownOperation _ span => some span
  | invalidOperand _ _ span => some span
  | invalidParameter _ span => some span
  | invalidPattern _ _ => none
  | recursionLimit _ _ span => some span
  | output _ => none

end RuntimeError

end ScopeScript
