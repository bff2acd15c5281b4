import ScopeScript.Eval.Error
import ScopeScript.Output
import ScopeScript.Scope.Basic
import ScopeScript.Search.Library

/-!
# The state of an evaluation

An evaluation reads and changes the heap of scopes, the output, the number of calls in progress
and the compiled patterns that are kept. It ends with a value, or with an error and the state that
the error left behind, or it has not ended within the steps allowed to it.
-/

namespace ScopeScript

variable [SearchContext]

/-- What an evaluation works on. -/
structure Machine where
  heap : Heap
  sink : Sink
  /-- How many calls of defined functions are in progress. -/
  depth : Nat
  /-- The patterns compiled so far. -/
  patterns : searchLibrary.Patterns
  deriving Inhabited

/-- How an evaluation ends. -/
inductive Outcome (α : Type) where
  /-- A value, and the state after it. -/
  | done (a : α) (m : Machine)
  /-- An error, and the state it left. -/
  | failed (e : RuntimeError) (m : Machine)
  /-- The steps allowed ran out. -/
  | unfinished

/-- A computation on the state of an evaluation. -/
def Eval (α : Type) : Type := Machine → Outcome α

namespace Eval

variable {α β : Type}

/-- A value without effect. -/
@[inline] protected def pure (a : α) : Eval α := fun m => .done a m

/-- One computation after another, unless the first one fails. -/
@[inline] protected def bind (x : Eval α) (f : α → Eval β) : Eval β := fun m =>
  match x m with
  | .done a m => f a m
  | .failed e m => .failed e m
  | .unfinished => .unfinished

instance : Monad Eval where
  pure := Eval.pure
  bind := Eval.bind

/-- Fail with an error. -/
@[inline] def fail (e : RuntimeError) : Eval α := fun m => .failed e m

/-- Stop because the steps allowed ran out. -/
@[inline] def stop : Eval α := fun _ => .unfinished

/-- The value of a computation without effect that may fail. -/
@[inline] def lift (x : Except RuntimeError α) : Eval α := fun m =>
  match x with
  | .ok a => .done a m
  | .error e => .failed e m

/-- The value bound to a name, seen from a scope. -/
def lookup? (env : ScopeId) (name : String) : Eval (Option Value) := fun m =>
  .done (m.heap.lookup? env name) m

/-- Bind a name in a scope. -/
def bindName (env : ScopeId) (name : String) (value : Value) : Eval Unit := fun m =>
  .done () { m with heap := m.heap.bind env name value }

/-- Make a scope that lies in another. -/
def newChild (env : ScopeId) : Eval ScopeId := fun m =>
  let (heap, i) := m.heap.newChild env
  .done i { m with heap }

/-- The compiled form of a pattern, which is kept for the next time. -/
def compilePattern (source : String) : Eval searchLibrary.Compiled := fun m =>
  let (compiled, patterns) := m.patterns.compile source
  let m := { m with patterns }
  match compiled with
  | .ok compiled => .done compiled m
  | .error refusal =>
    .failed (.invalidPattern refusal.pattern (searchLibrary.describe refusal.reason)) m

/-- Write a text with a line end behind it. -/
def writeLine (text : String) : Eval Unit := fun m =>
  let (sink, complete) := m.sink.write (text.push '\n')
  let m := { m with sink }
  if complete then .done () m else .failed (.output "full") m

/-- Flush the output. -/
def flush : Eval Unit := fun m =>
  if m.sink.flushFails then .failed (.output "flush failed") m else .done () m

end Eval

end ScopeScript
