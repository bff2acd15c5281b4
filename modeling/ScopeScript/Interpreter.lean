import ScopeScript.Eval.Expr
import ScopeScript.Expr.Parser
import ScopeScript.Token.Lexer

/-!
# The interpreter

An interpreter keeps its global scope, its output and its rules from one source text to the
next. In a fresh one every builtin name is bound in the global scope, so that builtins are
found like any other function.
-/

namespace ScopeScript

/-- Why a source text has no value. -/
inductive SourceError where
  | lex (e : LexError)
  | parse (e : ParseError)
  | runtime (e : RuntimeError)
  deriving Repr, DecidableEq

namespace SourceError

/-- The error in words. -/
def message : SourceError → String
  | lex e => "lex error: " ++ e.message
  | parse e => "parse error: " ++ e.message
  | runtime e => "runtime error: " ++ e.message

end SourceError

/-- The program that a source text spells. -/
def readProgram (source : String) : Except SourceError (List Expr) :=
  match tokenize source with
  | .error e => .error (.lex e)
  | .ok tokens =>
    match parse tokens with
    | .error e => .error (.parse e)
    | .ok program => .ok program

variable [SearchContext]

/-- An interpreter between two runs. -/
structure Interpreter where
  rules : Rules
  machine : Machine

namespace Interpreter

/-- The global scope. -/
def globals : ScopeId := 0

/-- The function that a builtin name is bound to, with an empty scope of its own. -/
def bindBuiltin (h : Heap) (name : String) : Heap :=
  let (h, closure) := h.newRoot
  h.bind globals name (.function ⟨name, [], [], closure⟩)

/-- The heap of a fresh interpreter. -/
def freshHeap : Heap := Builtin.names.foldl bindBuiltin Heap.empty.newRoot.1

/-- An interpreter that has run nothing. -/
def fresh (rules : Rules) (sink : Sink) : Interpreter := ⟨rules, ⟨freshHeap, sink, 0, .none⟩⟩

/-- Write a text to the output as far as the output takes it. -/
def write : Interpreter → (text : String) → Interpreter
  | ⟨rules, ⟨heap, sink, depth, patterns⟩⟩, text =>
    ⟨rules, ⟨heap, (sink.write text).1, depth, patterns⟩⟩

/-- Steps enough for any run that ends in practice. -/
def patience : Nat := Nat.pow 2 60

/-- The result of an evaluation under some rules, `none` if the steps ran out. -/
def ofOutcome (rules : Rules) : Outcome Value → Option (Except SourceError Value × Interpreter)
  | .done v m => some (.ok v, ⟨rules, m⟩)
  | .failed e m => some (.error (.runtime e), ⟨rules, m⟩)
  | .unfinished => none

/-- Run a source text in the global scope within a number of steps, and flush the output. A
text that cannot be read changes nothing. -/
def runWithin (i : Interpreter) (steps : Nat) (source : String) :
    Option (Except SourceError Value × Interpreter) :=
  match readProgram source with
  | .error e => some (.error e, i)
  | .ok program =>
    let ⟨rules, machine⟩ := i
    ofOutcome rules (runProgram rules steps program globals machine)

/-- Run a source text in the global scope. -/
def run (i : Interpreter) (source : String) : Option (Except SourceError Value × Interpreter) :=
  i.runWithin patience source

/-- Evaluate a source text in some scope, without a flush. -/
def evalIn (i : Interpreter) (env : ScopeId) (source : String) :
    Option (Except SourceError Value × Interpreter) :=
  match readProgram source with
  | .error e => some (.error e, i)
  | .ok program =>
    let ⟨rules, machine⟩ := i
    ofOutcome rules (evalProgram rules patience program env machine)

/-- Evaluate one expression in some scope. -/
def evalExpr (i : Interpreter) (env : ScopeId) (e : Expr) :
    Option (Except SourceError Value × Interpreter) :=
  let ⟨rules, machine⟩ := i
  ofOutcome rules (eval rules patience e env machine)

end Interpreter

end ScopeScript
