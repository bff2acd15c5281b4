import ScopeScript.Eval.Builtin
import ScopeScript.Decimal.Reader
import ScopeScript.Eval.Machine

/-!
# Evaluation

Expressions are evaluated from left to right in a scope. A definition captures a fresh child
of the scope it is evaluated in and binds its name there. A call of a defined function binds
the arguments in a frame, a fresh child of the captured scope, and evaluates the body there;
arguments that are missing are `undefined`, surplus ones are dropped. A frame is cleared when
its call returns, unless the result captures it.

A function whose name is that of a builtin is that builtin. The special forms evaluate their
arguments in the scope of the caller, and a definition named like one runs it with the
parameters as arguments and the body as block.

`evalStep` evaluates one node, with the evaluation of nested expressions and the calling of
defined functions as arguments; `evalWith` ties the knot with a number of steps that every
nested evaluation and every round of a loop uses up, and `eval` is the evaluation in which
functions are called by the rules.
-/

namespace ScopeScript

/-- The rules of an evaluation. -/
structure Rules where
  /-- How many calls may be in progress at a time. -/
  maxDepth : Nat
  /-- Whether the frame of a call is cleared when nothing captures it. -/
  clearsFrames : Bool := true
  deriving Repr, DecidableEq

variable [SearchContext]

/-- How nested expressions are evaluated. -/
abbrev Evaluator := Expr → ScopeId → Eval Value

/-- How defined functions are called; the span is that of the call. -/
abbrev Caller := Closure → List Value → Span → Eval Value

/-- Evaluate expressions in order; the value is the last one. -/
def evalSequence (ev : Evaluator) (env : ScopeId) : (last : Value) → List Expr → Eval Value
  | last, [] => pure last
  | _, e :: rest => do
    let v ← ev e env
    evalSequence ev env v rest

/-- Evaluate expressions in order and keep all values. -/
def evalAll (ev : Evaluator) (env : ScopeId) : List Expr → Eval (List Value)
  | [] => pure []
  | e :: rest => do
    let v ← ev e env
    let vs ← evalAll ev env rest
    return v :: vs

/-- Write the texts of values, one to a line. -/
def printAll : List Value → Eval Value
  | [] => pure .undefined
  | v :: rest => do
    Eval.writeLine v.text
    printAll rest

/-- Search a subject for the matches of a pattern. -/
def search (args : List Value) (kind : SearchKind) : Eval Value :=
  match searchArguments? args with
  | none => pure .undefined
  | some (pattern, subject) => do
    let compiled ← Eval.compilePattern pattern
    return kind.answer (searchLibrary.findAll compiled subject)

/-- A native builtin on its arguments. -/
def callNative (args : List Value) : Native → Eval Value
  | .print => printAll args
  | .searchIndexes => search args .indexes
  | .searchElements => search args .elements
  | .indexAccess => pure (indexAccess args)
  | .indexCount => pure (indexCount args)

/-- Evaluate an argument that may be missing. -/
def evalOptional (ev : Evaluator) (env : ScopeId) : Option Expr → Eval Value
  | some e => ev e env
  | none => pure .undefined

/-- Choose by a condition. With a block the block is evaluated if the condition holds and the
first argument behind it otherwise; without one the choice is among the two arguments. -/
def evalChoice (ev : Evaluator) (env : ScopeId) (args body : List Expr) : Eval Value :=
  match args with
  | [] => pure .undefined
  | condition :: rest => do
    let c ← ev condition env
    match body, c.isTruthy with
    | [], true => evalOptional ev env rest[0]?
    | [], false => evalOptional ev env rest[1]?
    | body, true => evalSequence ev env .undefined body
    | _, false => evalOptional ev env rest[0]?

/-- Evaluate a body as long as a condition holds, for at most `rounds` checks. -/
def evalRounds (ev : Evaluator) (env : ScopeId) (condition : Expr) (body : List Expr) :
    (rounds : Nat) → Eval Value
  | 0 => Eval.stop
  | rounds + 1 => do
    let c ← ev condition env
    if c.isTruthy then
      let _ ← evalSequence ev env .undefined body
      evalRounds ev env condition body rounds
    else return .undefined

/-- Repeat while a condition holds: the block, or the arguments behind the condition if there
is no block. -/
def evalLoop (ev : Evaluator) (rounds : Nat) (env : ScopeId) (args body : List Expr) :
    Eval Value :=
  match args with
  | [] => pure .undefined
  | condition :: rest =>
    evalRounds ev env condition (if body.isEmpty then rest else body) rounds

/-- A special form on its arguments and its block, which is empty if there is none. -/
def evalSpecial (ev : Evaluator) (rounds : Nat) (env : ScopeId) (args body : List Expr) :
    SpecialForm → Eval Value
  | .choice => evalChoice ev env args body
  | .loop => evalLoop ev rounds env args body

/-- The names of parameters. -/
def parameterNames (function : String) : List Expr → Except RuntimeError (List String)
  | [] => .ok []
  | p :: rest =>
    match p.asSymbol? with
    | some name => do return name :: (← parameterNames function rest)
    | none => .error (.invalidParameter function p.span)

/-- Make a function in a scope and bind its name there. -/
def defineFunction (env : ScopeId) (name : String) (params body : List Expr) : Eval Value := do
  let params ← Eval.lift (parameterNames name params)
  let closure ← Eval.newChild env
  let value := Value.function ⟨name, params, body, closure⟩
  Eval.bindName env name value
  return value

/-- Evaluate a definition. -/
def evalDefinition (ev : Evaluator) (rounds : Nat) (env : ScopeId) (name : String)
    (params body : List Expr) : Eval Value :=
  match Builtin.ofName? name with
  | some (.special form) => evalSpecial ev rounds env params body form
  | _ => defineFunction env name params body

/-- Bind parameters to arguments. -/
def bindParameters (frame : ScopeId) : List String → List Value → Heap → Heap
  | [], _, h => h
  | p :: ps, [], h => bindParameters frame ps [] (h.bind frame p .undefined)
  | p :: ps, a :: args, h => bindParameters frame ps args (h.bind frame p a)

namespace Machine

/-- Enter a call: the frame of the function, its parameters bound. -/
def enter (m : Machine) (f : Closure) (args : List Value) : Machine × ScopeId :=
  let (heap, frame) := m.heap.newChild f.scope
  ({ m with heap := bindParameters frame f.params args heap, depth := m.depth + 1 }, frame)

/-- Leave a call, and clear its frame if that is due. -/
def leave : Machine → (frame : ScopeId) → (clear : Bool) → Machine
  | ⟨heap, sink, depth, patterns⟩, frame, clear =>
    ⟨if clear then heap.clear frame else heap, sink, depth - 1, patterns⟩

end Machine

/-- Evaluate the body of a function in a frame of its own. -/
def runBody (rules : Rules) (ev : Evaluator) (f : Closure) (args : List Value) : Eval Value :=
  fun m =>
    let (m, frame) := m.enter f args
    match evalSequence ev frame .undefined f.body m with
    | .done v m =>
      let clear := rules.clearsFrames && !m.heap.captures frame v
      .done v (m.leave frame clear)
    | .failed e m => .failed e (m.leave frame rules.clearsFrames)
    | .unfinished => .unfinished

/-- Call a defined function. -/
def callFunction (rules : Rules) (ev : Evaluator) (f : Closure) (args : List Value)
    (span : Span) : Eval Value := fun m =>
  if m.depth ≥ rules.maxDepth then .failed (.recursionLimit rules.maxDepth f.name span) m
  else runBody rules ev f args m

/-- Evaluate a call. -/
def evalCall (call : Caller) (ev : Evaluator) (rounds : Nat) (env : ScopeId) (callee : Expr)
    (args : List Expr) (span : Span) : Eval Value := do
  match ← ev callee env with
  | .function f =>
    match Builtin.ofName? f.name with
    | some (.special form) => evalSpecial ev rounds env args [] form
    | some (.native n) =>
      let vs ← evalAll ev env args
      callNative vs n
    | none =>
      let vs ← evalAll ev env args
      call f vs span
  | other => Eval.fail (.notCallable other.codeText span)

/-- Evaluate one node. -/
def evalStep (call : Caller) (ev : Evaluator) (rounds : Nat) : Evaluator
  | .number text _, _ => pure (.number ((readNumber? text).getD (0 / 0)))
  | .string text _, _ => pure (.string text)
  | .symbol name span, env => do
    match ← Eval.lookup? env name with
    | some v => return v
    | none => Eval.fail (.undefinedVariable name span)
  | .operation op left right span, env => do
    let a ← ev left env
    let b ← ev right env
    Eval.lift (operate op a b span)
  | .assignment target value _, env => do
    let v ← ev value env
    Eval.bindName env target.text v
    return v
  | .definition name params body _, env => evalDefinition ev rounds env name.text params body
  | .call callee args span, env => evalCall call ev rounds env callee args span

/-- Evaluate an expression within a number of steps, when functions are called by `call`. -/
def evalWith (call : Evaluator → Caller) : (steps : Nat) → Evaluator
  | 0 => fun _ _ => Eval.stop
  | steps + 1 => evalStep (call (evalWith call steps)) (evalWith call steps) steps

/-- Evaluate an expression within a number of steps. -/
def eval (rules : Rules) (steps : Nat) : Evaluator := evalWith (callFunction rules) steps

/-- Evaluate a program in a scope, within a number of steps; the value is that of its last
statement. -/
def evalProgram (rules : Rules) (steps : Nat) (program : List Expr) (env : ScopeId) :
    Eval Value :=
  evalSequence (eval rules steps) env .undefined program

/-- Flush the output after a computation, even after an error; an error of the flush takes the
place of the result. -/
def Eval.flushed (x : Eval Value) : Eval Value := fun m =>
  match x m with
  | .done v m => (do Eval.flush; return v : Eval Value) m
  | .failed e m => (do Eval.flush; Eval.fail e : Eval Value) m
  | .unfinished => .unfinished

/-- Evaluate a program and flush the output. -/
def runProgram (rules : Rules) (steps : Nat) (program : List Expr) (env : ScopeId) :
    Eval Value :=
  Eval.flushed (evalProgram rules steps program env)

end ScopeScript
