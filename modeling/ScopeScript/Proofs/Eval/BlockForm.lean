import ScopeScript.Interpreter
import ScopeScript.Pattern.Library
import ScopeScript.Proofs.Eval.BigStep

/-!
# Special forms with a block

A definition that is named like a special form runs it, with the parameters as arguments and the
body as block. With a block that is not empty the choice evaluates its condition and then the block
or the argument behind the condition, and the loop repeats the block and none of the arguments.

An empty block is taken for none. The two forms then mean what their calls mean: the choice gives
its second argument where the empty block should be evaluated, and the loop repeats its arguments.
-/

namespace ScopeScript

open Eval Filter

section

variable [SearchContext]

variable {rules : Rules} {env : ScopeId} {m : Machine} {o : Outcome Value}

/-! ## One definition -/

/-- A definition that runs a special form evaluates as the form does, in some number of steps. -/
theorem evaluates_definition_iff (form : SpecialForm) {name : Name}
    (hform : Builtin.ofName? name.text = some (.special form)) (args body : List Expr)
    (span : Span) :
    Evaluates rules env (.definition name args body span) m o ↔ o ≠ .unfinished ∧
      ∃ steps, evalSpecial (eval rules steps) steps env args body form m = o := by
  have hstep : ∀ steps, eval rules (steps + 1) (.definition name args body span) env =
      evalSpecial (eval rules steps) steps env args body form := by
    intro steps
    change evalDefinition _ _ _ _ _ _ = _
    rw [evalDefinition, hform]
    rfl
  constructor
  · rintro ⟨ho, steps, h⟩
    cases steps with
    | zero => exact absurd h.symm ho
    | succ steps => exact ⟨ho, steps, by rwa [hstep] at h⟩
  · rintro ⟨ho, steps, h⟩
    exact ⟨ho, steps + 1, by rwa [hstep]⟩

/-! ## Choices -/

section Choice

variable {ev : Evaluator} {condition : Expr} {e? : Option Expr} {body : List Expr}

/-- An argument that may be missing is a sequence of at most one expression. -/
theorem evalOptional_eq_evalSequence (ev : Evaluator) (env : ScopeId) (e? : Option Expr) :
    evalOptional ev env e? = evalSequence ev env .undefined e?.toList := by
  cases e? with
  | none => rfl
  | some e => exact (evalSequence_singleton ev env .undefined e).symm

/-- With a block the choice is between the block and the argument. -/
theorem evalChoice_block (h : body ≠ [] ∨ e? = none) :
    evalChoice ev env (condition :: e?.toList) body = ev condition env >>= fun v =>
      evalSequence ev env .undefined (if v.isTruthy then body else e?.toList) := by
  refine congrArg (ev condition env >>= ·) (funext fun v => ?_)
  have harg : e?.toList[0]? = e? := by cases e? <;> rfl
  cases body with
  | cons b rest => cases v.isTruthy <;> simp [harg, evalOptional_eq_evalSequence]
  | nil =>
    obtain rfl := h.resolve_left (· rfl)
    cases v.isTruthy <;> rfl

/-- With an empty block the choice is between the argument and nothing. -/
theorem evalChoice_emptyBlock :
    evalChoice ev env (condition :: e?.toList) [] = ev condition env >>= fun v =>
      evalSequence ev env .undefined (if v.isTruthy then e?.toList else []) := by
  refine congrArg (ev condition env >>= ·) (funext fun v => ?_)
  have harg : e?.toList[0]? = e? ∧ e?.toList[1]? = none := by cases e? <;> exact ⟨rfl, rfl⟩
  cases v.isTruthy with
  | true => exact (congrArg _ harg.1).trans (evalOptional_eq_evalSequence ev env e?)
  | false => exact congrArg (evalOptional ev env) harg.2

/-- A definition named like the choice evaluates as a choice between two lists of expressions. -/
theorem evaluates_choice_iff {s span : Span} {yes no : List Expr}
    (h : ∀ ev, evalChoice ev env (condition :: e?.toList) body = ev condition env >>= fun v =>
      evalSequence ev env .undefined (if v.isTruthy then yes else no)) :
    Evaluates rules env (.definition ⟨"if", s⟩ (condition :: e?.toList) body span) m o ↔
      Chooses rules env condition yes no m o := by
  rw [evaluates_definition_iff .choice rfl]
  simp only [evalSpecial, h]
  constructor
  · rintro ⟨ho, steps, heval⟩
    exact .of_bind heval ho
  · intro hchosen
    exact ⟨hchosen.ends, hchosen.eventually.exists⟩

end Choice

/-! ## Loops -/

section Loop

variable {condition : Expr} {xs body : List Expr}

/-- A definition named like the loop repeats the block, or the arguments if the block is empty. -/
theorem evaluates_loop_iff {s span : Span} :
    Evaluates rules env (.definition ⟨"ifLoop", s⟩ (condition :: xs) body span) m o ↔
      Repeats rules env condition (if body.isEmpty then xs else body) m o := by
  rw [evaluates_definition_iff .loop rfl]
  simp only [evalSpecial, evalLoop]
  constructor
  · rintro ⟨ho, steps, heval⟩
    exact .of_evalRounds heval ho
  · intro hrepeats
    obtain ⟨n, hrounds⟩ := hrepeats.eventually
    obtain ⟨steps, hsteps, hn⟩ := (hrounds.and (eventually_ge_atTop n)).exists
    exact ⟨hrepeats.ends, steps, hsteps steps hn⟩

/-- Where the name of the loop means the loop, calling it with the block as further arguments does,
step for step, what the definition does. -/
theorem eval_loopCall (hbody : body ≠ []) {f : Closure}
    (hlookup : m.heap.lookup? env "ifLoop" = some (.function f))
    (hf : Builtin.ofName? f.name = some (.special .loop)) (steps : Nat) (s span span' : Span) :
    eval rules steps (.call (.symbol "ifLoop" s) (condition :: body) span) env m =
      eval rules steps (.definition ⟨"ifLoop", s⟩ [condition] body span') env m := by
  have hblock : body.isEmpty = false := by simpa using hbody
  match steps with
  | 0 => rfl
  | 1 => rfl
  | steps + 2 =>
    have hcallee : eval rules (steps + 1) (.symbol "ifLoop" s) env m = .done (.function f) m := by
      have hfound : Eval.lookup? env "ifLoop" m = .done (some (.function f)) m :=
        congrArg (Outcome.done · m) hlookup
      rw [eval, evalWith, evalStep, bind_of_done hfound]
      rfl
    change evalCall _ (eval rules (steps + 1)) (steps + 1) env (.symbol "ifLoop" s) _ span m =
      evalLoop (eval rules (steps + 1)) (steps + 1) env [condition] body m
    rw [evalCall, bind_of_done hcallee]
    simp only [hf, evalSpecial, evalLoop, hblock]
    rfl

end Loop

/-! ## Both forms -/

/-- **The block form of the special forms.** With a block that is not empty, or with nothing behind
the condition, the choice evaluates its condition and then the block or the argument alone, and the
loop repeats the block alone. An empty block makes no difference from a call: the choice is between
the argument and nothing, and the loop repeats the arguments. A loop with a block that is not empty
is the call with the block as further arguments, wherever its name means the loop. -/
theorem evaluates_blockForm (rules : Rules) (env : ScopeId) (condition : Expr) (body : List Expr)
    (s span : Span) :
    (∀ e? m o,
      (body ≠ [] ∨ e? = none →
        (Evaluates rules env (.definition ⟨"if", s⟩ (condition :: e?.toList) body span) m o ↔
          Chooses rules env condition body e?.toList m o)) ∧
      (body = [] →
        (Evaluates rules env (.definition ⟨"if", s⟩ (condition :: e?.toList) body span) m o ↔
          Chooses rules env condition e?.toList [] m o))) ∧
    (∀ xs m o,
      (body ≠ [] ∨ xs = [] →
        (Evaluates rules env (.definition ⟨"ifLoop", s⟩ (condition :: xs) body span) m o ↔
          Repeats rules env condition body m o)) ∧
      (body = [] →
        (Evaluates rules env (.definition ⟨"ifLoop", s⟩ (condition :: xs) body span) m o ↔
          Repeats rules env condition xs m o))) ∧
    (body ≠ [] → ∀ m f, m.heap.lookup? env "ifLoop" = some (.function f) →
      Builtin.ofName? f.name = some (.special .loop) → ∀ steps span',
        eval rules steps (.definition ⟨"ifLoop", s⟩ [condition] body span) env m =
          eval rules steps (.call (.symbol "ifLoop" s) (condition :: body) span') env m) := by
  refine ⟨fun e? m o => ⟨fun h => ?_, ?_⟩, fun xs m o => ⟨fun h => ?_, ?_⟩,
    fun hbody m f hlookup hf steps span' => ?_⟩
  · exact evaluates_choice_iff fun _ => evalChoice_block h
  · rintro rfl
    exact evaluates_choice_iff fun _ => evalChoice_emptyBlock
  · have hrepeated : (if body.isEmpty then xs else body) = body := by
      cases body with
      | nil => exact h.resolve_left (· rfl)
      | cons b rest => rfl
    rw [evaluates_loop_iff, hrepeated]
  · rintro rfl
    exact evaluates_loop_iff
  · exact (eval_loopCall hbody hlookup hf steps s span' span).symm

end

/-- The call `print()`, whose value is undefined. -/
def printNothing : Expr := .call (.symbol "print" .none) [] .none

/-- An assignment after which that call fails. -/
def unbindPrint : Expr := .assignment ⟨"print", .none⟩ (.string "a" .none) .none

/-- A state in which every builtin is bound. -/
def Machine.withBuiltins : Machine := (Interpreter.fresh ⟨1, true⟩ .unbounded).machine

/-- With that condition and that block, and with the name `y`, which means nothing, in the place of
the argument. The loop has one round and fails at its second check. -/
theorem evaluates_blockForm_unbindPrint :
    (∃ o, Evaluates ⟨1, true⟩ 0 (.definition ⟨"if", .none⟩
        [printNothing, .symbol "y" .none] [unbindPrint] .none) .withBuiltins o ∧
      Chooses ⟨1, true⟩ 0 printNothing [unbindPrint] [.symbol "y" .none] .withBuiltins o) ∧
    (∃ o, Evaluates ⟨1, true⟩ 0 (.definition ⟨"if", .none⟩
        [printNothing, .symbol "y" .none] [] .none) .withBuiltins o ∧
      Chooses ⟨1, true⟩ 0 printNothing [.symbol "y" .none] [] .withBuiltins o) ∧
    (∃ o, Evaluates ⟨1, true⟩ 0 (.definition ⟨"ifLoop", .none⟩
        [printNothing, .symbol "y" .none] [unbindPrint] .none) .withBuiltins o ∧
      Repeats ⟨1, true⟩ 0 printNothing [unbindPrint] .withBuiltins o) ∧
    (∃ o, Evaluates ⟨1, true⟩ 0 (.definition ⟨"ifLoop", .none⟩
        [printNothing, unbindPrint] [] .none) .withBuiltins o ∧
      Repeats ⟨1, true⟩ 0 printNothing [unbindPrint] .withBuiltins o) ∧
    ∀ steps, eval ⟨1, true⟩ steps (.definition ⟨"ifLoop", .none⟩ [printNothing] [unbindPrint] .none)
        0 .withBuiltins =
      eval ⟨1, true⟩ steps (.call (.symbol "ifLoop" .none) [printNothing, unbindPrint] .none)
        0 .withBuiltins := by
  have hblock : [unbindPrint] ≠ [] := List.cons_ne_nil _ _
  obtain ⟨hchoice, hloop, hcall⟩ :=
    evaluates_blockForm ⟨1, true⟩ 0 printNothing [unbindPrint] .none .none
  obtain ⟨hchoice', hloop', -⟩ := evaluates_blockForm ⟨1, true⟩ 0 printNothing [] .none .none
  have hbuiltin : Machine.withBuiltins.heap.lookup? 0 "ifLoop" =
      some (.function ⟨"ifLoop", [], [], 7⟩) := by
    rw [Heap.lookup?_eq]
    rfl
  have hends : ∀ {e} {P : Outcome Value → Prop},
      (eval ⟨1, true⟩ 4 e 0 .withBuiltins).machine?.isSome →
      (∀ o, Evaluates ⟨1, true⟩ 0 e .withBuiltins o ↔ P o) →
        ∃ o, Evaluates ⟨1, true⟩ 0 e .withBuiltins o ∧ P o :=
    fun hsome hiff => ⟨_, .of_isSome hsome, (hiff _).mp (.of_isSome hsome)⟩
  refine ⟨?_, ?_, ?_, ?_, fun steps => hcall hblock _ _ hbuiltin rfl steps .none⟩
  · exact hends (by decide +kernel) fun o =>
      (hchoice (some (.symbol "y" .none)) _ o).1 (.inl hblock)
  · exact hends (by decide +kernel) fun o => (hchoice' (some (.symbol "y" .none)) _ o).2 rfl
  · exact hends (by decide +kernel) fun o => (hloop [.symbol "y" .none] _ o).1 (.inl hblock)
  · exact hends (by decide +kernel) fun o => (hloop' [unbindPrint] _ o).2 rfl

/-- An empty block is not evaluated: `if('a', 'b'){}` gives the string behind the condition. -/
theorem emptyBlock_not_chosen :
    ¬ ∀ (rules : Rules) (env : ScopeId) (condition : Expr) (e? : Option Expr) (body : List Expr)
      (s span : Span) (m : Machine) (o : Outcome Value),
      Evaluates rules env (.definition ⟨"if", s⟩ (condition :: e?.toList) body span) m o →
        Chooses rules env condition body e?.toList m o := by
  intro hblock
  have hstring : Evaluates ⟨1, true⟩ 0 (.string "a" .none) .withBuiltins
      (.done (.string "a") .withBuiltins) := .of_eval (show eval _ 1 _ _ _ = _ from rfl) nofun
  have hchosen := hblock ⟨1, true⟩ 0 (.string "a" .none) (some (.string "b" .none)) [] .none .none
    .withBuiltins (.done (.string "b") .withBuiltins)
    (.of_eval (show eval _ 2 _ _ _ = _ from rfl) nofun)
  generalize ho : Outcome.done (Value.string "b") Machine.withBuiltins = o at hchosen
  cases hchosen with
  | holds hcondition htruthy hempty =>
    cases hempty
    cases ho
  | fails hcondition htruthy =>
    cases hstring.unique hcondition
    cases htruthy
  | failed hcondition => cases ho

example : ((Interpreter.fresh ⟨1, true⟩ .unbounded).runWithin 3 "if('a', 'b')\x7b\x7d;").bind
    (·.1.toOption.map Value.text) = some "b" := by
  decide +kernel

end ScopeScript
