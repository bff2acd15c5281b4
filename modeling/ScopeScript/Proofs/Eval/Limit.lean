import ScopeScript.Interpreter
import ScopeScript.Pattern.Library
import ScopeScript.Proofs.Eval.Alike
import ScopeScript.Proofs.Eval.Output

/-!
# The limit on calls

Two evaluations of one program, the second under a higher limit on the calls in progress. They go
on in lock step up to the first call that the lower limit refuses. Nothing in a program can catch
that error, so the first evaluation ends there, and all that it has written the second one has
written as well. If no call is refused, the two end the same way in the same state.

A run flushes its output at the end, and a flush that fails hides how the evaluation ended.
-/

namespace ScopeScript

open Eval Interpreter

section

variable [SearchContext]

/-! ## Output -/

/-- What was written is still there, with more behind it or nothing. -/
def WritesMore (m m' : Machine) : Prop := ∃ bytes, m'.sink.written = m.sink.written ++ bytes

instance : IsPreorder Machine WritesMore where
  refl m := ⟨.empty, ByteArray.append_empty.symm⟩
  trans := by
    rintro m₁ m₂ m₃ ⟨bytes, h⟩ ⟨bytes', h'⟩
    exact ⟨bytes ++ bytes', by rw [h', h, ByteArray.append_assoc]⟩

/-- The same output takes nothing back. -/
theorem WritesMore.of_sink_eq {m m' : Machine} (h : m'.sink = m.sink) : WritesMore m m' :=
  ⟨.empty, by rw [h, ByteArray.append_empty]⟩

/-- A further text takes nothing back. -/
theorem WritesMore.of_write {m m' : Machine} {text : String}
    (h : m'.sink = (m.sink.write text).1) : WritesMore m m' := by
  rw [WritesMore, h, Sink.write]
  split
  · exact ⟨_, rfl⟩
  · split
    · exact ⟨_, rfl⟩
    · exact ⟨_, rfl⟩

/-! ## Outcomes under two limits -/

variable {α β : Type}

/-- The same outcomes, but for results that `V` relates, unless the first one is the refusal of a
call. Then the second has written all that the first has. -/
inductive UpToRefusal (V : α → β → Prop) : Outcome α → Outcome β → Prop
  | done {a b} (m : Machine) : V a b → UpToRefusal V (.done a m) (.done b m)
  | failed (e : RuntimeError) (m : Machine) : UpToRefusal V (.failed e m) (.failed e m)
  | unfinished : UpToRefusal V .unfinished .unfinished
  | refused (limit : Nat) (function : String) (span : Span) {m : Machine} {o : Outcome β} :
    (∀ m', o.machine? = some m' → WritesMore m m') →
      UpToRefusal V (.failed (.recursionLimit limit function span) m) o

/-- What becomes of a computation from `m` on, and of the same one under a higher limit. The latter
takes nothing back that was written, and gives no results but such as `V` relates to something. -/
structure RaisedFrom (V : α → β → Prop) (m : Machine) (o : Outcome α) (o' : Outcome β) : Prop where
  outcome : UpToRefusal V o o'
  writesMore : ∀ m', o'.machine? = some m' → WritesMore m m'
  result : ∀ b m', o' = .done b m' → ∃ a, V a b

/-- A computation and the same one under a higher limit. -/
def Raised (V : α → β → Prop) (x : Eval α) (y : Eval β) : Prop :=
  ∀ m, RaisedFrom V m (x m) (y m)

namespace Raised

/-- Giving values that are related. -/
theorem pure {V : α → β → Prop} {a : α} {b : β} (hab : V a b) :
    Raised V (Pure.pure a) (Pure.pure b) := by
  intro m
  refine ⟨.done m hab, ?_, ?_⟩
  · rintro m' ⟨⟩
    exact .of_sink_eq rfl
  · rintro b m' ⟨⟩
    exact ⟨a, hab⟩

/-- Failing with the same error. -/
theorem fail {V : α → β → Prop} (e : RuntimeError) : Raised V (Eval.fail e) (Eval.fail e) := by
  intro m
  refine ⟨.failed e m, ?_, ?_⟩
  · rintro m' ⟨⟩
    exact .of_sink_eq rfl
  · rintro b m' ⟨⟩

/-- What does not depend on the limit. -/
theorem refl {V : α → α → Prop} (hV : ∀ a, V a a) {x : Eval α} (hx : Keeps WritesMore x) :
    Raised V x x := by
  intro m
  refine ⟨?_, hx m, fun b _ _ => ⟨b, hV b⟩⟩
  cases x m with
  | done a m' => exact .done m' (hV a)
  | failed e m' => exact .failed e m'
  | unfinished => exact .unfinished

/-- A computation under two limits, and what follows it under these. -/
theorem bind {α' β' : Type} {V : α → β → Prop} {V' : α' → β' → Prop} {x : Eval α} {y : Eval β}
    {f : α → Eval α'} {g : β → Eval β'} (hxy : Raised V x y)
    (hfg : ∀ a b, V a b → Raised V' (f a) (g b)) : Raised V' (x >>= f) (y >>= g) := by
  intro m
  obtain ⟨hout, hmore, hresult⟩ := hxy m
  change RaisedFrom V' m (Eval.bind x f m) (Eval.bind y g m)
  rw [Eval.bind, Eval.bind]
  generalize x m = o at hout
  generalize y m = o' at hout hmore hresult
  cases o' with
  | done b m₁ =>
    obtain ⟨a, hab⟩ := hresult b m₁ rfl
    have hm₁ := hmore m₁ rfl
    have hg := hfg a b hab m₁
    refine ⟨?_, fun m' h => IsTrans.trans _ _ _ hm₁ (hg.writesMore m' h), hg.result⟩
    cases hout with
    | done _ hab => exact (hfg _ b hab m₁).outcome
    | refused limit function span hwritten =>
      refine .refused limit function span fun m' h => ?_
      exact IsTrans.trans _ _ _ (hwritten m₁ rfl) (hg.writesMore m' h)
  | failed e m₁ =>
    refine ⟨?_, hmore, fun b m' h => by cases h⟩
    cases hout with
    | failed => exact .failed e m₁
    | refused limit function span hwritten => exact .refused limit function span hwritten
  | unfinished =>
    refine ⟨?_, fun m' h => (by cases h), fun b m' h => by cases h⟩
    cases hout with
    | unfinished => exact .unfinished
    | refused limit function span hwritten =>
      exact .refused limit function span fun m' h => by cases h

end Raised

omit [SearchContext] in
/-- A value is related to itself by equality of its functions. -/
theorem Value.lift_eq_refl (v : Value) : Value.Lift Eq v v :=
  (Value.lift_self_iff v).mpr fun _ _ => rfl

/-- Evaluations under a limit and under a higher one. -/
def raising : Coupling where
  World := Unit
  Later _ _ := True
  isPreorder := isPreorder_unit
  closure _ := Eq
  span := Eq
  Coupled V w := Raised (V w)
  closure_name hf := congrArg Closure.name hf
  closure_later _ hf := hf
  pure := Raised.pure
  fail he := he.eq ▸ Raised.fail _
  bind hxy hfg := hxy.bind fun a b hab => hfg () trivial a b hab
  writeLine _ text := .refl (fun _ => trivial) (writeLine_keeps_of_sink .of_write text)

/-- Computations that only write more go with themselves under a higher limit. -/
theorem raising_reflexive : raising.Reflexive WritesMore where
  closure_iff := Iff.rfl
  span_iff := Iff.rfl
  coupled hV hx := .refl hV hx

/-! ## Calls -/

variable {rules : Rules} {limit : Nat} {ev ev' : Evaluator}

/-- The rules with another limit on calls. -/
def Rules.withLimit (rules : Rules) (limit : Nat) : Rules := { rules with maxDepth := limit }

/-- Evaluators under a limit and under a higher one. -/
def RaisedEvaluators (ev ev' : Evaluator) : Prop :=
  ∀ e env, Raised (Value.Lift Eq) (ev e env) (ev' e env)

/-- Expressions go with themselves if their evaluations do. -/
theorem RaisedEvaluators.exprs (hev : RaisedEvaluators ev ev') (env : ScopeId) (es : List Expr) :
    raising.Exprs () ev ev' env env es es :=
  List.forall₂_same.mpr fun e _ _ _ => hev e env

/-- A call that the lower limit refuses may go on under the higher one. -/
theorem callFunction_raised (hle : rules.maxDepth ≤ limit) (hev : RaisedEvaluators ev ev')
    (f : Closure) (args : List Value) (span : Span) :
    Raised (Value.Lift Eq) (callFunction rules ev f args span)
      (callFunction (rules.withLimit limit) ev' f args span) := by
  intro m
  have hbody := raising.evalSequence_coupled (hev.exprs m.heap.scopes.size f.body)
    .undefined (m.enter f args).1
  have hmore : ∀ m', (callFunction (rules.withLimit limit) ev' f args span m).machine? = some m' →
      WritesMore m m' := by
    intro m' h
    obtain ⟨-, rfl⟩ | ⟨-, m₁, clear, hrun, rfl⟩ := callFunction_cases h
    · exact refl m'
    · exact hbody.writesMore m₁ hrun
  refine ⟨?_, hmore, fun b _ _ => ⟨b, b.lift_eq_refl⟩⟩
  by_cases hdeep : m.depth ≥ rules.maxDepth
  · rw [callFunction, if_pos hdeep]
    exact .refused _ _ _ hmore
  · have hdeep' : ¬ m.depth ≥ (rules.withLimit limit).maxDepth := by
      have hlimit : (rules.withLimit limit).maxDepth = limit := rfl
      omega
    rw [callFunction, callFunction, if_neg hdeep, if_neg hdeep']
    simp only [runBody, Machine.enter_snd]
    have hout := hbody.outcome
    generalize evalSequence ev _ _ _ _ = o at hout
    generalize evalSequence ev' _ _ _ _ = o' at hout
    cases hout with
    | done m₁ hv =>
      obtain rfl := hv.eq
      exact .done _ (Value.lift_eq_refl _)
    | failed e m₁ => exact .failed e _
    | unfinished => exact .unfinished
    | refused n function s hwritten =>
      refine .refused n function s fun m' h => ?_
      cases o' with
      | done v m₁ =>
        cases h
        exact hwritten m₁ rfl
      | failed e m₁ =>
        cases h
        exact hwritten m₁ rfl
      | unfinished => cases h

/-! ## Expressions -/

/-- One step goes on in lock step up to a call that is refused. -/
theorem evalStep_raised (hev : RaisedEvaluators ev ev') {call call' : Caller}
    (hcall : ∀ f args span, Raised (Value.Lift Eq) (call f args span) (call' f args span))
    (rounds : Nat) : RaisedEvaluators (evalStep call ev rounds) (evalStep call' ev' rounds) :=
  fun e env => raising_reflexive.evalStep (w := ()) (bindName_keeps_of_sink .of_sink_eq env)
    (newChild_keeps_of_sink .of_sink_eq env) (fun c _ _ => hev c env)
    (fun _ _ f vs span => hcall f vs span) rounds e

/-- **Evaluations under two limits** go on in lock step up to a call that is refused. -/
theorem eval_raised (hle : rules.maxDepth ≤ limit) (steps : Nat) :
    RaisedEvaluators (eval rules steps) (eval (rules.withLimit limit) steps) := by
  rw [eval, eval]
  induction steps with
  | zero => exact fun e env => .refl Value.lift_eq_refl Keeps.stop
  | succ steps ih => exact evalStep_raised ih (callFunction_raised hle ih) steps

/-! ## Programs -/

/-- Whether an outcome is the refusal of a call. -/
def Outcome.isRefusal : Outcome α → Bool
  | .failed (.recursionLimit ..) _ => true
  | _ => false

/-- Without a refusal the outcomes are equal. -/
theorem UpToRefusal.eq {o o' : Outcome Value} (h : UpToRefusal (Value.Lift Eq) o o')
    (hno : ¬ o.isRefusal) : o' = o := by
  cases h with
  | done m hv => rw [hv.eq]
  | failed => rfl
  | unfinished => rfl
  | refused => exact absurd rfl hno

/-- After a refusal the second computation has written at least as much. -/
theorem UpToRefusal.writesMore {V : α → β → Prop} {o : Outcome α} {o' : Outcome β}
    (h : UpToRefusal V o o') (hrefusal : o.isRefusal) {m m' : Machine} (hm : o.machine? = some m)
    (hm' : o'.machine? = some m') : WritesMore m m' := by
  cases h with
  | done | unfinished => cases hrefusal
  | failed =>
    obtain rfl : m = m' := Option.some.inj (hm.symm.trans hm')
    exact refl m
  | refused _ _ _ hwritten =>
    cases hm
    exact hwritten m' hm'

/-- A program under two limits has the same outcome, unless the lower one refuses a call. -/
theorem evalProgram_raised (hle : rules.maxDepth ≤ limit) (steps : Nat) (program : List Expr)
    (env : ScopeId) (m : Machine) :
    UpToRefusal (Value.Lift Eq) (evalProgram rules steps program env m)
      (evalProgram (rules.withLimit limit) steps program env m) :=
  (raising.evalSequence_coupled ((eval_raised hle steps).exprs env program) .undefined m).outcome

/-- **Raising the limit on calls.** A program whose evaluation ends, and not with the refusal of a
call, runs the same under every higher limit: with one result, one output and one state. If a call
is refused, the run under the higher limit has written all that the run under the lower one has,
whenever it ends. The run differs from the evaluation only where the output cannot be flushed. -/
theorem run_of_higher_limit (hle : rules.maxDepth ≤ limit) (program : List Expr) (env : ScopeId)
    (m : Machine) {steps : Nat} (hends : evalProgram rules steps program env m ≠ .unfinished) :
    (¬ (evalProgram rules steps program env m).isRefusal → ∀ steps' ≥ steps,
      runProgram (rules.withLimit limit) steps' program env m =
        runProgram rules steps program env m) ∧
    ((evalProgram rules steps program env m).isRefusal → ∀ steps' m₁ m₂,
      (runProgram rules steps program env m).machine? = some m₁ →
      (runProgram (rules.withLimit limit) steps' program env m).machine? = some m₂ →
        WritesMore m₁ m₂) ∧
    (m.sink.flushFails = false →
      runProgram rules steps program env m = evalProgram rules steps program env m) := by
  refine ⟨fun hno steps' hsteps => ?_, fun hrefusal steps' m₁ m₂ hm₁ hm₂ => ?_,
    runProgram_eq_evalProgram⟩
  · have hraised := (evalProgram_raised hle steps program env m).eq hno
    refine flushed_congr ?_
    rw [← hraised] at hends ⊢
    exact evalProgram_steps_le hsteps hends
  · have heval₁ := Eval.machine?_flushed hm₁
    have heval₂ := Eval.machine?_flushed hm₂
    -- both evaluations go on unchanged to one number of steps
    have hmore₁ := evalProgram_steps_le (Nat.le_max_left steps steps') hends
    have hmore₂ := evalProgram_steps_le (Nat.le_max_right steps steps')
      (Outcome.isSome_machine?_iff.mp (Option.isSome_of_eq_some heval₂))
    rw [← hmore₁] at hrefusal heval₁
    rw [← hmore₂] at heval₂
    exact (evalProgram_raised hle _ program env m).writesMore hrefusal heval₁ heval₂

end

/-- A function that prints, and a call of it. -/
def printInCall : List Expr := (readProgram "f() \x7b print('x'); \x7d; f();").toOption.getD []

/-- The call within the limit, and the one that a lower limit refuses. -/
theorem run_of_higher_limit_printInCall :
    (∀ steps ≥ 9, runProgram (Rules.withLimit ⟨1, true⟩ 2) steps printInCall globals
        (fresh ⟨1, true⟩ .unbounded).machine =
      evalProgram ⟨1, true⟩ 9 printInCall globals (fresh ⟨1, true⟩ .unbounded).machine) ∧
    ∀ steps m₁ m₂,
      (runProgram ⟨0, true⟩ 9 printInCall globals
        (fresh ⟨0, true⟩ .unbounded).machine).machine? = some m₁ →
      (runProgram (Rules.withLimit ⟨0, true⟩ 1) steps printInCall globals
        (fresh ⟨0, true⟩ .unbounded).machine).machine? = some m₂ → WritesMore m₁ m₂ := by
  have hone : evalProgram ⟨1, true⟩ 9 printInCall globals (fresh ⟨1, true⟩ .unbounded).machine ≠
      .unfinished := Outcome.isSome_machine?_iff.mp (by decide +kernel)
  have hzero : evalProgram ⟨0, true⟩ 9 printInCall globals (fresh ⟨0, true⟩ .unbounded).machine ≠
      .unfinished := Outcome.isSome_machine?_iff.mp (by decide +kernel)
  obtain ⟨hsame, -, hflush⟩ := run_of_higher_limit (Nat.le_succ 1) printInCall globals _ hone
  obtain ⟨-, hmore, -⟩ := run_of_higher_limit (Nat.le_succ 0) printInCall globals _ hzero
  refine ⟨fun steps hsteps => ?_, hmore (by decide +kernel)⟩
  rw [← hflush rfl]
  exact hsame (by decide +kernel) steps hsteps

/-- Where the output cannot be flushed, a refusal is not seen, and the output of the run depends
on the limit. -/
theorem run_depends_on_limit_of_flush :
    ¬ ∀ (rules : Rules) (limit : Nat) (program : List Expr) (m : Machine) (steps : Nat),
      rules.maxDepth ≤ limit → m.depth = 0 →
      runProgram rules steps program globals m ≠ .unfinished →
      ¬ (runProgram rules steps program globals m).isRefusal →
        ∃ enough, ∀ steps' ≥ enough, runProgram (rules.withLimit limit) steps' program globals m =
          runProgram rules steps program globals m := by
  intro hall
  let m : Machine := (fresh ⟨0, true⟩ ⟨.empty, none, true⟩).machine
  have hends : (runProgram ⟨0, true⟩ 9 printInCall globals m).machine?.map
      (·.sink.written.size) = some 0 := by decide +kernel
  have hraised : (runProgram ⟨1, true⟩ 9 printInCall globals m).machine?.map
      (·.sink.written.size) = some 2 := by decide +kernel
  obtain ⟨enough, hsame⟩ := hall ⟨0, true⟩ 1 printInCall m 9 (by decide) rfl
    (fun h => by simp [h, Outcome.machine?] at hends) (by decide +kernel)
  have hmore := runProgram_steps_le (Nat.le_max_right enough 9)
    (fun h => by simp [h, Outcome.machine?] at hraised :
      runProgram ⟨1, true⟩ 9 printInCall globals m ≠ .unfinished)
  have hsame : runProgram ⟨1, true⟩ (max enough 9) printInCall globals m =
    runProgram ⟨0, true⟩ 9 printInCall globals m := hsame _ (Nat.le_max_left enough 9)
  rw [← hmore, hsame, hends] at hraised
  exact absurd hraised (by decide)

end ScopeScript
