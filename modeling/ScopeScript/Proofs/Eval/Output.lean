import ScopeScript.Proofs.Eval.Alike
import ScopeScript.Proofs.Eval.Footprint

/-!
# Output

Evaluation writes to the output and does nothing else to it. A run flushes it once the program has
been evaluated. A flush changes nothing in the state, and whether it fails was settled before the
run, so a run ends as the evaluation of its program does wherever the output can be flushed.
-/

namespace ScopeScript

open Eval

variable [SearchContext]

/-! ## Effects on the output -/

section Sink

variable {P : Machine → Machine → Prop}
variable (hsame : ∀ {m m' : Machine}, m'.sink = m.sink → P m m')
variable (hwrite : ∀ {m m' : Machine} {text}, m'.sink = (m.sink.write text).1 → P m m')

include hwrite in
/-- Writing a line keeps what writing to the output keeps. -/
theorem writeLine_keeps_of_sink (text : String) : Keeps P (writeLine text) := by
  intro m m' h
  simp only [writeLine] at h
  split at h <;> cases h <;> exact hwrite rfl

include hsame

/-- Binding a name keeps what the same output means. -/
theorem bindName_keeps_of_sink (env : ScopeId) (name : String) (v : Value) :
    Keeps P (bindName env name v) := by
  intro m m' h
  cases h
  exact hsame rfl

/-- A new scope keeps what the same output means. -/
theorem newChild_keeps_of_sink (env : ScopeId) : Keeps P (newChild env) := by
  intro m m' h
  cases h
  exact hsame rfl

variable [IsPreorder Machine P]

/-- A call keeps what its body and the same output mean. -/
theorem callFunction_keeps_of_sink (rules : Rules) {ev : Evaluator}
    (hev : ∀ e env, Keeps P (ev e env)) (f : Closure) (args : List Value) (span : Span) :
    Keeps P (callFunction rules ev f args span) := by
  intro m m' h
  obtain ⟨-, rfl⟩ | ⟨-, m₁, clear, hrun, rfl⟩ := callFunction_cases h
  · exact refl m'
  · have henter : P m (m.enter f args).1 := hsame rfl
    have hbody : P (m.enter f args).1 m₁ :=
      evalSequence_keeps (fun e _ => hev e _) .undefined _ _ hrun
    have hleave : P m₁ (m₁.leave m.heap.scopes.size clear) := hsame rfl
    exact IsTrans.trans _ _ _ henter (IsTrans.trans _ _ _ hbody hleave)

include hwrite in
/-- Evaluation does nothing to the output but to write to it. -/
theorem eval_keeps_of_sink (rules : Rules) (steps : Nat) (e : Expr) (env : ScopeId) :
    Keeps P (eval rules steps e env) := by
  rw [eval]
  induction steps generalizing e env with
  | zero => exact Keeps.stop
  | succ steps ih =>
    exact evalStep_keeps (fun name (_ : True) => bindName_keeps_of_sink hsame env name)
      (newChild_keeps_of_sink hsame env) (writeLine_keeps_of_sink hwrite)
      (callFunction_keeps_of_sink hsame rules ih) (fun e _ => ih e env) steps e fun _ _ => trivial

end Sink

/-! ## Flushing -/

/-- The state keeps whether its output can be flushed. -/
def KeepsFlush (m m' : Machine) : Prop := m'.sink.flushFails = m.sink.flushFails

instance : IsPreorder Machine KeepsFlush where
  refl _ := rfl
  trans _ _ _ h₁ h₂ := Eq.trans h₂ h₁

omit [SearchContext] in
/-- Writing does not change whether flushing fails. -/
theorem flushFails_write (s : Sink) (text : String) :
    (s.write text).1.flushFails = s.flushFails := by
  rw [Sink.write]
  split
  · rfl
  · split <;> rfl

/-- No evaluation changes whether the output can be flushed. -/
theorem eval_keepsFlush (rules : Rules) (steps : Nat) (e : Expr) (env : ScopeId) :
    Keeps KeepsFlush (eval rules steps e env) :=
  eval_keeps_of_sink (fun h => congrArg Sink.flushFails h)
    (fun h => (congrArg Sink.flushFails h).trans (flushFails_write _ _)) rules steps e env

/-- A program does not change whether flushing fails. -/
theorem evalProgram_keepsFlush (rules : Rules) (steps : Nat) (program : List Expr)
    (env : ScopeId) : Keeps KeepsFlush (evalProgram rules steps program env) :=
  evalSequence_keeps (fun e _ => eval_keepsFlush rules steps e env) .undefined

/-- Computations that are equal from a state on stay so when they are flushed. -/
theorem flushed_congr {x y : Eval Value} {m : Machine} (h : x m = y m) :
    x.flushed m = y.flushed m := by
  rw [Eval.flushed, Eval.flushed, h]

/-- More steps do not change a run that ends. -/
theorem runProgram_steps_le {rules : Rules} {steps steps' : Nat} (hle : steps ≤ steps')
    {program : List Expr} {env : ScopeId} {m : Machine}
    (h : runProgram rules steps program env m ≠ .unfinished) :
    runProgram rules steps' program env m = runProgram rules steps program env m := by
  refine flushed_congr (evalProgram_steps_le hle fun hnone => h ?_)
  rw [runProgram, Eval.flushed, hnone]

/-- Flushing is unnoticed if it cannot fail. -/
theorem flushed_eq {x : Eval Value} {m : Machine}
    (hflush : ∀ m', (x m).machine? = some m' → m'.sink.flushFails = false) :
    Eval.flushed x m = x m := by
  rw [Eval.flushed]
  cases hx : x m with
  | done v m' =>
    rw [hx] at hflush
    have hm' := hflush m' rfl
    change Eval.bind Eval.flush _ m' = _
    simp [Eval.bind, Eval.flush, hm']
    rfl
  | failed e m' =>
    rw [hx] at hflush
    have hm' := hflush m' rfl
    change Eval.bind Eval.flush _ m' = _
    simp [Eval.bind, Eval.flush, hm']
    rfl
  | unfinished => rfl

/-- A run ends as the evaluation of its program does if the output can be flushed. -/
theorem runProgram_eq_evalProgram {rules : Rules} {steps : Nat} {program : List Expr}
    {env : ScopeId} {m : Machine} (hflush : m.sink.flushFails = false) :
    runProgram rules steps program env m = evalProgram rules steps program env m :=
  flushed_eq fun m' hm' => (evalProgram_keepsFlush rules steps program env m m' hm').trans hflush

/-- A flush changes nothing in the state. -/
theorem Eval.machine?_flushed {x : Eval Value} {m m' : Machine}
    (h : (x.flushed m).machine? = some m') : (x m).machine? = some m' := by
  have hflush : Keeps Eq Eval.flush := by
    intro m m' h
    rw [Eval.flush] at h
    split at h <;> cases h <;> rfl
  rw [Eval.flushed] at h
  cases hx : x m with
  | done v m₁ =>
    rw [hx] at h
    exact congrArg some ((Keeps.bind hflush fun _ => Keeps.pure v) m₁ m' h)
  | failed e m₁ =>
    rw [hx] at h
    exact congrArg some ((Keeps.bind (β := Value) hflush fun _ => Keeps.fail e) m₁ m' h)
  | unfinished =>
    rw [hx] at h
    cases h

end ScopeScript
