import ScopeScript.Pattern.Library
import ScopeScript.Proofs.Eval.CallDepth
import ScopeScript.Proofs.Session.Basic

/-!
# Calls in progress between runs

An evaluation leaves the depth as it found it, so every run does, whether its text can be read or
not and however it ends. The runs of a session all start without calls in progress.
-/

namespace ScopeScript

open Eval Interpreter

section

variable [SearchContext]

/-- A computation that restores the depth ends at that depth. -/
theorem SameAt.depth_eq {α β : Type} {depth : Nat} {V : α → β → Prop} {o : Outcome α}
    {o' : Outcome β} (h : SameAt depth V o o') {m' : Machine} (hm' : o.machine? = some m') :
    m'.depth = depth := by
  cases h with
  | done _ hdepth | failed hdepth =>
    cases hm'
    exact hdepth
  | unfinished => cases hm'

/-- An evaluation from a state within the limit on is the one that counts its calls. -/
theorem eval_counted {rules : Rules} {m : Machine} (hm : m.depth ≤ rules.maxDepth) (steps : Nat)
    (alarm : Eval Value) (e : Expr) (env : ScopeId) :
    SameAt m.depth (Value.Lift Eq) (eval rules steps e env m)
      (CallCount.eval ⟨rules, m.depth, alarm⟩ steps 0 e env m) :=
  @CallCount.eval_atDepth _ ⟨rules, m.depth, alarm⟩ 0 hm steps e env m rfl

/-- A program that starts within the limit ends at the depth where it starts. -/
theorem evalProgram_depth_eq {rules : Rules} {m m' : Machine} (hm : m.depth ≤ rules.maxDepth)
    {steps : Nat} {program : List Expr} {env : ScopeId}
    (h : (evalProgram rules steps program env m).machine? = some m') : m'.depth = m.depth := by
  have hexprs : (atDepth m.depth).Exprs () (eval rules steps)
      (CallCount.eval ⟨rules, m.depth, Eval.stop⟩ steps 0) env env program program :=
    List.forall₂_same.mpr fun e _ _ _ =>
      @CallCount.eval_atDepth _ ⟨rules, m.depth, Eval.stop⟩ 0 hm steps e env
  exact ((atDepth m.depth).evalSequence_coupled hexprs .undefined m rfl).depth_eq h

namespace Interpreter

/-- A run leaves the depth as it found it. -/
theorem depth_of_runWithin {i j : Interpreter} (hi : i.machine.depth ≤ i.rules.maxDepth)
    {steps : Nat} {source : String} {result : Except SourceError Value}
    (h : i.runWithin steps source = some (result, j)) :
    j.machine.depth = i.machine.depth := by
  have hrun : i.runUsing (eval i.rules steps) source = some (result, j) := h
  obtain heq | ⟨program, heval⟩ := machine_of_runUsing hrun
  · rw [heq]
  · exact evalProgram_depth_eq hi heval

/-- **Calls in progress.** From every state within the limit on, an evaluation that counts its
calls, refuses them by the count and checks everywhere that the depth is the count and within the
limit is the evaluation, and one that ends restores the depth. A call is refused exactly at the
limit. After each run of a session the depth is 0. -/
theorem depth_counts_calls (rules : Rules) :
    (∀ m, m.depth ≤ rules.maxDepth → ∀ steps e env,
      (∀ alarm, CallCount.eval ⟨rules, m.depth, alarm⟩ steps 0 e env m =
        eval rules steps e env m) ∧
      ∀ m', (eval rules steps e env m).machine? = some m' → m'.depth = m.depth) ∧
    (∀ m, m.depth ≤ rules.maxDepth → ∀ ev f args span,
      callFunction rules ev f args span m =
        if m.depth = rules.maxDepth then .failed (.recursionLimit rules.maxDepth f.name span) m
        else runBody rules ev f args m) ∧
    ∀ sink steps sources runs, runAll steps (fresh rules sink) sources = some runs →
      ∀ run ∈ runs, run.2.machine.depth = 0 := by
  refine ⟨fun m hm steps e env => ⟨fun alarm => ?_, fun m' => ?_⟩, fun m hm ev f args span => ?_,
    fun sink steps sources runs hruns run hrun => ?_⟩
  · have hcounted := eval_counted hm steps alarm e env
    generalize eval rules steps e env m = o at hcounted
    generalize CallCount.eval _ steps 0 e env m = o' at hcounted
    cases hcounted with
    | done hv => rw [hv.eq]
    | failed | unfinished => rfl
  · exact (eval_counted hm steps Eval.stop e env).depth_eq
  · rw [callFunction]
    exact if_congr (by omega) rfl rfl
  · have hkept := forall_of_runAll (P := fun i => i.machine.depth = 0 ∧ i.rules = rules)
      (fun {i _ _} hi h => ?_) ⟨rfl, rfl⟩ hruns
    · exact (hkept run hrun).1
    · exact ⟨(depth_of_runWithin (by omega) h).trans hi.1, (rules_of_runUsing h).trans hi.2⟩

end Interpreter

end

namespace Interpreter

/-- A function that calls itself, a text that cannot be read, and a value. -/
def recursionThenValue : List String := ["f() \x7b f(); \x7d; f();", "f(", "'a';"]

/-- A call that fails in the body, a refused call, and the runs of the texts above. -/
theorem depth_counts_calls_failing :
    (Machine.oneScope.depth ≤ 1 ∧
      (∀ alarm, CallCount.eval ⟨⟨1, true⟩, 0, alarm⟩ 4 0 failingCall 0 .oneScope =
        eval ⟨1, true⟩ 4 failingCall 0 .oneScope) ∧
      ∃ m', (eval ⟨1, true⟩ 4 failingCall 0 .oneScope).machine? = some m' ∧ m'.depth = 0) ∧
    (∀ ev f args span, callFunction ⟨0, true⟩ ev f args span .oneScope =
      .failed (.recursionLimit 0 f.name span) .oneScope) ∧
    ∃ runs, runAll 9 (fresh ⟨2, true⟩ .unbounded) recursionThenValue = some runs ∧
      ∀ run ∈ runs, run.2.machine.depth = 0 := by
  obtain ⟨heval, -, -⟩ := depth_counts_calls ⟨1, true⟩
  obtain ⟨-, hrefused, -⟩ := depth_counts_calls ⟨0, true⟩
  obtain ⟨-, -, hruns⟩ := depth_counts_calls ⟨2, true⟩
  have hends : (eval ⟨1, true⟩ 4 failingCall 0 .oneScope).machine?.isSome := by decide +kernel
  have hsession : (runAll 9 (fresh ⟨2, true⟩ .unbounded) recursionThenValue).isSome := by
    decide +kernel
  obtain ⟨m', hm'⟩ := Option.isSome_iff_exists.mp hends
  obtain ⟨runs, hall⟩ := Option.isSome_iff_exists.mp hsession
  obtain ⟨hcounted, hrestored⟩ := heval .oneScope (Nat.zero_le 1) 4 failingCall 0
  exact ⟨⟨Nat.zero_le 1, hcounted, m', hm', hrestored m' hm'⟩,
    hrefused .oneScope le_rfl, runs, hall, hruns _ 9 _ runs hall⟩

end Interpreter

end ScopeScript
