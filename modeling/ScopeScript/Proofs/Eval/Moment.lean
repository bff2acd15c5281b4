import ScopeScript.Proofs.Eval.Alike
import ScopeScript.Proofs.Eval.Failure
import ScopeScript.Proofs.Scope.Forest

/-!
# The moments of an evaluation

An evaluation passes through moments: before each expression that it evaluates, and behind it if the
expression has a value. To say of all of them what holds of them, an evaluation is told beforehand
which moments may be seen, and stops at the first one that may not. If it ends in spite of that, it
is the evaluation, and everything that it does lies between moments that are seen.

An error of the output leaves the heap as it was at one of these moments, but for the frames of the
calls in progress, which are cleared.
-/

namespace ScopeScript

open Eval

variable [SearchContext]

/-- A moment of an evaluation, with the state. -/
inductive Moment where
  /-- Before an expression is evaluated in a scope. -/
  | start (e : Expr) (env : ScopeId) (m : Machine)
  /-- Behind an expression that has a value. -/
  | finish (e : Expr) (env : ScopeId) (v : Value) (m : Machine)

/-- The state at a moment. -/
def Moment.machine : Moment → Machine
  | start _ _ m => m
  | finish _ _ _ m => m

open Classical in
/-- Evaluate an expression if the moment before it and the one behind it are seen, and stop
otherwise. -/
noncomputable def seeing (seen : Moment → Prop) (ev : Evaluator) : Evaluator := fun e env m =>
  if seen (.start e env m) ∧ ∀ v m', ev e env m = .done v m' → seen (.finish e env v m') then
    ev e env m
  else .unfinished

/-- Evaluate an expression up to the first moment that is not seen. -/
noncomputable def evalSeeing (seen : Moment → Prop) (rules : Rules) : (steps : Nat) → Evaluator
  | 0 => fun _ _ => Eval.stop
  | steps + 1 =>
    seeing seen (evalStep (callFunction rules (evalSeeing seen rules steps))
      (evalSeeing seen rules steps) steps)

/-- All moments of the evaluation of a program are seen: it ends although it would stop at a moment
that is not. -/
def StaysWithin (seen : Moment → Prop) (rules : Rules) (steps : Nat) (program : List Expr)
    (env : ScopeId) (m : Machine) : Prop :=
  evalSequence (evalSeeing seen rules steps) env .undefined program m ≠ .unfinished

variable {seen : Moment → Prop} {rules : Rules} {e : Expr} {env : ScopeId} {m m' : Machine}

/-! ## What stays within its moments -/

/-- An evaluation that does not stop at a moment is the evaluation. -/
theorem evalSeeing_related (seen : Moment → Prop) (rules : Rules) (steps : Nat) :
    moreSteps.Evaluators (evalSeeing seen rules steps) (eval rules steps) := by
  have hlax : ¬ moreSteps.lax → ∀ n n' : Nat, n = n' := fun hstrict => absurd trivial hstrict
  induction steps with
  | zero => exact fun _ _ _ _ _ _ _ _ _ _ => .unfinished fun hstrict => absurd trivial hstrict
  | succ steps ih =>
    have hstep := Simulation.evalStep_related ih (callFunction_alike rules ih) (le_refl steps)
      fun hstrict => hlax hstrict _ _
    intro w e e' env env' he henv m m' hm
    rw [evalSeeing, seeing]
    split
    · exact hstep w e e' env env' he henv m m' hm
    · exact .unfinished fun hstrict => absurd trivial hstrict

/-- An evaluation that does not stop at a moment is the evaluation. -/
theorem evalSeeing_eq {steps : Nat} (h : evalSeeing seen rules steps e env m ≠ .unfinished) :
    eval rules steps e env m = evalSeeing seen rules steps e env m :=
  (evalSeeing_related seen rules steps () e e env env rfl rfl m m
    (machine_moreSteps m)).eq_of_moreSteps h

/-- **What stays within its moments** is the evaluation of the program. -/
theorem StaysWithin.eq {steps : Nat} {program : List Expr}
    (h : StaysWithin seen rules steps program env m) :
    evalProgram rules steps program env m =
      evalSequence (evalSeeing seen rules steps) env .undefined program m :=
  (Simulation.evalSequence_related (evalSeeing_related seen rules steps)
    (rfl : moreSteps.scope () env env) (List.forall₂_same.mpr fun _ _ => rfl) .undefined m m
    (machine_moreSteps m)).eq_of_moreSteps h

/-- An evaluation that sees everything never stops. -/
theorem evalSeeing_of_forall (hseen : ∀ x, seen x) (rules : Rules) (steps : Nat) :
    evalSeeing seen rules steps = eval rules steps := by
  rw [eval]
  induction steps with
  | zero => rfl
  | succ steps ih =>
    funext e env m
    rw [evalSeeing, seeing, if_pos ⟨hseen _, fun _ _ _ => hseen _⟩, ih]
    rfl

/-! ## What errors of the output leave -/

/-- A heap is that of a moment that is seen, with some scopes from `n` on cleared. -/
def LeftBehind (seen : Moment → Prop) (n : Nat) (h : Heap) : Prop :=
  ∃ x, seen x ∧ ∃ frames : List ScopeId, (∀ i ∈ frames, n ≤ i) ∧
    h = frames.foldl Heap.clear x.machine.heap

variable {n : Nat}

/-- Leaving a call clears at most one of the scopes from `n` on. -/
theorem LeftBehind.leave (h : LeftBehind seen n m.heap) {frame : ScopeId} (hframe : n ≤ frame)
    (clear : Bool) : LeftBehind seen n (m.leave frame clear).heap := by
  cases clear with
  | false => exact h
  | true =>
    obtain ⟨x, hx, frames, hframes, heap⟩ := h
    refine ⟨x, hx, frames ++ [frame], ?_, ?_⟩
    · exact List.forall_mem_append.mpr ⟨hframes, List.forall_mem_singleton.mpr hframe⟩
    · rw [List.foldl_append, ← heap]
      rfl

/-- The heap is that of a moment that is seen. -/
def AtMoment (seen : Moment → Prop) (n : Nat) (m : Machine) : Prop :=
  n ≤ m.heap.scopes.size ∧ ∃ x, seen x ∧ x.machine.heap = m.heap

/-- An error of the output leaves the heap of a moment behind. -/
def LeavesMoment (seen : Moment → Prop) (n : Nat) (err : RuntimeError) (m : Machine) : Prop :=
  ∀ reason, err = .output reason → LeftBehind seen n m.heap

/-- An error that is not of the output leaves nothing to show. -/
theorem leavesMoment_of_ne {err : RuntimeError} (h : ∀ reason, err ≠ .output reason) :
    LeavesMoment seen n err m :=
  fun reason hreason => absurd hreason (h reason)

/-- A line that cannot be written leaves the heap of its moment behind. -/
theorem writeLine_leavesMoment (text : String) :
    Ensures (AtMoment seen n) (AtMoment seen n) (LeavesMoment seen n) (writeLine text) := by
  intro m hm
  rw [writeLine]
  dsimp only
  split
  · exact hm
  · obtain ⟨-, x, hx, hheap⟩ := hm
    exact fun _ _ => ⟨x, hx, [], by simp, hheap.symm⟩

/-- The frames of calls in progress are new. -/
theorem callFunction_leavesMoment {ev : Evaluator}
    (hev : ∀ e env, Ensures (fun m => n ≤ m.heap.scopes.size) (AtMoment seen n)
      (LeavesMoment seen n) (ev e env)) (f : Closure) (args : List Value) (span : Span) :
    Ensures (AtMoment seen n) (fun _ => True) (LeavesMoment seen n)
      (callFunction rules ev f args span) := by
  refine callFunction_ensures (fun m _ => leavesMoment_of_ne nofun) fun m hm err m₁ hbody => ?_
  have hsize : n ≤ (m.enter f args).1.heap.scopes.size :=
    hm.1.trans (m.frame_lt_size_enter f args).le
  have hmeets := evalSequence_ensures (fun e => (hev e m.heap.scopes.size).mono (fun _ => id)
    fun _ => And.left) .undefined f.body _ hsize
  rw [hbody] at hmeets
  exact fun reason hreason => (hmeets reason hreason).leave hm.1 _

/-- **Errors of the output** leave the heap of a moment, but for frames that are cleared. -/
theorem evalSeeing_leavesMoment (steps : Nat) (e : Expr) (env : ScopeId) :
    Ensures (fun m => n ≤ m.heap.scopes.size) (AtMoment seen n) (LeavesMoment seen n)
      (evalSeeing seen rules steps e env) := by
  induction steps generalizing e env with
  | zero => exact .stop
  | succ steps ih =>
    intro m hm
    have hstep : Ensures (AtMoment seen n) (fun _ => True) (LeavesMoment seen n)
        (evalStep (callFunction rules (evalSeeing seen rules steps)) (evalSeeing seen rules steps)
          steps e env) := by
      refine evalStep_ensures (fun e => (ih e env).mono (fun _ => And.left) fun _ => id)
        writeLine_leavesMoment (fun _ _ _ _ => leavesMoment_of_ne nofun) ?_ ?_ ?_ steps
      · rintro err m - hpoints
        refine leavesMoment_of_ne ?_
        rintro reason rfl
        cases hpoints
      · exact fun _ _ _ _ _ _ _ _ => leavesMoment_of_ne nofun
      · exact fun _ _ span _ f vs => callFunction_leavesMoment ih f vs span
    have hgrows : ∀ m', (evalSeeing seen rules (steps + 1) e env m).machine? = some m' →
        n ≤ m'.heap.scopes.size := by
      intro m' hm'
      have hends : evalSeeing seen rules (steps + 1) e env m ≠ .unfinished :=
        Outcome.isSome_machine?_iff.mp (Option.isSome_of_eq_some hm')
      rw [← evalSeeing_eq hends] at hm'
      exact hm.trans (eval_keepsParents rules (steps + 1) e env m m' hm').size_le
    rw [evalSeeing, seeing] at hgrows ⊢
    split at hgrows
    · next hseen =>
      rw [if_pos hseen]
      have hmeets := hstep m ⟨hm, _, hseen.1, rfl⟩
      have hfinish := hseen.2
      generalize evalStep _ _ steps e env m = o at hgrows hmeets hfinish
      cases o with
      | done v m' => exact ⟨hgrows m' rfl, _, hfinish v m' rfl, rfl⟩
      | failed err m' => exact hmeets
      | unfinished => trivial
    · next hseen =>
      rw [if_neg hseen]
      trivial

/-- A program that fails with an error of the output leaves the heap of a moment behind. -/
theorem StaysWithin.leftBehind {steps : Nat} {program : List Expr}
    (h : StaysWithin seen rules steps program env m) {reason : String}
    (hfailed : evalProgram rules steps program env m = .failed (.output reason) m') :
    LeftBehind seen m.heap.scopes.size m'.heap := by
  have hev : ∀ e, Ensures (fun m' => m.heap.scopes.size ≤ m'.heap.scopes.size)
      (fun m' => m.heap.scopes.size ≤ m'.heap.scopes.size)
      (LeavesMoment seen m.heap.scopes.size) (evalSeeing seen rules steps e env) :=
    fun e => (evalSeeing_leavesMoment steps e env).mono (fun _ => id) fun _ => And.left
  have hmeets := evalSequence_ensures hev .undefined program m le_rfl
  rw [← h.eq, hfailed] at hmeets
  exact hmeets reason rfl

end ScopeScript
