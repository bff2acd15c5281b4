import Mathlib.Order.Filter.AtTopBot.Basic
import ScopeScript.Proofs.Eval.Alike

/-!
# Evaluation without counting steps

How an expression evaluates when the steps are not limited: it ends in some number of steps, and
then in the same way in every larger number. Evaluating expressions in order, choosing by a
condition and repeating while a condition holds are described here by what is evaluated when, in
terms of the evaluation of the expressions alone. A derivation is finite, so what never ends has
none.
-/

namespace ScopeScript

variable [SearchContext]

variable {α β : Type} {rules : Rules} {env : ScopeId} {m : Machine} {o : Outcome Value}

/-- An expression evaluates, and this is how it ends. -/
structure Evaluates (rules : Rules) (env : ScopeId) (e : Expr) (m : Machine)
    (o : Outcome Value) : Prop where
  ends : o ≠ .unfinished
  inSteps : ∃ steps, eval rules steps e env m = o

/-- Expressions evaluate in order up to the first one that fails. The value is that of the last one,
and `last` if there is none. -/
inductive EvaluatesAll (rules : Rules) (env : ScopeId) :
    (last : Value) → List Expr → Machine → Outcome Value → Prop
  | nil {last m} : EvaluatesAll rules env last [] m (.done last m)
  | cons {last e rest m v m' o} : Evaluates rules env e m (.done v m') →
    EvaluatesAll rules env v rest m' o → EvaluatesAll rules env last (e :: rest) m o
  | failed {last e rest m err m'} : Evaluates rules env e m (.failed err m') →
    EvaluatesAll rules env last (e :: rest) m (.failed err m')

/-- A condition is evaluated once, and then the one or the other list of expressions. -/
inductive Chooses (rules : Rules) (env : ScopeId) (condition : Expr) (yes no : List Expr) :
    Machine → Outcome Value → Prop
  | holds {m v m' o} : Evaluates rules env condition m (.done v m') → v.isTruthy = true →
    EvaluatesAll rules env .undefined yes m' o → Chooses rules env condition yes no m o
  | fails {m v m' o} : Evaluates rules env condition m (.done v m') → v.isTruthy = false →
    EvaluatesAll rules env .undefined no m' o → Chooses rules env condition yes no m o
  | failed {m err m'} : Evaluates rules env condition m (.failed err m') →
    Chooses rules env condition yes no m (.failed err m')

/-- A condition is evaluated, and as long as it holds the body is, and then the condition again. -/
inductive Repeats (rules : Rules) (env : ScopeId) (condition : Expr) (body : List Expr) :
    Machine → Outcome Value → Prop
  | again {m v m₁ w m₂ o} : Evaluates rules env condition m (.done v m₁) → v.isTruthy = true →
    EvaluatesAll rules env .undefined body m₁ (.done w m₂) →
    Repeats rules env condition body m₂ o → Repeats rules env condition body m o
  | stops {m v m₁} : Evaluates rules env condition m (.done v m₁) → v.isTruthy = false →
    Repeats rules env condition body m (.done .undefined m₁)
  | conditionFailed {m err m₁} : Evaluates rules env condition m (.failed err m₁) →
    Repeats rules env condition body m (.failed err m₁)
  | bodyFailed {m v m₁ err m₂} : Evaluates rules env condition m (.done v m₁) →
    v.isTruthy = true → EvaluatesAll rules env .undefined body m₁ (.failed err m₂) →
    Repeats rules env condition body m (.failed err m₂)

/-! ## One computation behind another -/

namespace Eval

variable {x : Eval α} {f : α → Eval β}

/-- What follows a computation that is done. -/
theorem bind_of_done {a : α} {m' : Machine} (h : x m = .done a m') : (x >>= f) m = f a m' := by
  change Eval.bind x f m = _
  rw [Eval.bind, h]

/-- Nothing follows a computation that fails. -/
theorem bind_of_failed {e : RuntimeError} {m' : Machine} (h : x m = .failed e m') :
    (x >>= f) m = .failed e m' := by
  change Eval.bind x f m = _
  rw [Eval.bind, h]

/-- What ends has a first part that ends, and goes on unless that fails. -/
theorem bind_cases {o : Outcome β} (h : (x >>= f) m = o) (ho : o ≠ .unfinished) :
    (∃ a m', x m = .done a m' ∧ f a m' = o) ∨ ∃ e m', x m = .failed e m' ∧ o = .failed e m' := by
  change Eval.bind x f m = o at h
  rw [Eval.bind] at h
  cases hx : x m with
  | done a m' =>
    rw [hx] at h
    exact .inl ⟨a, m', rfl, h⟩
  | failed e m' =>
    rw [hx] at h
    exact .inr ⟨e, m', rfl, h.symm⟩
  | unfinished =>
    rw [hx] at h
    exact absurd h.symm ho

end Eval

open Eval Filter

/-! ## Expressions -/

/-- A sequence of a single expression is that expression. -/
theorem evalSequence_singleton (ev : Evaluator) (env : ScopeId) (last : Value) (e : Expr) :
    evalSequence ev env last [e] = ev e env := by
  funext m
  change Eval.bind (ev e env) _ m = _
  rw [Eval.bind]
  cases ev e env m <;> rfl

/-- More steps do not change how an expression ends. -/
theorem eval_steps_le {steps steps' : Nat} (hle : steps ≤ steps') {e : Expr}
    (h : eval rules steps e env m ≠ .unfinished) :
    eval rules steps' e env m = eval rules steps e env m := by
  have hprogram : ∀ steps, evalProgram rules steps [e] env m = eval rules steps e env m :=
    fun steps => congrFun (evalSequence_singleton _ env _ e) m
  rw [← hprogram] at h
  rw [← hprogram, ← hprogram]
  exact evalProgram_steps_le hle h

namespace Evaluates

variable {e : Expr}

/-- An evaluation that ends within some steps is one by the rules. -/
theorem of_eval {steps : Nat} (h : eval rules steps e env m = o) (ho : o ≠ .unfinished) :
    Evaluates rules env e m o :=
  ⟨ho, steps, h⟩

/-- An evaluation that leaves a state behind has ended. -/
theorem of_isSome {steps : Nat} (h : (eval rules steps e env m).machine?.isSome) :
    Evaluates rules env e m (eval rules steps e env m) := by
  refine .of_eval rfl fun hunfinished => ?_
  rw [hunfinished] at h
  cases h

/-- An evaluation by the rules ends so within any number of steps that is large enough. -/
theorem eventually (h : Evaluates rules env e m o) :
    ∀ᶠ steps in atTop, eval rules steps e env m = o := by
  obtain ⟨ho, n, rfl⟩ := h
  exact eventually_atTop.mpr ⟨n, fun steps hsteps => eval_steps_le hsteps ho⟩

/-- An expression ends in one way. -/
theorem unique {o' : Outcome Value} (h : Evaluates rules env e m o)
    (h' : Evaluates rules env e m o') : o = o' := by
  obtain ⟨steps, hsteps, hsteps'⟩ := (h.eventually.and h'.eventually).exists
  exact hsteps.symm.trans hsteps'

end Evaluates

/-! ## Sequences -/

namespace EvaluatesAll

variable {last : Value} {es : List Expr}

/-- A sequence by the rules ends. -/
theorem ends (h : EvaluatesAll rules env last es m o) : o ≠ .unfinished := by
  induction h with
  | nil => nofun
  | cons _ _ ih => exact ih
  | failed => nofun

/-- A sequence that ends within some steps is one by the rules. -/
theorem of_evalSequence {steps : Nat} (h : evalSequence (eval rules steps) env last es m = o)
    (ho : o ≠ .unfinished) : EvaluatesAll rules env last es m o := by
  induction es generalizing last m with
  | nil =>
    cases h
    exact .nil
  | cons e rest ih =>
    obtain ⟨v, m', he, hrest⟩ | ⟨err, m', he, rfl⟩ := bind_cases h ho
    · exact .cons (.of_eval he nofun) (ih hrest)
    · exact .failed (.of_eval he ho)

/-- A sequence by the rules ends so within any number of steps that is large enough. -/
theorem eventually (h : EvaluatesAll rules env last es m o) :
    ∀ᶠ steps in atTop, evalSequence (eval rules steps) env last es m = o := by
  induction h with
  | nil => exact .of_forall fun _ => rfl
  | cons he _ ih =>
    filter_upwards [he.eventually, ih] with steps he hrest
    exact (bind_of_done he).trans hrest
  | failed he =>
    filter_upwards [he.eventually] with steps he
    exact bind_of_failed he

end EvaluatesAll

/-! ## Choices -/

namespace Chooses

variable {condition : Expr} {yes no : List Expr}

/-- A choice by the rules ends. -/
theorem ends (h : Chooses rules env condition yes no m o) : o ≠ .unfinished := by
  cases h with
  | holds _ _ hbranch | fails _ _ hbranch => exact hbranch.ends
  | failed hcondition => exact hcondition.ends

/-- A choice that ends within some steps is one by the rules. -/
theorem of_bind {steps : Nat}
    (h : (eval rules steps condition env >>= fun v =>
      evalSequence (eval rules steps) env .undefined (if v.isTruthy then yes else no)) m = o)
    (ho : o ≠ .unfinished) : Chooses rules env condition yes no m o := by
  obtain ⟨v, m', hv, hbranch⟩ | ⟨err, m', hv, rfl⟩ := bind_cases h ho
  · have hcondition : Evaluates rules env condition m (.done v m') := .of_eval hv nofun
    cases htruthy : v.isTruthy with
    | true =>
      rw [htruthy, if_pos rfl] at hbranch
      exact .holds hcondition htruthy (.of_evalSequence hbranch ho)
    | false =>
      rw [htruthy, if_neg Bool.false_ne_true] at hbranch
      exact .fails hcondition htruthy (.of_evalSequence hbranch ho)
  · exact .failed (.of_eval hv ho)

/-- A choice by the rules ends so within any number of steps that is large enough. -/
theorem eventually (h : Chooses rules env condition yes no m o) :
    ∀ᶠ steps in atTop, (eval rules steps condition env >>= fun v =>
      evalSequence (eval rules steps) env .undefined (if v.isTruthy then yes else no)) m = o := by
  cases h with
  | holds hcondition htruthy hbranch | fails hcondition htruthy hbranch =>
    filter_upwards [hcondition.eventually, hbranch.eventually] with steps hcondition hbranch
    rw [bind_of_done hcondition, htruthy]
    exact hbranch
  | failed hcondition =>
    filter_upwards [hcondition.eventually] with steps hcondition
    exact bind_of_failed hcondition

end Chooses

/-! ## Loops -/

namespace Repeats

variable {condition : Expr} {body : List Expr}

/-- A loop by the rules ends. -/
theorem ends (h : Repeats rules env condition body m o) : o ≠ .unfinished := by
  induction h with
  | again _ _ _ _ ih => exact ih
  | stops | conditionFailed | bodyFailed => nofun

/-- A loop that ends within some steps and rounds is one by the rules. -/
theorem of_evalRounds {steps rounds : Nat}
    (h : evalRounds (eval rules steps) env condition body rounds m = o) (ho : o ≠ .unfinished) :
    Repeats rules env condition body m o := by
  induction rounds generalizing m with
  | zero => exact absurd h.symm ho
  | succ rounds ih =>
    obtain ⟨v, m₁, hv, hround⟩ | ⟨err, m₁, hv, rfl⟩ := bind_cases h ho
    · have hcondition : Evaluates rules env condition m (.done v m₁) := .of_eval hv nofun
      split at hround
      · next htruthy =>
        obtain ⟨w, m₂, hbody, hnext⟩ | ⟨err, m₂, hbody, rfl⟩ := bind_cases hround ho
        · exact .again hcondition htruthy (.of_evalSequence hbody nofun) (ih hnext)
        · exact .bodyFailed hcondition htruthy (.of_evalSequence hbody ho)
      · next htruthy =>
        cases hround
        exact .stops hcondition (Bool.eq_false_of_not_eq_true htruthy)
    · exact .conditionFailed (.of_eval hv ho)

/-- A loop by the rules ends so, if there are steps and rounds enough. -/
theorem eventually (h : Repeats rules env condition body m o) :
    ∃ n, ∀ᶠ steps in atTop, ∀ rounds ≥ n,
      evalRounds (eval rules steps) env condition body rounds m = o := by
  -- Each check of the condition uses up one of the rounds.
  have hround : ∀ {p : Nat → Prop} {n}, (∀ rounds ≥ n, p (rounds + 1)) → ∀ rounds ≥ n + 1,
      p rounds := by
    intro p n hp rounds hrounds
    obtain ⟨rounds, rfl⟩ := Nat.exists_eq_succ_of_ne_zero (Nat.ne_zero_of_lt hrounds)
    exact hp rounds (Nat.le_of_succ_le_succ hrounds)
  induction h with
  | again hcondition htruthy hbody _ ih =>
    obtain ⟨n, hnext⟩ := ih
    refine ⟨n + 1, ?_⟩
    filter_upwards [hcondition.eventually, hbody.eventually, hnext] with
      steps hcondition hbody hnext
    refine hround fun rounds hrounds => ?_
    rw [evalRounds, bind_of_done hcondition, if_pos htruthy, bind_of_done hbody]
    exact hnext rounds hrounds
  | stops hcondition htruthy =>
    refine ⟨1, ?_⟩
    filter_upwards [hcondition.eventually] with steps hcondition
    refine hround fun rounds _ => ?_
    rw [evalRounds, bind_of_done hcondition, htruthy]
    rfl
  | conditionFailed hcondition =>
    refine ⟨1, ?_⟩
    filter_upwards [hcondition.eventually] with steps hcondition
    exact hround fun rounds _ => bind_of_failed hcondition
  | bodyFailed hcondition htruthy hbody =>
    refine ⟨1, ?_⟩
    filter_upwards [hcondition.eventually, hbody.eventually] with steps hcondition hbody
    refine hround fun rounds _ => ?_
    rw [evalRounds, bind_of_done hcondition, if_pos htruthy]
    exact bind_of_failed hbody

end Repeats

end ScopeScript
