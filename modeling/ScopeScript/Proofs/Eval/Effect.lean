import Mathlib.Order.Defs.Unbundled
import ScopeScript.Proofs.Eval.Search

/-!
# Effects of evaluation

A computation keeps a relation between states if it relates every state to the one it leaves
behind, whether it ends with a value or with an error. For a reflexive and transitive relation
this is a property of the parts: a compound evaluation keeps the relation if the evaluations
of its expressions in its scope do, and if calling and printing do. Nothing is said about
values, and nothing about evaluations that run out of steps.
-/

namespace ScopeScript

variable [SearchContext]

variable {α β : Type}

/-- The state that an outcome leaves behind. -/
def Outcome.machine? : Outcome α → Option Machine
  | .done _ m => some m
  | .failed _ m => some m
  | .unfinished => none

/-- A computation leaves a state behind exactly if it ends. -/
theorem Outcome.isSome_machine?_iff {o : Outcome α} : o.machine?.isSome ↔ o ≠ .unfinished := by
  cases o <;> simp [machine?]

namespace Eval

/-- Every state is related to the one that the computation leaves behind. -/
def Keeps (P : Machine → Machine → Prop) (x : Eval α) : Prop :=
  ∀ m m', (x m).machine? = some m' → P m m'

variable {P : Machine → Machine → Prop} [IsPreorder Machine P]

namespace Keeps

/-- Giving a value changes nothing. -/
theorem pure (a : α) : Keeps P (Pure.pure a : Eval α) := by
  intro m m' h
  cases h
  exact refl m

/-- Failing changes nothing. -/
theorem fail (e : RuntimeError) : Keeps P (Eval.fail e : Eval α) := by
  intro m m' h
  cases h
  exact refl m

omit [IsPreorder Machine P] in
/-- What does not end leaves no state behind. -/
theorem stop : Keeps P (Eval.stop : Eval α) := by
  intro m m' h
  cases h

/-- A result that is there changes nothing. -/
theorem lift (x : Except RuntimeError α) : Keeps P (Eval.lift x) := by
  intro m m' h
  cases x <;> cases h <;> exact refl m

/-- Looking up a name changes nothing. -/
theorem lookup? (env : ScopeId) (name : String) : Keeps P (Eval.lookup? env name) := by
  intro m m' h
  cases h
  exact refl m

/-- What each of two computations keeps, they keep one after the other. -/
theorem bind {x : Eval α} {f : α → Eval β} (hx : Keeps P x) (hf : ∀ a, Keeps P (f a)) :
    Keeps P (x >>= f) := by
  intro m m' h
  change Outcome.machine? (Eval.bind x f m) = some m' at h
  have hm := hx m
  rw [Eval.bind] at h
  cases hxm : x m with
  | done a m₁ =>
    rw [hxm] at h hm
    exact IsTrans.trans _ _ _ (hm m₁ rfl) (hf a m₁ m' h)
  | failed e m₁ =>
    rw [hxm] at h hm
    exact hm m' h
  | unfinished =>
    rw [hxm] at h
    cases h

end Keeps

/-- Writing a line changes no scope. -/
theorem heap_of_writeLine {text : String} {m m' : Machine}
    (h : (writeLine text m).machine? = some m') : m'.heap = m.heap := by
  simp only [writeLine] at h
  split at h <;> cases h <;> rfl

end Eval

open Eval

section Combinators

variable {P : Machine → Machine → Prop} [IsPreorder Machine P]
variable {ev : Evaluator} {env : ScopeId}

/-- A sequence has no effects but those of its expressions. -/
theorem evalSequence_keeps {es : List Expr} (hes : ∀ e ∈ es, Keeps P (ev e env)) (last : Value) :
    Keeps P (evalSequence ev env last es) := by
  induction es generalizing last with
  | nil => exact Keeps.pure last
  | cons e rest ih =>
    rw [List.forall_mem_cons] at hes
    exact Keeps.bind hes.1 (ih hes.2)

/-- What the expressions of a list keep, evaluating all of them keeps. -/
theorem evalAll_keeps {es : List Expr} (hes : ∀ e ∈ es, Keeps P (ev e env)) :
    Keeps P (evalAll ev env es) := by
  induction es with
  | nil => exact Keeps.pure []
  | cons e rest ih =>
    rw [List.forall_mem_cons] at hes
    exact Keeps.bind hes.1 fun v => Keeps.bind (ih hes.2) fun vs => Keeps.pure (v :: vs)

/-- What the arguments keep, evaluating one that may be missing keeps. -/
theorem evalOptional_keeps {es : List Expr} (hes : ∀ e ∈ es, Keeps P (ev e env)) (i : Nat) :
    Keeps P (evalOptional ev env es[i]?) := by
  cases he : es[i]? with
  | none => exact Keeps.pure _
  | some e => exact hes e (List.mem_of_getElem? he)

/-- The special forms have no effects but those of their arguments and of their block. -/
theorem evalChoice_keeps {args body : List Expr} (hargs : ∀ e ∈ args, Keeps P (ev e env))
    (hbody : ∀ e ∈ body, Keeps P (ev e env)) : Keeps P (evalChoice ev env args body) := by
  cases args with
  | nil => exact Keeps.pure _
  | cons condition rest =>
    rw [List.forall_mem_cons] at hargs
    refine Keeps.bind hargs.1 fun c => ?_
    split
    · exact evalOptional_keeps hargs.2 0
    · exact evalOptional_keeps hargs.2 1
    · exact evalSequence_keeps hbody _
    · exact evalOptional_keeps hargs.2 0

/-- What condition and body keep, a loop keeps. -/
theorem evalRounds_keeps {condition : Expr} {body : List Expr}
    (hcondition : Keeps P (ev condition env)) (hbody : ∀ e ∈ body, Keeps P (ev e env))
    (rounds : Nat) : Keeps P (evalRounds ev env condition body rounds) := by
  induction rounds with
  | zero => exact Keeps.stop
  | succ rounds ih =>
    refine Keeps.bind hcondition fun c => ?_
    split
    · exact Keeps.bind (evalSequence_keeps hbody _) fun _ => ih
    · exact Keeps.pure _

/-- What arguments and body keep, a special form keeps. -/
theorem evalSpecial_keeps {args body : List Expr} (hargs : ∀ e ∈ args, Keeps P (ev e env))
    (hbody : ∀ e ∈ body, Keeps P (ev e env)) (rounds : Nat) (form : SpecialForm) :
    Keeps P (evalSpecial ev rounds env args body form) := by
  cases form with
  | choice => exact evalChoice_keeps hargs hbody
  | loop =>
    cases args with
    | nil => exact Keeps.pure _
    | cons condition rest =>
      rw [List.forall_mem_cons] at hargs
      refine evalRounds_keeps hargs.1 ?_ rounds
      split
      · exact hargs.2
      · exact hbody

/-- Searching has no effects. -/
theorem search_keeps (args : List Value) (kind : SearchKind) : Keeps P (search args kind) := by
  rw [search_eq_lift]
  exact Keeps.lift _

variable (hwrite : ∀ text, Keeps P (writeLine text))

include hwrite

/-- Printing keeps what writing a line keeps. -/
theorem printAll_keeps (vs : List Value) : Keeps P (printAll vs) := by
  induction vs with
  | nil => exact Keeps.pure _
  | cons v rest ih => exact Keeps.bind (hwrite _) fun _ => ih

/-- Native builtins keep what writing a line keeps. -/
theorem callNative_keeps (vs : List Value) (n : Native) : Keeps P (callNative vs n) := by
  cases n with
  | print => exact printAll_keeps hwrite vs
  | searchIndexes => exact search_keeps vs .indexes
  | searchElements => exact search_keeps vs .elements
  | indexAccess => exact Keeps.pure _
  | indexCount => exact Keeps.pure _

/-- A call has no effects but those of the callee, the arguments, what is printed, and the
function that is called. -/
theorem evalCall_keeps {call : Caller} {callee : Expr} {args : List Expr}
    (hcallee : Keeps P (ev callee env)) (hargs : ∀ e ∈ args, Keeps P (ev e env))
    (hcall : ∀ f vs span, Keeps P (call f vs span)) (rounds : Nat) (span : Span) :
    Keeps P (evalCall call ev rounds env callee args span) := by
  refine Keeps.bind hcallee fun v => ?_
  split
  · split
    · exact evalSpecial_keeps hargs (by simp) rounds _
    · exact Keeps.bind (evalAll_keeps hargs) fun vs => callNative_keeps hwrite vs _
    · exact Keeps.bind (evalAll_keeps hargs) fun vs => hcall _ vs span
  · exact Keeps.fail _

end Combinators

end ScopeScript
