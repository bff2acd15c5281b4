import ScopeScript.Proofs.Eval.Correspondence
import ScopeScript.Proofs.Eval.Simulation

/-!
# Evaluations alike but for expressions

Two heaps are alike if they have the same scopes with the same names bound in the same order,
to values that differ at most in the expressions that functions are made of. Evaluation keeps
heaps alike, whatever the relation between expressions is, as long as it relates nodes of one
kind. For the equality of expressions this says that more steps change nothing about an
evaluation that ends.
-/

namespace ScopeScript

/-- Values alike but for expressions. -/
abbrev Value.Alike (E : Expr → Expr → Prop) : Value → Value → Prop :=
  Value.Lift (Closure.Lift E Eq)

/-- Bindings of one name to values alike. -/
def AlikeBinding (E : Expr → Expr → Prop) (b b' : String × Value) : Prop :=
  b.1 = b'.1 ∧ Value.Alike E b.2 b'.2

variable {E : Expr → Expr → Prop}

/-- Functions that agree in every part are equal. -/
theorem Closure.Lift.eq {f f' : Closure} (hf : Closure.Lift Eq Eq f f') : f = f' := by
  obtain ⟨name, params, body, scope⟩ := f
  obtain ⟨hname, hparams, hbody, hscope⟩ := hf
  cases f'
  simp_all

namespace Heap

/-- Heaps of one shape with the same names bound, to values alike. -/
structure Alike (E : Expr → Expr → Prop) (h h' : Heap) : Prop where
  size_eq : h.scopes.size = h'.scopes.size
  parent?_eq : ∀ i, h.parent? i = h'.parent? i
  bindings : ∀ i, List.Forall₂ (AlikeBinding E) (h.bindings i) (h'.bindings i)

namespace Alike

/-- Heaps alike up to equality are equal. -/
theorem eq {h h' : Heap} (ha : Alike Eq h h') : h = h' := by
  refine eq_of_bindings ha.size_eq ha.parent?_eq fun i => ?_
  refine List.forall₂_eq_eq_eq ▸ (ha.bindings i).imp fun b b' hb => ?_
  exact Prod.ext hb.1 (hb.2.mono fun _ _ => Closure.Lift.eq).eq

variable {h h' : Heap}

/-- Heaps that correspond by functions that are alike are alike. -/
theorem of_corresponds (hh : Corresponds (Closure.Lift E Eq) h h') : Alike E h h' :=
  ⟨hh.size_eq, hh.parent?_eq, hh.bindings⟩

/-- A heap is like itself. -/
theorem refl (hE : ∀ e, E e e) (h : Heap) : Alike E h h :=
  of_corresponds (.self fun _ _ _ _ _ => ⟨rfl, rfl, List.forall₂_same.mpr fun e _ => hE e, rfl⟩)

variable (ha : Alike E h h')

include ha

/-- Heaps that are alike correspond. -/
theorem corresponds : Corresponds (Closure.Lift E Eq) h h' :=
  ⟨ha.size_eq, ha.parent?_eq, ha.bindings⟩

/-- A name means values that are alike, or nothing in both heaps. -/
theorem lookup? (i : ScopeId) (name : String) :
    Option.Rel (Value.Alike E) (h.lookup? i name) (h'.lookup? i name) :=
  ha.corresponds.lookup? i name

/-- Heaps stay alike when values that are alike are bound to a name. -/
theorem bind (i : ScopeId) (name : String) {v v' : Value} (hv : Value.Alike E v v') :
    Alike E (h.bind i name v) (h'.bind i name v') :=
  of_corresponds (ha.corresponds.bind i name hv)

/-- Heaps stay alike when both get a new scope. -/
theorem newChild (i : ScopeId) : Alike E (h.newChild i).1 (h'.newChild i).1 :=
  of_corresponds (ha.corresponds.newChild i)

/-- Values that are alike capture the same scopes. -/
theorem captures_eq (frame : ScopeId) {v v' : Value} (hv : Value.Alike E v v') :
    h.captures frame v = h'.captures frame v' :=
  ha.corresponds.captures_eq (fun _ _ hf => hf.scope) frame hv

end Alike

end Heap

variable [SearchContext]

/-- Evaluations on heaps that are alike but for expressions. -/
def alike (E : Expr → Expr → Prop) (S : Span → Span → Prop) (lax : Prop)
    (node : ∀ e e', E e e' → Expr.Node E S e e') (span : ∀ e e', E e e' → S e.span e'.span) :
    Simulation where
  World := Unit
  Later _ _ := True
  machine _ m m' := m.sink = m'.sink ∧ m.depth = m'.depth ∧ m.heap.Alike E m'.heap
  scope _ := Eq
  expr := E
  span := S
  lax := lax
  isPreorder := isPreorder_unit
  scope_later _ := id
  node := node _ _
  expr_span := span _ _
  sink_eq hm := hm.1
  depth_eq hm := hm.2.1
  with_heap hm _ _ := ⟨rfl, rfl, hm.2.2⟩
  lookup := by
    rintro _ m m' i _ hm rfl name
    exact hm.2.2.lookup? i name
  bind := by
    rintro _ m m' i _ v v' hm rfl hv name
    exact ⟨hm.1, hm.2.1, hm.2.2.bind i name hv⟩
  newChild := by
    rintro _ m m' i _ hm rfl
    exact ⟨(), trivial, ⟨hm.1, hm.2.1, hm.2.2.newChild i⟩, hm.2.2.corresponds.newChild_snd i⟩

section Alike

variable {S : Span → Span → Prop} {lax : Prop} {node : ∀ e e', E e e' → Expr.Node E S e e'}
variable {span : ∀ e e', E e e' → S e.span e'.span}

/-- Leaving a frame keeps heaps alike. -/
theorem leave_alike {m m' : Machine} (hm : (alike E S lax node span).machine () m m')
    (frame : ScopeId) (clear : Bool) :
    (alike E S lax node span).machine () (m.leave frame clear) (m'.leave frame clear) := by
  have hcorresponds : m.Corresponds (Closure.Lift E Eq) m' := ⟨hm.1, hm.2.1, hm.2.2.corresponds⟩
  have hleft := hcorresponds.leave frame clear
  exact ⟨hleft.sink_eq, hleft.depth_eq, .of_corresponds hleft.heap⟩

/-- Calling functions by the rules keeps heaps alike. -/
theorem callFunction_alike (rules : Rules) {ev ev' : Evaluator}
    (hev : (alike E S lax node span).Evaluators ev ev') :
    (alike E S lax node span).Callers (callFunction rules ev) (callFunction rules ev') := by
  intro w f f' args args' s s' hf hargs hs m m' hm
  have hdepth := hm.2.1
  have hname := hf.name
  by_cases hdeep : m.depth ≥ rules.maxDepth
  · simp only [callFunction, ← hdepth, ← hname, hdeep, if_true]
    exact .failed trivial hm (.recursionLimit _ _ hs)
  obtain ⟨w₁, hw₁, hm₁, hframe⟩ := Simulation.enter_related hm hf hargs
  have hbody := Simulation.evalSequence_related hev hframe hf.body .undefined _ _ hm₁
  have hframe : (m.enter f args).2 = (m'.enter f' args').2 := hframe
  simp only [callFunction, ← hdepth, hdeep, if_false, runBody, ← hframe] at hbody ⊢
  generalize evalSequence ev _ _ _ _ = o at hbody
  generalize evalSequence ev' _ _ _ _ = o' at hbody
  cases hbody with
  | unfinished ho =>
    refine .unfinished fun hstrict => ?_
    rw [ho hstrict]
  | failed _ hm₂ he => exact .failed trivial (leave_alike hm₂ _ _) he
  | done _ hm₂ hv =>
    simp only [hm₂.2.2.captures_eq _ hv]
    exact .done trivial (leave_alike hm₂ _ _) hv

/-- **Evaluation keeps heaps alike.** -/
theorem eval_alike (rules : Rules) {steps steps' : Nat} (hle : steps ≤ steps')
    (hlax : ¬ lax → steps = steps') :
    (alike E S lax node span).Evaluators (eval rules steps) (eval rules steps') :=
  Simulation.evalWith_related (fun _ _ => callFunction_alike rules) hle hlax

end Alike

/-- Evaluations of the same expressions, the second one with more steps. -/
def moreSteps : Simulation :=
  alike Eq Eq True Expr.Node.of_eq (fun _ _ => congrArg Expr.span)

/-- With more steps only equal states go together. -/
theorem eq_of_moreSteps {m m' : Machine} (hm : moreSteps.machine () m m') : m' = m := by
  obtain ⟨hsink, hdepth, hheap⟩ := hm
  exact Machine.eq_of (Heap.Alike.eq hheap).symm hsink.symm hdepth.symm

/-- With more steps every state goes with itself. -/
theorem machine_moreSteps (m : Machine) : moreSteps.machine () m m :=
  ⟨rfl, rfl, .refl (fun _ => rfl) _⟩

/-- An outcome that is one is that of the evaluation with more steps. -/
theorem Simulation.Outcomes.eq_of_moreSteps {o o' : Outcome Value}
    (h : moreSteps.Outcomes moreSteps.value () o o') (ho : o ≠ .unfinished) : o' = o := by
  cases h with
  | done _ hm hv =>
    obtain rfl := (hv.mono fun _ _ => Closure.Lift.eq).eq
    rw [ScopeScript.eq_of_moreSteps hm]
  | failed _ hm he =>
    obtain rfl := he.eq
    rw [ScopeScript.eq_of_moreSteps hm]
  | unfinished => exact absurd rfl ho

/-- **More steps** do not change an evaluation that ends. -/
theorem evalProgram_steps_le {rules : Rules} {steps steps' : Nat} (hle : steps ≤ steps')
    {program : List Expr} {env : ScopeId} {m : Machine}
    (h : evalProgram rules steps program env m ≠ .unfinished) :
    evalProgram rules steps' program env m = evalProgram rules steps program env m := by
  have hev : moreSteps.Evaluators (eval rules steps) (eval rules steps') :=
    eval_alike rules hle fun hlax => absurd trivial hlax
  have hprogram : List.Forall₂ moreSteps.expr program program :=
    List.forall₂_same.mpr fun _ _ => rfl
  exact (Simulation.evalSequence_related hev (rfl : moreSteps.scope () env env) hprogram .undefined
    m m (machine_moreSteps m)).eq_of_moreSteps h

end ScopeScript
