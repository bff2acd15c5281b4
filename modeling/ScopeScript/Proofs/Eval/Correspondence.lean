import ScopeScript.Proofs.Eval.Coupling
import ScopeScript.Proofs.Scope.Correspondence

/-!
# Evaluations on heaps that correspond

Where heaps correspond, so that functions bound in them may differ, scopes are the same. Two
computations correspond if they lead from such states to such states, with results that are
related. This is a coupling for every relation between functions that keeps their names. If it also
keeps their scopes, the same frames are cleared when calls return, so a call corresponds as soon as
the bodies of the functions do. Nothing is asked of functions that are never called.
-/

namespace ScopeScript

variable [SearchContext]

variable {α β α' β' : Type}

/-- States with the same output and depth, on heaps that correspond. -/
structure Machine.Corresponds (R : Closure → Closure → Prop) (m m' : Machine) : Prop where
  sink_eq : m.sink = m'.sink
  depth_eq : m.depth = m'.depth
  heap : m.heap.Corresponds R m'.heap

/-- Outcomes in states that correspond: both values, related by `V`, or both errors, equal up to
spans that `S` relates. -/
inductive Outcome.Corresponds (R : Closure → Closure → Prop) (S : Span → Span → Prop)
    (V : α → β → Prop) : Outcome α → Outcome β → Prop
  | done {a b m m'} : m.Corresponds R m' → V a b → Corresponds R S V (.done a m) (.done b m')
  | failed {e e' m m'} : m.Corresponds R m' → RuntimeError.Lift S e e' →
    Corresponds R S V (.failed e m) (.failed e' m')
  | unfinished : Corresponds R S V .unfinished .unfinished

/-- Computations that lead from states that correspond to such states. -/
def Eval.Corresponds (R : Closure → Closure → Prop) (S : Span → Span → Prop) (V : α → β → Prop)
    (x : Eval α) (y : Eval β) : Prop :=
  ∀ m m', m.Corresponds R m' → (x m).Corresponds R S V (y m')

variable {R : Closure → Closure → Prop} {S : Span → Span → Prop}

namespace Eval.Corresponds

/-- Giving values that are related. -/
theorem pure {V : α → β → Prop} {a : α} {b : β} (hab : V a b) :
    Corresponds R S V (Pure.pure a) (Pure.pure b) :=
  fun _ _ hm => .done hm hab

/-- Failing with errors that are related. -/
theorem fail {V : α → β → Prop} {e e' : RuntimeError} (he : RuntimeError.Lift S e e') :
    Corresponds R S V (Eval.fail e) (Eval.fail e') :=
  fun _ _ hm => .failed hm he

/-- Computations that correspond, followed by such as do for related values. -/
theorem bind {V : α → β → Prop} {V' : α' → β' → Prop} {x : Eval α} {y : Eval β} {f : α → Eval α'}
    {g : β → Eval β'} (hxy : Corresponds R S V x y)
    (hfg : ∀ a b, V a b → Corresponds R S V' (f a) (g b)) :
    Corresponds R S V' (x >>= f) (y >>= g) := by
  intro m m' hm
  have hxm := hxy m m' hm
  change Outcome.Corresponds R S V' (Eval.bind x f m) (Eval.bind y g m')
  rw [Eval.bind, Eval.bind]
  generalize x m = o at hxm
  generalize y m' = o' at hxm
  cases hxm with
  | done hm₁ hab => exact hfg _ _ hab _ _ hm₁
  | failed hm₁ he => exact .failed hm₁ he
  | unfinished => exact .unfinished

/-- Writing a line. -/
theorem writeLine (text : String) :
    Corresponds R S (fun _ _ => True) (Eval.writeLine text) (Eval.writeLine text) := by
  intro m m' hm
  simp only [Eval.writeLine, ← hm.sink_eq]
  split
  · exact .done ⟨rfl, hm.depth_eq, hm.heap⟩ trivial
  · exact .failed ⟨rfl, hm.depth_eq, hm.heap⟩ (.output _)

/-- Flushing the output. -/
theorem flush : Corresponds R S (fun _ _ => True) Eval.flush Eval.flush := by
  intro m m' hm
  simp only [Eval.flush, ← hm.sink_eq]
  split
  · exact .failed hm (.output _)
  · exact .done hm trivial

/-- Looking up a name gives values that are related, or nothing in both states. -/
theorem lookup? (env : ScopeId) (name : String) :
    Corresponds R S (Option.Rel (Value.Lift R)) (Eval.lookup? env name) (Eval.lookup? env name) :=
  fun _ _ hm => .done hm (hm.heap.lookup? env name)

/-- Binding a name to values that are related. -/
theorem bindName (env : ScopeId) (name : String) {v v' : Value} (hv : Value.Lift R v v') :
    Corresponds R S (fun _ _ => True) (Eval.bindName env name v) (Eval.bindName env name v') :=
  fun _ _ hm => .done ⟨hm.sink_eq, hm.depth_eq, hm.heap.bind env name hv⟩ trivial

/-- Making a new scope. -/
theorem newChild (env : ScopeId) :
    Corresponds R S Eq (Eval.newChild env) (Eval.newChild env) :=
  fun _ _ hm =>
    .done ⟨hm.sink_eq, hm.depth_eq, hm.heap.newChild env⟩ (hm.heap.newChild_snd env)

/-- Flushed computations correspond if the computations do. -/
theorem flushed {x y : Eval Value} (hxy : Corresponds R S (Value.Lift R) x y) :
    Corresponds R S (Value.Lift R) (Eval.flushed x) (Eval.flushed y) := by
  intro m m' hm
  have hxm := hxy m m' hm
  rw [Eval.flushed, Eval.flushed]
  generalize x m = o at hxm
  generalize y m' = o' at hxm
  cases hxm with
  | done hm₁ hv => exact flush.bind (fun _ _ _ => pure hv) _ _ hm₁
  | failed hm₁ he => exact flush.bind (fun _ _ _ => fail he) _ _ hm₁
  | unfinished => exact .unfinished

end Eval.Corresponds

/-- Heaps that correspond couple computations, if related functions have the same name. -/
def correspondence (R : Closure → Closure → Prop) (S : Span → Span → Prop)
    (hname : ∀ f f', R f f' → f.name = f'.name) : Coupling where
  World := Unit
  Later _ _ := True
  isPreorder := isPreorder_unit
  closure _ := R
  span := S
  Coupled V w := Eval.Corresponds R S (V w)
  closure_name := hname _ _
  closure_later _ := id
  pure := .pure
  fail := .fail
  bind hxy hfg := hxy.bind (hfg () trivial)
  writeLine _ := .writeLine

section Calls

variable {hname : ∀ f f', R f f' → f.name = f'.name} {ev ev' : Evaluator} {env : ScopeId}

/-- Loops correspond if their conditions and bodies do. -/
theorem evalLoop_corresponds {args args' body body' : List Expr}
    (hargs : (correspondence R S hname).Exprs () ev ev' env env args args')
    (hbody : (correspondence R S hname).Exprs () ev ev' env env body body') (rounds : Nat) :
    Eval.Corresponds R S (Value.Lift R) (evalLoop ev rounds env args body)
      (evalLoop ev' rounds env args' body') := by
  have hloop : (correspondence R S hname).Coupled (correspondence R S hname).value ()
      (evalLoop ev rounds env args body) (evalLoop ev' (0 + rounds) env args' body') :=
    Coupling.evalLoop_coupled hargs hbody (fun _ _ _ _ _ _ _ => .unfinished) rounds
  rwa [Nat.zero_add] at hloop

omit [SearchContext] in
/-- Heaps correspond after binding parameters to arguments that are related. -/
theorem Heap.Corresponds.bindParameters {h h' : Heap} (hh : h.Corresponds R h') (frame : ScopeId)
    (params : List String) {args args' : List Value}
    (hargs : List.Forall₂ (Value.Lift R) args args') :
    (bindParameters frame params args h).Corresponds R (bindParameters frame params args' h') := by
  induction params generalizing h h' args args' with
  | nil => exact hh
  | cons p ps ih =>
    cases hargs with
    | nil => exact ih (hh.bind frame p .undefined) .nil
    | cons ha hargs => exact ih (hh.bind frame p ha) hargs

/-- Entering a call leads to states that correspond. -/
theorem Machine.Corresponds.enter {m m' : Machine} (hm : m.Corresponds R m') {f f' : Closure}
    (hscope : f.scope = f'.scope) (hparams : f.params = f'.params) {args args' : List Value}
    (hargs : List.Forall₂ (Value.Lift R) args args') :
    (m.enter f args).1.Corresponds R (m'.enter f' args').1 ∧
      (m.enter f args).2 = (m'.enter f' args').2 := by
  have hframe := hm.heap.newChild_snd f.scope
  simp only [Machine.enter, ← hscope, ← hparams, ← hframe, and_true]
  exact ⟨hm.sink_eq, congrArg (· + 1) hm.depth_eq, (hm.heap.newChild _).bindParameters _ _ hargs⟩

/-- Leaving a call leads to states that correspond. -/
theorem Machine.Corresponds.leave {m m' : Machine} (hm : m.Corresponds R m') (frame : ScopeId)
    (clear : Bool) : (m.leave frame clear).Corresponds R (m'.leave frame clear) := by
  obtain ⟨heap, sink, depth, patterns⟩ := m
  obtain ⟨heap', sink', depth', patterns'⟩ := m'
  refine ⟨hm.sink_eq, congrArg (· - 1) hm.depth_eq, ?_⟩
  cases clear with
  | false => exact hm.heap
  | true => exact hm.heap.clear frame

/-- Calls of related functions correspond if these have the same parameters and bodies that
correspond, and if related functions have the same scope. -/
theorem callFunction_corresponds (rules : Rules) (hscope : ∀ f f', R f f' → f.scope = f'.scope)
    {f f' : Closure} (hf : R f f') (hparams : f.params = f'.params)
    (hbody : ∀ frame, (correspondence R S hname).Exprs () ev ev' frame frame f.body f'.body)
    {args args' : List Value} (hargs : List.Forall₂ (Value.Lift R) args args') {s s' : Span}
    (hs : S s s') :
    Eval.Corresponds R S (Value.Lift R) (callFunction rules ev f args s)
      (callFunction rules ev' f' args' s') := by
  intro m m' hm
  by_cases hdeep : m.depth ≥ rules.maxDepth
  · simp only [callFunction, ← hm.depth_eq, ← hname f f' hf, hdeep, if_true]
    exact .failed hm (.recursionLimit _ _ hs)
  · obtain ⟨hm₁, hframe⟩ := hm.enter (hscope f f' hf) hparams hargs
    have hbody₁ := Coupling.evalSequence_coupled (hbody (m.enter f args).2)
      (.undefined : (correspondence R S hname).value () .undefined .undefined) _ _ hm₁
    simp only [callFunction, ← hm.depth_eq, hdeep, if_false, runBody, ← hframe]
    generalize evalSequence ev _ _ _ _ = o at hbody₁
    generalize evalSequence ev' _ _ _ _ = o' at hbody₁
    cases hbody₁ with
    | done hm₂ hv =>
      simp only [hm₂.heap.captures_eq hscope _ hv]
      exact .done (hm₂.leave _ _) hv
    | failed hm₂ he => exact .failed (hm₂.leave _ _) he
    | unfinished => exact .unfinished

end Calls

end ScopeScript
