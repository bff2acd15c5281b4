import ScopeScript.Proofs.Eval.Coupling

/-!
# Simulations between evaluations

Two evaluations that run side by side on related states. What is related may grow as they go
on: every relation is indexed by a world, and the worlds that can follow are later ones. A
simulation says how states, scopes, functions, expressions and spans are related, and that
looking up, binding and making scopes respects this. Then all evaluators respect it, as long as
calling functions does: the evaluations of related expressions in related scopes end with
related values, or with errors that differ in their spans only.

A lax simulation says nothing of the second evaluation where the first one runs out of steps,
and lets the second one have more of them.
-/

namespace ScopeScript

variable [SearchContext]

variable {α β α' β' : Type}

/-- Functions alike but for their bodies, related by `E`, and for their scopes, related by `R`. -/
structure Closure.Lift (E : Expr → Expr → Prop) (R : ScopeId → ScopeId → Prop)
    (f f' : Closure) : Prop where
  name : f.name = f'.name
  params : f.params = f'.params
  body : List.Forall₂ E f.body f'.body
  scope : R f.scope f'.scope

/-- How two evaluations correspond. -/
structure Simulation where
  World : Type
  /-- The worlds that can follow a world. -/
  Later : World → World → Prop
  machine : World → Machine → Machine → Prop
  scope : World → ScopeId → ScopeId → Prop
  expr : Expr → Expr → Prop
  span : Span → Span → Prop
  /-- Whether the second evaluation may do anything once the first has run out of steps. -/
  lax : Prop
  isPreorder : IsPreorder World Later
  scope_later : ∀ {w w' i i'}, Later w w' → scope w i i' → scope w' i i'
  node : ∀ {e e'}, expr e e' → Expr.Node expr span e e'
  expr_span : ∀ {e e'}, expr e e' → span e.span e'.span
  sink_eq : ∀ {w m m'}, machine w m m' → m.sink = m'.sink
  depth_eq : ∀ {w m m'}, machine w m m' → m.depth = m'.depth
  with_heap : ∀ {w m m'}, machine w m m' →
    ∀ sink depth, machine w { m with sink, depth } { m' with sink, depth }
  lookup : ∀ {w m m' i i'}, machine w m m' → scope w i i' → ∀ name,
    Option.Rel (Value.Lift (Closure.Lift expr (scope w))) (m.heap.lookup? i name)
      (m'.heap.lookup? i' name)
  bind : ∀ {w m m' i i' v v'}, machine w m m' → scope w i i' →
    Value.Lift (Closure.Lift expr (scope w)) v v' →
    ∀ name, machine w { m with heap := m.heap.bind i name v }
      { m' with heap := m'.heap.bind i' name v' }
  newChild : ∀ {w m m' i i'}, machine w m m' → scope w i i' → ∃ w', Later w w' ∧
    machine w' { m with heap := (m.heap.newChild i).1 }
      { m' with heap := (m'.heap.newChild i').1 } ∧
    scope w' (m.heap.newChild i).2 (m'.heap.newChild i').2

namespace Simulation

attribute [instance] isPreorder

variable (S : Simulation)

/-- Functions related in a world. -/
def closure (w : S.World) : Closure → Closure → Prop := Closure.Lift S.expr (S.scope w)

/-- Values related in a world. -/
def value (w : S.World) : Value → Value → Prop := Value.Lift (S.closure w)

/-- Outcomes that correspond: both values, related in a later world, or both errors. -/
inductive Outcomes (V : S.World → α → β → Prop) (w : S.World) : Outcome α → Outcome β → Prop
  | done {w' a b m m'} : S.Later w w' → S.machine w' m m' → V w' a b →
    Outcomes V w (.done a m) (.done b m')
  | failed {w' e e' m m'} : S.Later w w' → S.machine w' m m' → RuntimeError.Lift S.span e e' →
    Outcomes V w (.failed e m) (.failed e' m')
  | unfinished {o : Outcome β} : (¬ S.lax → o = .unfinished) → Outcomes V w .unfinished o

/-- Computations that correspond in a world. -/
def Related (V : S.World → α → β → Prop) (w : S.World) (x : Eval α) (y : Eval β) : Prop :=
  ∀ m m', S.machine w m m' → S.Outcomes V w (x m) (y m')

/-- Evaluators that correspond. -/
def Evaluators (ev ev' : Evaluator) : Prop :=
  ∀ w e e' env env', S.expr e e' → S.scope w env env' →
    S.Related S.value w (ev e env) (ev' e' env')

/-- Ways to call functions that correspond. -/
def Callers (call call' : Caller) : Prop :=
  ∀ w f f' args args' s s', S.closure w f f' → List.Forall₂ (S.value w) args args' →
    S.span s s' → S.Related S.value w (call f args s) (call' f' args' s')

variable {S} {w w' : S.World}

/-- Functions that correspond do so later. -/
theorem closure_later (h : S.Later w w') {f f' : Closure} (hf : S.closure w f f') :
    S.closure w' f f' :=
  ⟨hf.name, hf.params, hf.body, S.scope_later h hf.scope⟩

/-- Values that correspond do so later. -/
theorem value_later (h : S.Later w w') {v v' : Value} (hv : S.value w v v') : S.value w' v v' :=
  hv.mono fun _ _ => closure_later h

/-- Lists of values that correspond do so later. -/
theorem values_later (h : S.Later w w') {vs vs' : List Value}
    (hvs : List.Forall₂ (S.value w) vs vs') : List.Forall₂ (S.value w') vs vs' :=
  hvs.imp fun _ _ => value_later h

/-- What corresponds in a later world of `w'` corresponds when seen from `w`. -/
theorem Outcomes.of_later {V : S.World → α → β → Prop} (h : S.Later w w') {o : Outcome α}
    {o' : Outcome β} (ho : S.Outcomes V w' o o') : S.Outcomes V w o o' := by
  cases ho with
  | done hw hm hv => exact .done (IsTrans.trans _ _ _ h hw) hm hv
  | failed hw hm he => exact .failed (IsTrans.trans _ _ _ h hw) hm he
  | unfinished ho => exact .unfinished ho

/-! ## Sequencing -/

namespace Related

variable {V : S.World → α → β → Prop} {V' : S.World → α' → β' → Prop}

/-- Giving values that correspond. -/
theorem pure {a : α} {b : β} (hab : V w a b) :
    S.Related V w (Pure.pure a : Eval α) (Pure.pure b : Eval β) :=
  fun _ _ hm => .done (refl w) hm hab

/-- Failing with errors that correspond. -/
theorem fail {e e' : RuntimeError} (he : RuntimeError.Lift S.span e e') :
    S.Related V w (Eval.fail e) (Eval.fail e') :=
  fun _ _ hm => .failed (refl w) hm he

/-- Computations that correspond, followed by such as do from then on. -/
theorem bind {x : Eval α} {y : Eval β} {f : α → Eval α'} {g : β → Eval β'}
    (hxy : S.Related V w x y)
    (hfg : ∀ w', S.Later w w' → ∀ a b, V w' a b → S.Related V' w' (f a) (g b)) :
    S.Related V' w (x >>= f) (y >>= g) := by
  intro m m' hm
  change S.Outcomes V' w (Eval.bind x f m) (Eval.bind y g m')
  rw [Eval.bind, Eval.bind]
  have hxm := hxy m m' hm
  generalize x m = o at hxm
  generalize y m' = o' at hxm
  cases hxm with
  | done hw hm₁ hab => exact .of_later hw (hfg _ hw _ _ hab _ _ hm₁)
  | failed hw hm₁ he => exact .failed hw hm₁ he
  | unfinished ho =>
    refine .unfinished fun hlax => ?_
    rw [ho hlax]

end Related

/-! ## Expressions -/

section Combinators

variable {ev ev' : Evaluator} {env env' : ScopeId} {es es' : List Expr}

/-- Looking up a name in scopes that correspond. -/
theorem lookup?_related (henv : S.scope w env env') (name : String) :
    S.Related (fun w => Option.Rel (S.value w)) w (Eval.lookup? env name)
      (Eval.lookup? env' name) :=
  fun _ _ hm => .done (refl w) hm (S.lookup hm henv name)

/-- Binding a name in scopes that correspond to values that do. -/
theorem bindName_related (henv : S.scope w env env') (name : String) {v v' : Value}
    (hv : S.value w v v') :
    S.Related (fun _ _ _ => True) w (Eval.bindName env name v) (Eval.bindName env' name v') :=
  fun _ _ hm => .done (refl w) (S.bind hm henv hv name) trivial

/-- Making a scope in scopes that correspond. -/
theorem newChild_related (henv : S.scope w env env') :
    S.Related S.scope w (Eval.newChild env) (Eval.newChild env') := by
  intro m m' hm
  obtain ⟨w', hw, hm', hc⟩ := S.newChild hm henv
  exact .done hw hm' hc

/-- Writing the same line. -/
theorem writeLine_related (text : String) :
    S.Related (fun _ _ _ => True) w (Eval.writeLine text) (Eval.writeLine text) := by
  intro m m' hm
  simp only [Eval.writeLine, ← S.sink_eq hm, ← S.depth_eq hm]
  split
  · exact .done (refl w) (S.with_heap hm _ m.depth) trivial
  · exact .failed (refl w) (S.with_heap hm _ m.depth) (.output _)

variable (S) in
/-- A simulation couples computations. -/
def coupling : Coupling where
  World := S.World
  Later := S.Later
  isPreorder := S.isPreorder
  closure := S.closure
  span := S.span
  Coupled := S.Related
  closure_name hf := hf.name
  closure_later h := closure_later h
  pure := Related.pure
  fail := Related.fail
  bind := Related.bind
  writeLine _ := writeLine_related

/-- Loops respect a simulation, also if the second one has more rounds, provided it is lax. -/
theorem evalLoop_related {args args' body body' : List Expr}
    (hargs : S.coupling.Exprs w ev ev' env env' args args')
    (hbody : S.coupling.Exprs w ev ev' env env' body body') {rounds rounds' : Nat}
    (hle : rounds ≤ rounds') (hlax : ¬ S.lax → rounds = rounds') :
    S.Related S.value w (evalLoop ev rounds env args body)
      (evalLoop ev' rounds' env' args' body') := by
  obtain ⟨more, rfl⟩ := Nat.exists_eq_add_of_le' hle
  refine S.coupling.evalLoop_coupled hargs hbody (fun condition' body' w' _ m m' _ => ?_) rounds
  refine .unfinished fun hstrict => ?_
  have hmore : more = 0 := Nat.right_eq_add.mp (hlax hstrict)
  rw [hmore]
  rfl

variable (hev : S.Evaluators ev ev') (henv : S.scope w env env')

include hev henv

/-- Expressions that correspond have evaluations that do. -/
theorem exprs_related (hes : List.Forall₂ S.expr es es') :
    S.coupling.Exprs w ev ev' env env' es es' :=
  hes.imp fun e e' he w' hw => hev w' e e' env env' he (S.scope_later hw henv)

/-- Sequences of expressions that correspond. -/
theorem evalSequence_related (hes : List.Forall₂ S.expr es es') {v v' : Value}
    (hv : S.value w v v') :
    S.Related S.value w (evalSequence ev env v es) (evalSequence ev' env' v' es') :=
  S.coupling.evalSequence_coupled (exprs_related hev henv hes) hv

end Combinators

/-! ## Definitions and calls -/

/-- Parameters that correspond are the same names, or have mistakes that correspond. -/
theorem parameterNames_rel (function : String) {ps ps' : List Expr}
    (hps : List.Forall₂ S.expr ps ps') :
    ExceptRel (RuntimeError.Lift S.span) Eq (parameterNames function ps)
      (parameterNames function ps') :=
  Coupling.parameterNames_rel function <| hps.imp fun _ _ hp =>
    ⟨by cases S.node hp <;> rfl, S.expr_span hp⟩

/-- Definitions in scopes that correspond, with parameters and bodies that do. -/
theorem defineFunction_related {env env' : ScopeId} (henv : S.scope w env env') (name : String)
    {ps ps' body body' : List Expr} (hps : List.Forall₂ S.expr ps ps')
    (hbody : List.Forall₂ S.expr body body') :
    S.Related S.value w (defineFunction env name ps body)
      (defineFunction env' name ps' body') := by
  refine S.coupling.defineFunction_coupled (parameterNames_rel name hps)
    (fun w' hw => newChild_related (S.scope_later hw henv)) ?_
    fun w' v v' hw hv => bindName_related (S.scope_later hw henv) name hv
  rintro w' params _ i i' - rfl hi
  exact ⟨rfl, rfl, hbody, hi⟩

section Steps

variable {ev ev' : Evaluator} {call call' : Caller} {env env' : ScopeId}
variable (hev : S.Evaluators ev ev') (hcall : S.Callers call call') {rounds rounds' : Nat}
variable (hle : rounds ≤ rounds') (hlax : ¬ S.lax → rounds = rounds')

include hev hcall hle hlax

/-- **One step respects a simulation** if nested evaluations and calls do. -/
theorem evalStep_related : S.Evaluators (evalStep call ev rounds) (evalStep call' ev' rounds') := by
  intro w e e' env env' he henv
  refine S.coupling.evalStep_coupled ((S.node he).mono fun c c' hc w' hw => ?_) ?_ ?_ ?_ ?_ ?_
  · exact hev w' c c' env env' hc (S.scope_later hw henv)
  · exact fun name _ _ => lookup?_related henv name
  · exact fun w' name v v' hw hv => bindName_related (S.scope_later hw henv) name hv
  · rintro name ps ps' body body' s name' s' rfl rfl
    cases S.node he with
    | definition _ hps hbody => exact defineFunction_related henv name.text hps hbody
  · exact fun _ _ _ w' args args' body body' _ hargs hbody => evalLoop_related hargs hbody hle hlax
  · exact fun w' f f' vs vs' s s' _ hf _ hvs hs => hcall w' f f' vs vs' s s' hf hvs hs

end Steps

/-- **All steps respect a simulation** if calls do whose bodies are evaluated in fewer steps.
In a lax one the second evaluation may have more steps. -/
theorem evalWith_related {call call' : Evaluator → Caller}
    (hcall : ∀ steps steps', S.Evaluators (evalWith call steps) (evalWith call' steps') →
      S.Callers (call (evalWith call steps)) (call' (evalWith call' steps')))
    {steps steps' : Nat} (hle : steps ≤ steps') (hlax : ¬ S.lax → steps = steps') :
    S.Evaluators (evalWith call steps) (evalWith call' steps') := by
  induction steps generalizing steps' with
  | zero =>
    intro w e e' env env' _ _ m m' _
    refine .unfinished fun hstrict => ?_
    rw [← hlax hstrict]
    rfl
  | succ steps ih =>
    obtain _ | steps' := steps'
    · exact absurd hle (Nat.not_succ_le_zero steps)
    have hle' := Nat.le_of_succ_le_succ hle
    have hlax' : ¬ S.lax → steps = steps' := fun hstrict => Nat.succ.inj (hlax hstrict)
    have hev := ih hle' hlax'
    exact evalStep_related hev (hcall steps steps' hev) hle' hlax'

/-! ## Frames -/

/-- Binding parameters respects a simulation. -/
theorem bindParameters_related {m m' : Machine} (hm : S.machine w m m') {i i' : ScopeId}
    (hi : S.scope w i i') (params : List String) {args args' : List Value}
    (hargs : List.Forall₂ (S.value w) args args') :
    S.machine w { m with heap := bindParameters i params args m.heap }
      { m' with heap := bindParameters i' params args' m'.heap } := by
  induction params generalizing args args' m m' with
  | nil => exact hm
  | cons p ps ih =>
    cases hargs with
    | nil => exact ih (S.bind hm hi .undefined p) .nil
    | cons ha hargs => exact ih (S.bind hm hi ha p) hargs

/-- Entering a call respects a simulation. -/
theorem enter_related {m m' : Machine} (hm : S.machine w m m') {f f' : Closure}
    (hf : S.closure w f f') {args args' : List Value}
    (hargs : List.Forall₂ (S.value w) args args') :
    ∃ w', S.Later w w' ∧ S.machine w' (m.enter f args).1 (m'.enter f' args').1 ∧
      S.scope w' (m.enter f args).2 (m'.enter f' args').2 := by
  obtain ⟨w', hw, hm', hframe⟩ := S.newChild hm hf.scope
  have hargs' := values_later hw hargs
  have hchild := S.with_heap hm' m.sink (m.depth + 1)
  have henter := bindParameters_related hchild hframe f.params hargs'
  refine ⟨w', hw, ?_, hframe⟩
  simpa only [Machine.enter, ← hf.params, ← S.sink_eq hm, ← S.depth_eq hm] using henter

/-- Flushing respects a simulation. -/
theorem flushed_related {x y : Eval Value} (hxy : S.Related S.value w x y) :
    S.Related S.value w (Eval.flushed x) (Eval.flushed y) := by
  have hflush : ∀ w, S.Related (fun _ _ _ => True) w Eval.flush Eval.flush := by
    intro w m m' hm
    simp only [Eval.flush, ← S.sink_eq hm]
    split
    · exact .failed (refl w) hm (.output _)
    · exact .done (refl w) hm trivial
  intro m m' hm
  have hxm := hxy m m' hm
  rw [Eval.flushed, Eval.flushed]
  generalize x m = o at hxm
  generalize y m' = o' at hxm
  cases hxm with
  | @done w' v v' m₁ m₁' hw hm₁ hv =>
    refine .of_later hw ((hflush w').bind (fun w₂ hw₂ _ _ _ => ?_) m₁ m₁' hm₁)
    exact Related.pure (value_later hw₂ hv)
  | @failed w' e e' m₁ m₁' hw hm₁ he =>
    exact .of_later hw ((hflush w').bind (fun _ _ _ _ _ => Related.fail he) m₁ m₁' hm₁)
  | unfinished ho =>
    refine .unfinished fun hlax => ?_
    rw [ho hlax]

end Simulation

end ScopeScript
