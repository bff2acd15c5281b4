import ScopeScript.Proofs.Eval.Correspondence

/-!
# Definitions of native builtins

A function of the name of a native builtin is that builtin, so what its definition says is never
looked at again once it was evaluated: its body and its parameters are carried along with the
function, through bindings, arguments and results, and no call uses them. Programs that define
native builtins otherwise do the same, in states that differ in the same way.

Evaluating the definition looks at its parameters, though, and fails if one of them is no plain
name. So a list of parameters may be replaced only by one that passes or fails in the same way.
-/

namespace ScopeScript

/-- The name of a builtin that takes evaluated arguments. -/
def IsNative (name : String) : Prop := ∃ n, Builtin.ofName? name = some (.native n)

/-- Parameters that are plain names. -/
def ArePlain (params : List Expr) : Prop := ∀ p ∈ params, p.asSymbol? ≠ none

/-- Expressions that are the same, with spans related by `S`, but for the definitions of native
builtins: these may differ in their bodies, and in their parameters where `Q` holds of the first
ones and the second ones are plain names. -/
inductive Expr.Redefined (Q : List Expr → Prop) (S : Span → Span → Prop) : Expr → Expr → Prop
  | same {e e'} : Expr.Node (Redefined Q S) S e e' → S e.span e'.span → Redefined Q S e e'
  | body {name name' params params' body body' s s'} : name.text = name'.text →
    IsNative name.text → List.Forall₂ (Redefined Q S) params params' → S s s' →
      Redefined Q S (.definition name params body s) (.definition name' params' body' s')
  | params {name name' params params' body body' s s'} : name.text = name'.text →
    IsNative name.text → Q params → ArePlain params' → S s s' →
      Redefined Q S (.definition name params body s) (.definition name' params' body' s')

/-- Functions with the same name and scope, which are the same but for the definitions of native
builtins unless they are native builtins themselves. -/
structure Closure.Redefined (S : Span → Span → Prop) (f f' : Closure) : Prop where
  name : f.name = f'.name
  scope : f.scope = f'.scope
  code : IsNative f.name ∨
    f.params = f'.params ∧ List.Forall₂ (Expr.Redefined ArePlain S) f.body f'.body

variable {Q : List Expr → Prop} {S : Span → Span → Prop}

namespace Expr

/-- The spans of nodes are related as their parts are. -/
theorem Redefined.span {e e' : Expr} (h : e.Redefined Q S e') : S e.span e'.span := by
  cases h with
  | same _ hs => exact hs
  | body _ _ _ hs => exact hs
  | params _ _ _ _ hs => exact hs

/-- A symbol is never defined otherwise. -/
theorem Redefined.asSymbol?_eq {e e' : Expr} (h : e.Redefined Q S e') :
    e.asSymbol? = e'.asSymbol? := by
  cases h with
  | same hnode => cases hnode <;> rfl
  | body => rfl
  | params => rfl

mutual

/-- Every expression is the same as itself. -/
theorem Redefined.refl (hS : ∀ s, S s s) : ∀ e : Expr, e.Redefined Q S e
  | number text _ => .same (.number text) (hS _)
  | string text _ => .same (.string text) (hS _)
  | symbol name s => .same (.symbol name (hS s)) (hS _)
  | operation op left right s =>
    .same (.operation op (Redefined.refl hS left) (Redefined.refl hS right) (hS s)) (hS _)
  | call callee args s =>
    .same (.call (Redefined.refl hS callee) (forall₂_redefined_refl hS args) (hS s)) (hS _)
  | definition _ params body _ =>
    .same (.definition rfl (forall₂_redefined_refl hS params) (forall₂_redefined_refl hS body))
      (hS _)
  | assignment _ value _ => .same (.assignment rfl (Redefined.refl hS value)) (hS _)

/-- Expressions go with themselves. -/
theorem forall₂_redefined_refl (hS : ∀ s, S s s) :
    ∀ es : List Expr, List.Forall₂ (Expr.Redefined Q S) es es
  | [] => .nil
  | e :: rest => .cons (Redefined.refl hS e) (forall₂_redefined_refl hS rest)

end

end Expr

open ScopeScript.Expr

/-- A function goes with itself. -/
theorem Closure.Redefined.refl (hS : ∀ s, S s s) (f : Closure) : f.Redefined S f :=
  ⟨rfl, rfl, .inr ⟨rfl, forall₂_redefined_refl hS f.body⟩⟩

/-- Plain names are the names of parameters. -/
theorem exists_parameterNames {params : List Expr} (hparams : ArePlain params) (function : String) :
    ∃ names, parameterNames function params = .ok names := by
  induction params with
  | nil => exact ⟨[], rfl⟩
  | cons p rest ih =>
    obtain ⟨hp, hrest⟩ := List.forall_mem_cons.mp hparams
    obtain ⟨name, hname⟩ := Option.ne_none_iff_exists'.mp hp
    obtain ⟨names, hnames⟩ := ih hrest
    exact ⟨name :: names, by rw [parameterNames, hname, hnames]; rfl⟩

/-! ## Evaluation -/

variable [SearchContext]

/-- Computations on heaps with functions that are the same but for the definitions of native
builtins. -/
def redefinition (S : Span → Span → Prop) : Coupling :=
  correspondence (Closure.Redefined S) S fun _ _ hf => hf.name

/-- Computations of values that lead from states that differ in the definitions of native builtins
to such states. -/
abbrev Eval.Redefined (S : Span → Span → Prop) : Eval Value → Eval Value → Prop :=
  Eval.Corresponds (Closure.Redefined S) S (Value.Lift (Closure.Redefined S))

/-- Evaluators that do the same on expressions that differ in the definitions of native builtins. -/
def RedefinedEvaluators (S : Span → Span → Prop) (ev ev' : Evaluator) : Prop :=
  ∀ e e', e.Redefined ArePlain S e' → ∀ env, Eval.Redefined S (ev e env) (ev' e' env)

section Definitions

variable {env : ScopeId} {name : String} {ps ps' body body' : List Expr}

/-- Definitions correspond if their parameters pass or fail in the same way, and if the functions
made of them are related. -/
theorem defineFunction_redefined {P : List String → List String → Prop}
    (hparams : ExceptRel (RuntimeError.Lift S) P (parameterNames name ps)
      (parameterNames name ps'))
    (hfunction : ∀ params params' scope, P params params' →
      Closure.Redefined S ⟨name, params, body, scope⟩ ⟨name, params', body', scope⟩) :
    Eval.Redefined S (defineFunction env name ps body) (defineFunction env name ps' body') := by
  refine (redefinition S).defineFunction_coupled (w := ()) hparams
    (fun _ _ => Eval.Corresponds.newChild env) ?_
    fun _ _ _ _ hv => Eval.Corresponds.bindName env name hv
  rintro _ params params' scope _ - hp rfl
  exact hfunction params params' scope hp

omit [SearchContext] in
/-- Parameters that are given in both programs are the same names or the same mistake. -/
theorem parameterNames_redefined (hps : List.Forall₂ (Expr.Redefined Q S) ps ps') :
    ExceptRel (RuntimeError.Lift S) Eq (parameterNames name ps) (parameterNames name ps') :=
  Coupling.parameterNames_rel name (hps.imp fun _ _ hp => ⟨hp.asSymbol?_eq, hp.span⟩)

/-- The definition of a native builtin, with another body. -/
theorem evalDefinition_body (hnative : IsNative name)
    (hps : List.Forall₂ (Expr.Redefined Q S) ps ps') (ev ev' : Evaluator) (rounds : Nat) :
    Eval.Redefined S (evalDefinition ev rounds env name ps body)
      (evalDefinition ev' rounds env name ps' body') := by
  obtain ⟨n, hn⟩ := id hnative
  rw [evalDefinition, evalDefinition, hn]
  exact defineFunction_redefined (parameterNames_redefined hps)
    fun _ _ _ _ => ⟨rfl, rfl, .inl hnative⟩

/-- The definition of a native builtin, with another body and other parameters. -/
theorem evalDefinition_params (hnative : IsNative name) (hps : ArePlain ps) (hps' : ArePlain ps')
    (ev ev' : Evaluator) (rounds : Nat) :
    Eval.Redefined S (evalDefinition ev rounds env name ps body)
      (evalDefinition ev' rounds env name ps' body') := by
  obtain ⟨n, hn⟩ := id hnative
  obtain ⟨names, hnames⟩ := exists_parameterNames hps name
  obtain ⟨names', hnames'⟩ := exists_parameterNames hps' name
  rw [evalDefinition, evalDefinition, hn]
  -- the names need not be related, since the functions are native builtins whatever they are
  refine defineFunction_redefined (P := fun _ _ => True) ?_
    fun _ _ _ _ => ⟨rfl, rfl, .inl hnative⟩
  rw [hnames, hnames']
  exact .ok trivial

end Definitions

/-- Expressions go together if their evaluations do. -/
theorem exprs_redefined {ev ev' : Evaluator} (hev : RedefinedEvaluators S ev ev')
    {es es' : List Expr} (hes : List.Forall₂ (Expr.Redefined ArePlain S) es es') (env : ScopeId) :
    (redefinition S).Exprs () ev ev' env env es es' :=
  hes.imp fun e e' he _ _ => hev e e' he env

/-- **One step does not look at definitions of native builtins** if nested evaluations and calls of
other functions do not. -/
theorem evalStep_redefined {ev ev' : Evaluator} (hev : RedefinedEvaluators S ev ev')
    {call call' : Caller} (hcall : ∀ f f' args args' s s', f.Redefined S f' → ¬ IsNative f.name →
      List.Forall₂ (Value.Lift (Closure.Redefined S)) args args' → S s s' →
        Eval.Redefined S (call f args s) (call' f' args' s')) (rounds : Nat) :
    RedefinedEvaluators S (evalStep call ev rounds) (evalStep call' ev' rounds) := by
  intro e e' he env
  cases he with
  | same hnode hspan =>
    refine (redefinition S).evalStep_coupled (w := ())
      (hnode.mono fun c c' hc _ _ => hev c c' hc env) ?_ ?_ ?_ ?_ ?_
    · exact fun name _ _ => Eval.Corresponds.lookup? env name
    · exact fun _ name _ _ _ hv => Eval.Corresponds.bindName env name hv
    · rintro name ps ps' body body' s name' s' rfl rfl
      cases hnode with
      | definition _ hps hbody =>
        refine defineFunction_redefined (parameterNames_redefined hps) ?_
        rintro params _ scope rfl
        exact ⟨rfl, rfl, .inr ⟨rfl, hbody⟩⟩
    · exact fun _ _ _ _ _ _ _ _ _ hargs hbody => evalLoop_corresponds hargs hbody rounds
    · -- a body is evaluated only if the name of its function is that of no builtin
      intro _ f f' args args' s s' _ hf hnone hargs hs
      refine hcall f f' args args' s s' hf ?_ hargs hs
      rintro ⟨n, hn⟩
      cases hnone.symm.trans hn
  | body hname hnative hps =>
    rw [evalStep, evalStep, ← hname]
    exact evalDefinition_body hnative hps ev ev' rounds
  | params hname hnative hps hps' =>
    rw [evalStep, evalStep, ← hname]
    exact evalDefinition_params hnative hps hps' ev ev' rounds

/-- Functions that are no native builtins are called alike. -/
theorem callFunction_redefined (rules : Rules) {ev ev' : Evaluator}
    (hev : RedefinedEvaluators S ev ev') {f f' : Closure} {args args' : List Value} {s s' : Span}
    (hf : f.Redefined S f') (hother : ¬ IsNative f.name)
    (hargs : List.Forall₂ (Value.Lift (Closure.Redefined S)) args args') (hs : S s s') :
    Eval.Redefined S (callFunction rules ev f args s) (callFunction rules ev' f' args' s') := by
  obtain ⟨hparams, hbody⟩ := hf.code.resolve_left hother
  have hexprs : ∀ frame, (redefinition S).Exprs () ev ev' frame frame f.body f'.body :=
    exprs_redefined hev hbody
  exact callFunction_corresponds rules (fun _ _ hf => hf.scope) hf hparams hexprs hargs hs

/-- **Evaluation does not look at definitions of native builtins.** -/
theorem eval_redefined (rules : Rules) (steps : Nat) :
    RedefinedEvaluators S (eval rules steps) (eval rules steps) := by
  rw [eval]
  induction steps with
  | zero => exact fun _ _ _ _ _ _ _ => .unfinished
  | succ steps ih =>
    exact evalStep_redefined ih (fun _ _ _ _ _ _ => callFunction_redefined rules ih) steps

/-- Programs that differ in the definitions of native builtins. -/
theorem runProgram_redefined (rules : Rules) (steps : Nat) {program program' : List Expr}
    (hprogram : List.Forall₂ (Expr.Redefined ArePlain S) program program') (env : ScopeId) :
    Eval.Redefined S (runProgram rules steps program env) (runProgram rules steps program' env) :=
  Eval.Corresponds.flushed <|
    Coupling.evalSequence_coupled (exprs_redefined (eval_redefined rules steps) hprogram env)
      (.undefined : (redefinition S).value () .undefined .undefined)

end ScopeScript
