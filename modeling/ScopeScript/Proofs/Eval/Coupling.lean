import Mathlib.Order.Defs.Unbundled
import ScopeScript.Eval.Expr
import ScopeScript.Proofs.Eval.Footprint
import ScopeScript.Proofs.Expr.Node
import ScopeScript.Proofs.Scope.Reach

/-!
# Couplings of computations

A coupling says when two computations correspond, and when two functions do. What corresponds may
grow as the computations go on, so both are indexed by a world, and the worlds that can follow are
later ones. If corresponding computations may be put one behind the other, and giving a value,
failing and writing a line correspond to themselves, then all compound evaluations correspond whose
parts do: a sequence whose expressions correspond, a choice whose condition and branches do, a call
whose callee and arguments do, as long as the called functions do.

What a coupling says of single computations is left open. It may compare how they end, or say of
one of them alone what holds of its end.
-/

namespace ScopeScript

variable [SearchContext]

/-- How computations correspond. -/
structure Coupling where
  World : Type
  /-- The worlds that can follow a world. -/
  Later : World → World → Prop
  isPreorder : IsPreorder World Later
  closure : World → Closure → Closure → Prop
  span : Span → Span → Prop
  /-- Computations that correspond, with results that `V` relates. -/
  Coupled : {α β : Type} → (V : World → α → β → Prop) → World → Eval α → Eval β → Prop
  closure_name : ∀ {w f f'}, closure w f f' → f.name = f'.name
  closure_later : ∀ {w w' f f'}, Later w w' → closure w f f' → closure w' f f'
  pure : ∀ {α β : Type} {V : World → α → β → Prop} {w a b}, V w a b →
    Coupled V w (Pure.pure a) (Pure.pure b)
  fail : ∀ {α β : Type} {V : World → α → β → Prop} {w e e'}, RuntimeError.Lift span e e' →
    Coupled V w (Eval.fail e) (Eval.fail e')
  bind : ∀ {α β α' β' : Type} {V : World → α → β → Prop} {V' : World → α' → β' → Prop} {w}
    {x : Eval α} {y : Eval β} {f : α → Eval α'} {g : β → Eval β'}, Coupled V w x y →
    (∀ w', Later w w' → ∀ a b, V w' a b → Coupled V' w' (f a) (g b)) →
      Coupled V' w (x >>= f) (y >>= g)
  writeLine : ∀ w text,
    Coupled (fun _ _ _ => True) w (Eval.writeLine text) (Eval.writeLine text)

omit [SearchContext] in
/-- The order of worlds where there is only one. -/
theorem isPreorder_unit : IsPreorder Unit fun _ _ => True where
  refl _ := trivial
  trans _ _ _ _ _ := trivial

namespace Coupling

attribute [instance] isPreorder

variable (C : Coupling) {α β : Type}

/-- Values that correspond. -/
def value (w : C.World) : Value → Value → Prop := Value.Lift (C.closure w)

/-- Evaluations that correspond in a world and in all later ones. -/
def Always (w : C.World) (x y : Eval Value) : Prop :=
  ∀ w', C.Later w w' → C.Coupled C.value w' x y

/-- Expressions whose evaluations correspond, one by one. -/
def Exprs (w : C.World) (ev ev' : Evaluator) (env env' : ScopeId) (es es' : List Expr) : Prop :=
  List.Forall₂ (fun e e' => C.Always w (ev e env) (ev' e' env')) es es'

variable {C} {w w' : C.World}

/-- Values that correspond do so later. -/
theorem value_later (h : C.Later w w') {v v' : Value} (hv : C.value w v v') : C.value w' v v' :=
  hv.mono fun _ _ => C.closure_later h

/-- Lists of values that correspond do so later. -/
theorem values_later (h : C.Later w w') {vs vs' : List Value}
    (hvs : List.Forall₂ (C.value w) vs vs') : List.Forall₂ (C.value w') vs vs' :=
  hvs.imp fun _ _ => value_later h

/-- What always corresponds from a world on does so from a later one on. -/
theorem Always.later (h : C.Later w w') {x y : Eval Value} (hxy : C.Always w x y) :
    C.Always w' x y :=
  fun w'' hw => hxy w'' (IsTrans.trans _ _ _ h hw)

/-- What always corresponds does so now. -/
theorem Always.coupled {x y : Eval Value} (hxy : C.Always w x y) : C.Coupled C.value w x y :=
  hxy w (refl w)

/-- Results that correspond do so as computations. -/
theorem lift {V : C.World → α → β → Prop} {x : Except RuntimeError α} {y : Except RuntimeError β}
    (hxy : ExceptRel (RuntimeError.Lift C.span) (V w) x y) :
    C.Coupled V w (Eval.lift x) (Eval.lift y) := by
  cases hxy with
  | ok hab => exact C.pure hab
  | error he => exact C.fail he

/-! ## Lists of expressions -/

section Combinators

variable {ev ev' : Evaluator} {env env' : ScopeId} {es es' : List Expr}

/-- Expressions whose evaluations correspond do so later. -/
theorem Exprs.later (h : C.Later w w') (hes : C.Exprs w ev ev' env env' es es') :
    C.Exprs w' ev ev' env env' es es' :=
  hes.imp fun _ _ he => he.later h

/-- Sequences of expressions that correspond. -/
theorem evalSequence_coupled (hes : C.Exprs w ev ev' env env' es es') {v v' : Value}
    (hv : C.value w v v') :
    C.Coupled C.value w (evalSequence ev env v es) (evalSequence ev' env' v' es') := by
  induction es generalizing es' w v v' with
  | nil =>
    cases hes
    exact C.pure hv
  | cons e rest ih =>
    obtain - | ⟨he, hrest⟩ := hes
    exact C.bind he.coupled fun w' hw a b hab => ih (Exprs.later hw hrest) hab

/-- Lists of expressions that correspond give values that do. -/
theorem evalAll_coupled (hes : C.Exprs w ev ev' env env' es es') :
    C.Coupled (fun w => List.Forall₂ (C.value w)) w (evalAll ev env es)
      (evalAll ev' env' es') := by
  induction es generalizing es' w with
  | nil =>
    cases hes
    exact C.pure .nil
  | cons e rest ih =>
    obtain - | ⟨he, hrest⟩ := hes
    refine C.bind he.coupled fun w₁ hw₁ a b hab => ?_
    refine C.bind (ih (Exprs.later hw₁ hrest)) fun w₂ hw₂ as bs habs => ?_
    exact C.pure (.cons (value_later hw₂ hab) habs)

/-- Arguments that may be missing correspond if the expressions do. -/
theorem evalOptional_coupled (hes : C.Exprs w ev ev' env env' es es') (i : Nat) :
    C.Coupled C.value w (evalOptional ev env es[i]?) (evalOptional ev' env' es'[i]?) := by
  have hi := forall₂_getElem? hes i
  generalize es[i]? = e? at hi
  generalize es'[i]? = e?' at hi
  cases hi with
  | none => exact C.pure .undefined
  | some he => exact he.coupled

/-! ## Special forms -/

variable {args args' body body' : List Expr}

/-- Choices among expressions that correspond. -/
theorem evalChoice_coupled (hargs : C.Exprs w ev ev' env env' args args')
    (hbody : C.Exprs w ev ev' env env' body body') :
    C.Coupled C.value w (evalChoice ev env args body) (evalChoice ev' env' args' body') := by
  cases hargs with
  | nil => exact C.pure .undefined
  | cons hcondition hrest =>
    refine C.bind hcondition.coupled fun w' hw c c' hc => ?_
    have hrest' := Exprs.later hw hrest
    rw [← hc.isTruthy_eq]
    cases hbody with
    | nil =>
      cases c.isTruthy with
      | true => exact evalOptional_coupled hrest' 0
      | false => exact evalOptional_coupled hrest' 1
    | cons he hes =>
      cases c.isTruthy with
      | true => exact evalSequence_coupled (Exprs.later hw (.cons he hes)) .undefined
      | false => exact evalOptional_coupled hrest' 0

/-- Loops correspond, the second one with `more` rounds to go, if it does to the first one when
this has no round left. -/
theorem evalRounds_coupled {condition condition' : Expr} {more : Nat}
    (hcondition : C.Always w (ev condition env) (ev' condition' env'))
    (hbody : C.Exprs w ev ev' env env' body body')
    (hstop : C.Always w Eval.stop (evalRounds ev' env' condition' body' more)) (rounds : Nat) :
    C.Coupled C.value w (evalRounds ev env condition body rounds)
      (evalRounds ev' env' condition' body' (more + rounds)) := by
  induction rounds generalizing w with
  | zero => exact hstop.coupled
  | succ rounds ih =>
    refine C.bind hcondition.coupled fun w₁ hw₁ c c' hc => ?_
    have hbody₁ := Exprs.later hw₁ hbody
    rw [← hc.isTruthy_eq]
    split
    · refine C.bind (evalSequence_coupled hbody₁ .undefined) fun w₂ hw₂ _ _ _ => ?_
      have hw : C.Later w w₂ := IsTrans.trans _ _ _ hw₁ hw₂
      exact ih (hcondition.later hw) (Exprs.later hw hbody) (hstop.later hw)
    · exact C.pure .undefined

/-- Loops over expressions that correspond. The second one may have more rounds left if running out
of them does no harm. -/
theorem evalLoop_coupled (hargs : C.Exprs w ev ev' env env' args args')
    (hbody : C.Exprs w ev ev' env env' body body') {more : Nat}
    (hstop : ∀ condition' body',
      C.Always w Eval.stop (evalRounds ev' env' condition' body' more)) (rounds : Nat) :
    C.Coupled C.value w (evalLoop ev rounds env args body)
      (evalLoop ev' (more + rounds) env' args' body') := by
  cases hargs with
  | nil => exact C.pure .undefined
  | cons hcondition hrest =>
    refine evalRounds_coupled hcondition ?_ (hstop _ _) rounds
    cases hbody with
    | nil => exact hrest
    | cons he hes => exact .cons he hes

/-! ## Builtins and calls -/

/-- Printing values that correspond. -/
theorem printAll_coupled {vs vs' : List Value} (hvs : List.Forall₂ (C.value w) vs vs') :
    C.Coupled C.value w (printAll vs) (printAll vs') := by
  induction vs generalizing w vs' with
  | nil =>
    cases hvs
    exact C.pure .undefined
  | cons v vs ih =>
    obtain - | ⟨hv, hvs⟩ := hvs
    rw [printAll, printAll, hv.text_eq fun _ _ => C.closure_name]
    exact C.bind (C.writeLine w _) fun w' hw _ _ _ => ih (values_later hw hvs)

/-- Native builtins on arguments that correspond. -/
theorem callNative_coupled {vs vs' : List Value} (hvs : List.Forall₂ (C.value w) vs vs')
    (n : Native) : C.Coupled C.value w (callNative vs n) (callNative vs' n) := by
  have hname : ∀ f f', C.closure w f f' → f.name = f'.name := fun _ _ => C.closure_name
  have hsearch : ∀ kind, C.Coupled C.value w (search vs kind) (search vs' kind) := fun kind => by
    rw [search_eq_lift, search_eq_lift]
    exact lift (searchResult_rel hname hvs kind)
  cases n with
  | print => exact printAll_coupled hvs
  | searchIndexes => exact hsearch .indexes
  | searchElements => exact hsearch .elements
  | indexAccess => exact C.pure (indexAccess_rel hvs)
  | indexCount => exact C.pure (indexCount_rel hvs)

/-- A call corresponds if its parts do, if calling functions that are no builtins does, and if a
loop does where a function that is a loop may be called. -/
theorem evalCall_coupled {call call' : Caller} {callee callee' : Expr} {s s' : Span}
    {rounds rounds' : Nat} (hcallee : C.Always w (ev callee env) (ev' callee' env'))
    (hargs : C.Exprs w ev ev' env env' args args') (hs : C.span s s')
    (hloop : ∀ w' f f', C.Later w w' → C.closure w' f f' →
      Builtin.ofName? f.name = some (.special .loop) →
        C.Coupled C.value w' (evalLoop ev rounds env args [])
          (evalLoop ev' rounds' env' args' []))
    (hcall : ∀ w' f f' vs vs', C.Later w w' → C.closure w' f f' → Builtin.ofName? f.name = none →
      List.Forall₂ (C.value w') vs vs' → C.Coupled C.value w' (call f vs s) (call' f' vs' s')) :
    C.Coupled C.value w (evalCall call ev rounds env callee args s)
      (evalCall call' ev' rounds' env' callee' args' s') := by
  refine C.bind hcallee.coupled fun w₁ hw₁ v v' hv => ?_
  have hargs₁ := Exprs.later hw₁ hargs
  have hcode := hv.codeText_eq fun _ _ => C.closure_name
  cases hv with
  | @function f f' hf =>
    simp only [← C.closure_name hf]
    split
    · next form hform =>
      cases form with
      | choice => exact evalChoice_coupled hargs₁ .nil
      | loop => exact hloop w₁ f f' hw₁ hf hform
    · exact C.bind (evalAll_coupled hargs₁) fun w₂ _ vs vs' hvs => callNative_coupled hvs _
    · next hnone =>
      refine C.bind (evalAll_coupled hargs₁) fun w₂ hw₂ vs vs' hvs => ?_
      exact hcall w₂ f f' vs vs' (IsTrans.trans _ _ _ hw₁ hw₂) (C.closure_later hw₂ hf) hnone hvs
  | number | boolean | string | list | undefined =>
    simp only [hcode]
    exact C.fail (.notCallable _ hs)

/-! ## Definitions -/

omit [SearchContext] in
/-- The names of parameters that are the same names or fail at places that correspond. -/
theorem parameterNames_rel {S : Span → Span → Prop} (function : String) {ps ps' : List Expr}
    (hps : List.Forall₂ (fun p p' => p.asSymbol? = p'.asSymbol? ∧ S p.span p'.span) ps ps') :
    ExceptRel (RuntimeError.Lift S) Eq (parameterNames function ps)
      (parameterNames function ps') := by
  induction hps with
  | nil => exact .ok rfl
  | @cons p p' ps ps' hp _ ih =>
    obtain ⟨hname, hspan⟩ := hp
    rw [parameterNames, parameterNames, ← hname]
    cases p.asSymbol? with
    | none => exact .error (.invalidParameter function hspan)
    | some name => exact ih.bind fun names names' hnames => .ok (by rw [hnames])

/-- A definition corresponds if making its scope and binding its name do, when the functions that
are made of its parameters and of corresponding scopes do. -/
theorem defineFunction_coupled {name : String} {ps ps' : List Expr}
    {P : List String → List String → Prop} {I : C.World → ScopeId → ScopeId → Prop}
    (hparams : ExceptRel (RuntimeError.Lift C.span) P (parameterNames name ps)
      (parameterNames name ps'))
    (hnew : ∀ w', C.Later w w' → C.Coupled I w' (Eval.newChild env) (Eval.newChild env'))
    (hclosure : ∀ w' params params' i i', C.Later w w' → P params params' → I w' i i' →
      C.closure w' ⟨name, params, body, i⟩ ⟨name, params', body', i'⟩)
    (hbind : ∀ w' v v', C.Later w w' → C.value w' v v' → C.Coupled (fun _ _ _ => True) w'
      (Eval.bindName env name v) (Eval.bindName env' name v')) :
    C.Coupled C.value w (defineFunction env name ps body)
      (defineFunction env' name ps' body') := by
  refine C.bind (lift (V := fun _ => P) hparams) fun w₁ hw₁ params params' hp => ?_
  refine C.bind (hnew w₁ hw₁) fun w₂ hw₂ i i' hi => ?_
  have hw : C.Later w w₂ := IsTrans.trans _ _ _ hw₁ hw₂
  have hvalue : C.value w₂ (.function ⟨name, params, body, i⟩)
      (.function ⟨name, params', body', i'⟩) :=
    .function (hclosure w₂ params params' i i' hw hp hi)
  exact C.bind (hbind w₂ _ _ hw hvalue) fun w₃ hw₃ _ _ _ => C.pure (value_later hw₃ hvalue)

/-! ## One step -/

/-- A name that an expression may run: that of a definition, or that of a function it calls. -/
def MayRun (w : C.World) (e : Expr) (name : String) : Prop :=
  (∃ n params body s, e = .definition n params body s ∧ n.text = name) ∨
    ∃ w' f f', C.Later w w' ∧ C.closure w' f f' ∧ f.name = name

/-- **One step corresponds** if the parts of the expression do, if looking up, binding, defining and
calling what is no builtin do as far as the expression does it, and if loops do where it may run
one. -/
theorem evalStep_coupled {e e' : Expr} {call call' : Caller} {rounds rounds' : Nat}
    (hparts : Expr.Node (fun c c' => C.Always w (ev c env) (ev' c' env')) C.span e e')
    (hlookup : ∀ name s, e = .symbol name s → C.Coupled (fun w => Option.Rel (C.value w)) w
      (Eval.lookup? env name) (Eval.lookup? env' name))
    (hbind : ∀ w' name v v', C.Later w w' → C.value w' v v' →
      C.Coupled (fun _ _ _ => True) w' (Eval.bindName env name v) (Eval.bindName env' name v'))
    (hdefine : ∀ name ps ps' body body' s name' s', e = .definition name ps body s →
      e' = .definition name' ps' body' s' → C.Coupled C.value w
        (defineFunction env name.text ps body) (defineFunction env' name.text ps' body'))
    (hloop : ∀ name, Builtin.ofName? name = some (.special .loop) → MayRun w e name →
      ∀ w' args args' body body', C.Later w w' → C.Exprs w' ev ev' env env' args args' →
        C.Exprs w' ev ev' env env' body body' → C.Coupled C.value w'
          (evalLoop ev rounds env args body) (evalLoop ev' rounds' env' args' body'))
    (hcall : ∀ w' f f' vs vs' s s', C.Later w w' → C.closure w' f f' →
      Builtin.ofName? f.name = none → List.Forall₂ (C.value w') vs vs' → C.span s s' →
        C.Coupled C.value w' (call f vs s) (call' f' vs' s')) :
    C.Coupled C.value w (evalStep call ev rounds e env) (evalStep call' ev' rounds' e' env') := by
  cases hparts with
  | number text => exact C.pure (.number _)
  | string text => exact C.pure (.string text)
  | symbol name hs =>
    refine C.bind (hlookup name _ rfl) fun w' _ v? v?' hv => ?_
    cases hv with
    | none => exact C.fail (.undefinedVariable name hs)
    | some hv => exact C.pure hv
  | operation op hl hr hs =>
    refine C.bind hl.coupled fun w₁ hw₁ a a' ha => ?_
    refine C.bind (hr.later hw₁).coupled fun w₂ hw₂ b b' hb => ?_
    exact lift (operate_rel (fun _ _ => C.closure_name) op hs (value_later hw₂ ha) hb)
  | assignment htarget hv =>
    refine C.bind hv.coupled fun w₁ hw₁ v v' hv => ?_
    rw [← htarget]
    exact C.bind (hbind w₁ _ v v' hw₁ hv) fun w₂ hw₂ _ _ _ => C.pure (value_later hw₂ hv)
  | @definition name name' ps ps' body body' s s' hname hps hbody =>
    rw [evalStep, evalStep, evalDefinition, evalDefinition, ← hname]
    split
    · next form hform =>
      cases form with
      | choice => exact evalChoice_coupled hps hbody
      | loop =>
        have hrun : MayRun w (.definition name ps body s) name.text :=
          .inl ⟨name, ps, body, s, rfl, rfl⟩
        exact hloop _ hform hrun w ps ps' body body' (refl w) hps hbody
    · exact hdefine name ps ps' body body' s name' s' rfl rfl
  | @call callee callee' args args' s s' hcallee hargs hs =>
    refine evalCall_coupled hcallee hargs hs (fun w' f f' hw hf hform => ?_)
      fun w' f f' vs vs' hw hf hnone hvs => hcall w' f f' vs vs' s s' hw hf hnone hvs hs
    exact hloop _ hform (.inr ⟨w', f, f', hw, hf, rfl⟩) w' args args' [] [] hw
      (Exprs.later hw hargs) .nil

end Combinators

/-! ## One expression in one scope -/

section Self

variable (hclosure : ∀ {w f f'}, C.closure w f f' ↔ f = f') (hspan : ∀ {s s'}, C.span s s' ↔ s = s')

include hclosure

/-- Values correspond exactly if they are equal, as long as this holds of functions. -/
theorem value_iff_of_closure {v v' : Value} : C.value w v v' ↔ v = v' := by
  constructor
  · exact fun hv => (hv.mono fun _ _ => hclosure.mp).eq
  · rintro rfl
    exact (Value.lift_self_iff v).mpr fun _ _ => hclosure.mpr rfl

include hspan

/-- **One step corresponds** to the same step with other evaluations of the parts and other calls,
if these correspond and looking up, binding and making scopes correspond to themselves. -/
theorem evalStep_self {env : ScopeId}
    (hlookup : ∀ w name, C.Coupled (fun w => Option.Rel (C.value w)) w (Eval.lookup? env name)
      (Eval.lookup? env name))
    (hbind : ∀ w name v, C.Coupled (fun _ _ _ => True) w (Eval.bindName env name v)
      (Eval.bindName env name v))
    (hnew : ∀ w, C.Coupled (fun _ => Eq) w (Eval.newChild env) (Eval.newChild env))
    (hstop : ∀ w, C.Coupled C.value w Eval.stop Eval.stop) {ev ev' : Evaluator}
    (hev : ∀ e, C.Always w (ev e env) (ev' e env)) {call call' : Caller}
    (hcall : ∀ w', C.Later w w' → ∀ f vs span,
      C.Coupled C.value w' (call f vs span) (call' f vs span)) (rounds : Nat) (e : Expr) :
    C.Coupled C.value w (evalStep call ev rounds e env) (evalStep call' ev' rounds e env) := by
  have hloop : ∀ w' condition body,
      C.Always w' Eval.stop (evalRounds ev' env condition body 0) :=
    fun _ _ _ w'' _ => hstop w''
  refine C.evalStep_coupled (.self (fun _ => hspan.mpr rfl) fun c _ => hev c)
    (fun name _ _ => hlookup w name) ?_ ?_ ?_ ?_
  · intro w' name v v' _ hv
    obtain rfl := (value_iff_of_closure hclosure).mp hv
    exact hbind w' name v
  · rintro name ps _ body _ s _ _ rfl ⟨⟩
    have hparams : ExceptRel (RuntimeError.Lift C.span) Eq (parameterNames name.text ps)
        (parameterNames name.text ps) := by
      cases parameterNames name.text ps with
      | ok names => exact .ok rfl
      | error err => exact .error (.refl fun _ => hspan.mpr rfl)
    refine defineFunction_coupled hparams (fun w' _ => hnew w') ?_ fun w' v v' _ hv => ?_
    · rintro w' params _ i _ - rfl rfl
      exact hclosure.mpr rfl
    · obtain rfl := (value_iff_of_closure hclosure).mp hv
      exact hbind w' name.text v
  · intro _ _ _ w' args args' body body' _ hargs hbody
    have hlooped := C.evalLoop_coupled hargs hbody (hloop w') rounds
    rwa [Nat.zero_add] at hlooped
  · intro w' f f' vs vs' span span' hw hf _ hvs hs
    obtain rfl := hclosure.mp hf
    obtain rfl := hspan.mp hs
    obtain rfl := Value.eq_of_forall₂_lift (hvs.imp fun _ _ hv => hv.mono fun _ _ => hclosure.mp)
    exact hcall w' hw f vs span

end Self

/-- A coupling of computations with themselves: functions and spans that correspond are equal, and
computations that keep `P` correspond to themselves. -/
structure Reflexive (C : Coupling) (P : Machine → Machine → Prop) : Prop where
  closure_iff : ∀ {w f f'}, C.closure w f f' ↔ f = f'
  span_iff : ∀ {s s'}, C.span s s' ↔ s = s'
  coupled : ∀ {α : Type} {V : C.World → α → α → Prop} {w} {x : Eval α}, (∀ a, V w a a) →
    Eval.Keeps P x → C.Coupled V w x x

namespace Reflexive

variable {P : Machine → Machine → Prop} (hC : C.Reflexive P)

include hC

/-- In a coupling of computations with themselves, values correspond exactly if they are equal. -/
theorem value_iff {v v' : Value} : C.value w v v' ↔ v = v' :=
  value_iff_of_closure hC.closure_iff

/-- One step corresponds to the same step with other evaluations of the parts and other calls. -/
theorem evalStep [IsPreorder Machine P] {env : ScopeId}
    (hbind : ∀ name v, Eval.Keeps P (Eval.bindName env name v))
    (hnew : Eval.Keeps P (Eval.newChild env)) {ev ev' : Evaluator}
    (hev : ∀ e, C.Always w (ev e env) (ev' e env)) {call call' : Caller}
    (hcall : ∀ w', C.Later w w' → ∀ f vs span,
      C.Coupled C.value w' (call f vs span) (call' f vs span)) (rounds : Nat) (e : Expr) :
    C.Coupled C.value w (evalStep call ev rounds e env) (evalStep call' ev' rounds e env) := by
  refine C.evalStep_self hC.closure_iff hC.span_iff ?_ ?_ ?_ ?_ hev hcall rounds e
  · refine fun w name => hC.coupled (fun v? => ?_) (Eval.Keeps.lookup? env name)
    cases v? with
    | none => exact .none
    | some v => exact .some (hC.value_iff.mpr rfl)
  · exact fun w name v => hC.coupled (fun _ => trivial) (hbind name v)
  · exact fun w => hC.coupled (fun _ => rfl) hnew
  · exact fun w => hC.coupled (fun _ => hC.value_iff.mpr rfl) Eval.Keeps.stop

end Reflexive

end Coupling

end ScopeScript
