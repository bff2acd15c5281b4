import ScopeScript.Proofs.Eval.Coupling

/-!
# Calls in progress

An evaluation that counts the calls it is in the midst of. The count is carried along: nested
expressions are evaluated with the same one, and the body of a function that is called with one
more. A call is refused by the count alone, where that many calls behind the start make up the
limit. The depth in the state is checked against the count at every expression, before and after,
and at every call. At the first check that fails the evaluation turns to something else, its alarm.

From every state within the limit the counted evaluation is the evaluation, whatever the alarm, so
the depth is the count throughout, and it is restored however an evaluation ends.
-/

namespace ScopeScript

open Eval

variable [SearchContext]

/-- What a counted evaluation starts from, and what it turns to when the depth is not the count. -/
structure CallCount where
  rules : Rules
  /-- The depth before the first call that is counted. -/
  start : Nat
  alarm : Eval Value

namespace CallCount

/-- The depth of a state is that of a number of calls in progress, and within the limit. -/
def Fits (k : CallCount) (calls : Nat) (m : Machine) : Prop :=
  m.depth = k.start + calls ∧ m.depth ≤ k.rules.maxDepth

instance (k : CallCount) (calls : Nat) (m : Machine) : Decidable (k.Fits calls m) :=
  inferInstanceAs (Decidable (_ ∧ _))

/-- Evaluate with the depth checked before and after. -/
def guard (k : CallCount) (calls : Nat) (ev : Evaluator) : Evaluator := fun e env m =>
  if k.Fits calls m ∧ (ev e env m).machine?.all (fun m' => k.Fits calls m') then ev e env m
  else k.alarm m

/-- Call a function, with the depth checked before and in the frame. It is refused if the calls in
progress make up the limit, and its body is evaluated with one more call in progress otherwise. -/
def call (k : CallCount) (ev : (calls : Nat) → Evaluator) (calls : Nat) : Caller :=
  fun f args span m =>
    if ¬ k.Fits calls m then k.alarm m
    else if k.start + calls = k.rules.maxDepth then
      .failed (.recursionLimit k.rules.maxDepth f.name span) m
    else if ¬ k.Fits (calls + 1) (m.enter f args).1 then k.alarm m
    else runBody k.rules (ev (calls + 1)) f args m

/-- Evaluate an expression in the midst of a number of calls, with all checks. -/
def eval (k : CallCount) : (steps : Nat) → (calls : Nat) → Evaluator
  | 0, calls => k.guard calls fun _ _ => Eval.stop
  | steps + 1, calls =>
    k.guard calls (evalStep (k.call (k.eval steps) calls) (k.eval steps calls) steps)

end CallCount

/-! ## Computations at a depth -/

/-- The number of calls in progress stays. -/
def KeepsDepth (m m' : Machine) : Prop := m'.depth = m.depth

instance : IsPreorder Machine KeepsDepth where
  refl _ := rfl
  trans _ _ _ h₁ h₂ := Eq.trans h₂ h₁

/-- Binding a name keeps the depth. -/
theorem bindName_keepsDepth (env : ScopeId) (name : String) (v : Value) :
    Keeps KeepsDepth (bindName env name v) := by
  intro m m' h
  cases h
  rfl

/-- A new scope keeps the depth. -/
theorem newChild_keepsDepth (env : ScopeId) : Keeps KeepsDepth (newChild env) := by
  intro m m' h
  cases h
  rfl

/-- Writing a line keeps the depth. -/
theorem writeLine_keepsDepth (text : String) : Keeps KeepsDepth (writeLine text) := by
  intro m m' h
  simp only [writeLine] at h
  split at h <;> cases h <;> rfl

/-- A call counts itself, and takes that back when it is left. -/
theorem callFunction_keepsDepth (rules : Rules) {ev : Evaluator}
    (hev : ∀ e env, Keeps KeepsDepth (ev e env)) (f : Closure) (args : List Value) (span : Span) :
    Keeps KeepsDepth (callFunction rules ev f args span) := by
  intro m m' h
  obtain ⟨-, rfl⟩ | ⟨-, m₁, clear, hrun, rfl⟩ := callFunction_cases h
  · rfl
  · have hbody : m₁.depth = m.depth + 1 :=
      evalSequence_keeps (fun e _ => hev e _) .undefined _ _ hrun
    exact Nat.sub_eq_of_eq_add hbody

/-- No evaluation changes the number of calls in progress. -/
theorem eval_keepsDepth (rules : Rules) (steps : Nat) (e : Expr) (env : ScopeId) :
    Keeps KeepsDepth (eval rules steps e env) := by
  rw [eval]
  induction steps generalizing e env with
  | zero => exact Keeps.stop
  | succ steps ih =>
    exact evalStep_keeps (fun name (_ : True) => bindName_keepsDepth env name)
      (newChild_keepsDepth env) writeLine_keepsDepth (callFunction_keepsDepth rules ih)
      (fun e _ => ih e env) steps e fun _ _ => trivial

/-- A program keeps the depth. -/
theorem evalProgram_keepsDepth (rules : Rules) (steps : Nat) (program : List Expr)
    (env : ScopeId) : Keeps KeepsDepth (evalProgram rules steps program env) :=
  evalSequence_keeps (fun e _ => eval_keepsDepth rules steps e env) .undefined

variable {α β : Type} {depth : Nat}

/-- The same outcomes at a depth, but for results that `V` relates. -/
inductive SameAt (depth : Nat) (V : α → β → Prop) : Outcome α → Outcome β → Prop
  | done {a b m} : V a b → m.depth = depth → SameAt depth V (.done a m) (.done b m)
  | failed {e m} : m.depth = depth → SameAt depth V (.failed e m) (.failed e m)
  | unfinished : SameAt depth V .unfinished .unfinished

/-- Computations that do the same in every state of a depth, and restore it. -/
def Restores (depth : Nat) (V : α → β → Prop) (x : Eval α) (y : Eval β) : Prop :=
  ∀ m, m.depth = depth → SameAt depth V (x m) (y m)

namespace Restores

/-- What restores the depth may be followed by what restores it. -/
theorem bind {α' β' : Type} {V : α → β → Prop} {V' : α' → β' → Prop} {x : Eval α} {y : Eval β}
    {f : α → Eval α'} {g : β → Eval β'} (hxy : Restores depth V x y)
    (hfg : ∀ a b, V a b → Restores depth V' (f a) (g b)) :
    Restores depth V' (x >>= f) (y >>= g) := by
  intro m hm
  have hxm := hxy m hm
  change SameAt depth V' (Eval.bind x f m) (Eval.bind y g m)
  rw [Eval.bind, Eval.bind]
  generalize x m = o at hxm
  generalize y m = o' at hxm
  cases hxm with
  | done hab hm' => exact hfg _ _ hab _ hm'
  | failed hm' => exact .failed hm'
  | unfinished => exact .unfinished

/-- What does not look at the depth. -/
theorem refl {V : α → α → Prop} (hV : ∀ a, V a a) {x : Eval α} (hx : Keeps KeepsDepth x) :
    Restores depth V x x := by
  intro m hm
  have hkept : ∀ m', (x m).machine? = some m' → m'.depth = depth :=
    fun m' h => (hx m m' h).trans hm
  generalize x m = o at hkept
  cases o with
  | done a m' => exact .done (hV a) (hkept m' rfl)
  | failed e m' => exact .failed (hkept m' rfl)
  | unfinished => exact .unfinished

end Restores

/-- Evaluations at a depth. -/
def atDepth (depth : Nat) : Coupling where
  World := Unit
  Later _ _ := True
  isPreorder := isPreorder_unit
  closure _ := Eq
  span := Eq
  Coupled V w := Restores depth (V w)
  closure_name hf := congrArg Closure.name hf
  closure_later _ hf := hf
  pure hab := fun _ hm => .done hab hm
  fail he := fun _ hm => he.eq ▸ .failed hm
  bind hxy hfg := hxy.bind fun a b hab => hfg () trivial a b hab
  writeLine _ text := .refl (fun _ => trivial) (writeLine_keepsDepth text)

/-- Computations that keep the depth go with themselves at any depth. -/
theorem atDepth_reflexive (depth : Nat) : (atDepth depth).Reflexive KeepsDepth where
  closure_iff := Iff.rfl
  span_iff := Iff.rfl
  coupled hV hx := .refl hV hx

/-! ## Calls -/

section Calls

variable {rules : Rules} {ev ev' : Evaluator}

/-- A body does the same with evaluators that do the same one call deeper, and the depth is
restored behind it. -/
theorem runBody_atDepth
    (hev : ∀ e env, Restores (depth + 1) (Value.Lift Eq) (ev e env) (ev' e env)) (f : Closure)
    (args : List Value) :
    Restores depth (Value.Lift Eq) (runBody rules ev f args) (runBody rules ev' f args) := by
  intro m hm
  have hexprs : (atDepth (depth + 1)).Exprs () ev ev' m.heap.scopes.size m.heap.scopes.size
      f.body f.body := List.forall₂_same.mpr fun e _ _ _ => hev e _
  have henter : (m.enter f args).1.depth = depth + 1 := congrArg (· + 1) hm
  have hbody := (atDepth (depth + 1)).evalSequence_coupled hexprs .undefined _ henter
  have hleave : ∀ {m' : Machine}, m'.depth = depth + 1 → ∀ frame clear,
      (m'.leave frame clear).depth = depth := by
    intro m' hm' frame clear
    exact Nat.sub_eq_of_eq_add hm'
  simp only [runBody, Machine.enter_snd]
  generalize evalSequence ev _ _ _ _ = o at hbody
  generalize evalSequence ev' _ _ _ _ = o' at hbody
  cases hbody with
  | done hv hm' =>
    obtain rfl := hv.eq
    exact .done hv (hleave hm' _ _)
  | failed hm' => exact .failed (hleave hm' _ _)
  | unfinished => exact .unfinished

end Calls

namespace CallCount

variable {k : CallCount} {calls : Nat}

/-- Within the limit, a state fits the calls in progress exactly if its depth is their number. -/
theorem fits_iff (hle : k.start + calls ≤ k.rules.maxDepth) {m : Machine} :
    k.Fits calls m ↔ m.depth = k.start + calls :=
  ⟨And.left, fun h => ⟨h, h ▸ hle⟩⟩

/-- A call is refused at the limit, and nowhere else. -/
theorem callFunction_atDepth (hle : k.start + calls ≤ k.rules.maxDepth) {ev : Evaluator}
    {counted : (calls : Nat) → Evaluator}
    (hev : k.start + (calls + 1) ≤ k.rules.maxDepth → ∀ e env,
      Restores (k.start + (calls + 1)) (Value.Lift Eq) (ev e env) (counted (calls + 1) e env))
    (f : Closure) (args : List Value) (span : Span) :
    Restores (k.start + calls) (Value.Lift Eq) (callFunction k.rules ev f args span)
      (k.call counted calls f args span) := by
  intro m hm
  rw [callFunction, call, if_neg (not_not_intro ((fits_iff hle).mpr hm))]
  by_cases hlimit : k.start + calls = k.rules.maxDepth
  · rw [if_pos (hm.trans hlimit).ge, if_pos hlimit]
    exact .failed hm
  · have hdeeper : k.start + (calls + 1) ≤ k.rules.maxDepth := by omega
    have henter : (m.enter f args).1.depth = k.start + (calls + 1) := congrArg (· + 1) hm
    rw [if_neg (by omega), if_neg hlimit, if_neg (not_not_intro ((fits_iff hdeeper).mpr henter))]
    exact runBody_atDepth (hev hdeeper) f args m hm

/-- The checks pass for an evaluation that restores the depth. -/
theorem guard_atDepth (hle : k.start + calls ≤ k.rules.maxDepth) {ev counted : Evaluator} {e : Expr}
    {env : ScopeId}
    (h : Restores (k.start + calls) (Value.Lift Eq) (ev e env) (counted e env)) :
    Restores (k.start + calls) (Value.Lift Eq) (ev e env) (k.guard calls counted e env) := by
  intro m hm
  have hm' := h m hm
  rw [guard, if_pos]
  · exact hm'
  · refine ⟨(fits_iff hle).mpr hm, ?_⟩
    generalize ev e env m = o at hm'
    generalize counted e env m = o' at hm'
    cases hm' with
    | done _ hdepth | failed hdepth => exact decide_eq_true ((fits_iff hle).mpr hdepth)
    | unfinished => rfl

/-- **Counting calls changes nothing** from a state within the limit on. -/
theorem eval_atDepth (hle : k.start + calls ≤ k.rules.maxDepth) (steps : Nat) (e : Expr)
    (env : ScopeId) :
    Restores (k.start + calls) (Value.Lift Eq) (ScopeScript.eval k.rules steps e env)
      (k.eval steps calls e env) := by
  rw [ScopeScript.eval]
  induction steps generalizing calls e env with
  | zero => exact guard_atDepth hle fun _ _ => .unfinished
  | succ steps ih =>
    refine guard_atDepth hle ((atDepth_reflexive _).evalStep (w := ()) (bindName_keepsDepth env)
      (newChild_keepsDepth env) (fun c _ _ => ih hle c env) (fun _ _ f vs span => ?_) steps e)
    exact callFunction_atDepth hle (fun hdeeper => ih hdeeper) f vs span

end CallCount

end ScopeScript
