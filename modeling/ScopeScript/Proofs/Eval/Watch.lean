import ScopeScript.Proofs.Eval.Footprint
import ScopeScript.Proofs.Scope.Lexical

/-!
# Watched evaluation

An evaluation that checks at every expression, before and after, that scopes follow the text: the
chain of the current scope is the one on record for the bodies in which the expression lies, and
the heap accords with the record. Which bodies these are is carried along: nested expressions lie
in the same ones, and the body of a function that is called lies in the bodies of its definition.
The record is fixed beforehand, for all scopes that will be made. At the first check that fails the
evaluation turns to something else, its alarm. There is no way to recover from an error inside a
program, so an alarm that fails with an error or with output of its own would show.

For a record that the evaluation itself determines no check fails, so the watched evaluation is the
evaluation, whatever the alarm.
-/

namespace ScopeScript

open ScopeScript.Parser (maxNesting)

variable {texts : List String} {w w' : List Origin}

/-! ## Values on record -/

/-- The functions of a value are on record. -/
def Value.OnRecord (w : List Origin) (v : Value) : Prop := ∀ f ∈ v.closures, Recorded w f

/-- What is on record stays so as the record grows. -/
theorem Value.OnRecord.mono {v : Value} (hv : v.OnRecord w) (hw : w <+: w') : v.OnRecord w' :=
  fun f hf => (hv f hf).mono hw

/-- Numbers have no functions. -/
theorem onRecord_number (n : Float) : (Value.number n).OnRecord w := by
  simp [Value.OnRecord, Value.closures]

/-- Strings have no functions. -/
theorem onRecord_string (s : String) : (Value.string s).OnRecord w := by
  simp [Value.OnRecord, Value.closures]

/-- The missing value has no functions. -/
theorem onRecord_undefined : Value.undefined.OnRecord w := by
  simp [Value.OnRecord, Value.closures]

/-- A function is on record as a value exactly if it is as a function. -/
theorem onRecord_function {f : Closure} : (Value.function f).OnRecord w ↔ Recorded w f := by
  simp [Value.OnRecord, Value.closures]

/-- Equal functions that are on record. -/
def SameOnRecord (w : List Origin) (f f' : Closure) : Prop := f = f' ∧ Recorded w f

/-- A value is on record exactly if it is related to itself by its functions on record. -/
theorem onRecord_iff {v : Value} : v.OnRecord w ↔ Value.Lift (SameOnRecord w) v v := by
  simp [Value.lift_self_iff, Value.OnRecord, SameOnRecord]

/-- Values are on record exactly if they are related to themselves by their functions on record. -/
theorem forall_onRecord_iff {vs : List Value} :
    (∀ v ∈ vs, v.OnRecord w) ↔ List.Forall₂ (Value.Lift (SameOnRecord w)) vs vs := by
  simp only [List.forall₂_same, onRecord_iff]

/-- A result that is related to itself by its functions on record is a value on record. -/
theorem onRecord_of_rel {E : RuntimeError → RuntimeError → Prop} {x : Except RuntimeError Value}
    (hx : ExceptRel E (Value.Lift (SameOnRecord w)) x x) (v : Value) (hv : x = .ok v) :
    v.OnRecord w := by
  subst hv
  cases hx with
  | ok hv => exact onRecord_iff.mpr hv

/-- Equal functions have one name. -/
theorem name_of_sameOnRecord (f f' : Closure) (hf : SameOnRecord w f f') : f.name = f'.name := by
  rw [hf.1]

/-- What an operator gives is on record. -/
theorem operate_onRecord {op : String} {a b : Value} {span : Span} (ha : a.OnRecord w)
    (hb : b.OnRecord w) (v : Value) (hv : operate op a b span = .ok v) : v.OnRecord w :=
  onRecord_of_rel (operate_rel (S := Eq) name_of_sameOnRecord op rfl (onRecord_iff.mp ha)
    (onRecord_iff.mp hb)) v hv

/-! ## Watches -/

/-- What holds of the state of an evaluation: the heap accords with the record of the scopes that
there are, and no scope is deep. -/
structure Orderly (texts : List String) (record : List Origin) (h : Heap) : Prop where
  accords : Accords texts record h
  depth_le : ∀ i, h.depth i ≤ 2 * maxNesting + 1

/-- What accords with its record is orderly. -/
theorem Accords.orderly {h : Heap} (ha : Accords texts w h) : Orderly texts w h :=
  ⟨ha, ha.depth_le⟩

variable [SearchContext]

/-- What a watched evaluation is checked against, and what it turns to when a check fails. -/
structure Watch where
  texts : List String
  origins : List Origin
  alarm : Eval Value

namespace Watch

/-- The record of the scopes that there are. -/
def record (k : Watch) (m : Machine) : List Origin := k.origins.take m.heap.scopes.size

/-- What is checked before an expression is evaluated: it lies in the text within the bodies of
`context`, the chain of the current scope is the one on record for these, and the state is
orderly. -/
structure Before (k : Watch) (context : List Expr) (e : Expr) (env : ScopeId) (m : Machine) :
    Prop where
  inside : Inside k.texts context e
  chained : Chained (k.record m) context (m.heap.chain env)
  depth_eq : m.heap.depth env = 2 * context.length + 1
  orderly : Orderly k.texts (k.record m) m.heap

/-- What is checked of how the evaluation of an expression ends: the state is orderly, the functions
of the value are on record, and a definition has made its function with a new scope, which is on
record as that of the definition, evaluated in the current scope. -/
structure After (k : Watch) (context : List Expr) (e : Expr) (env : ScopeId) (m : Machine)
    (o : Outcome Value) : Prop where
  orderly : ∀ m', o.machine? = some m' → Orderly k.texts (k.record m') m'.heap
  recorded : ∀ v m', o = .done v m' → ∀ f ∈ v.closures, Recorded (k.record m') f
  made : e.isFunction = true → ∀ v m', o = .done v m' → ∃ f, v = .function f ∧ IsMadeBy f e ∧
    f.scope = m.heap.scopes.size ∧ k.origins[f.scope]? = some (.closure e context env)

/-- What is checked when a function is called: it and the functions of the arguments are on record,
and the new frame is on record as that of a call of the function. -/
structure Calls (k : Watch) (rules : Rules) (f : Closure) (args : List Value) (m : Machine) :
    Prop where
  function : Recorded (k.record m) f
  args : ∀ v ∈ args, ∀ g ∈ v.closures, Recorded (k.record m) g
  frame : m.depth < rules.maxDepth → k.origins[m.heap.scopes.size]? = some (.frame f.scope)

/-- The record of a state has at most the scopes that there are. -/
theorem length_record_le (k : Watch) (m : Machine) :
    (k.record m).length ≤ m.heap.scopes.size := by
  rw [record, List.length_take]
  exact Nat.min_le_left _ _

/-- Where the checks pass, the scope that a definition makes lies in the current one. -/
theorem Before.parent?_newChild {k : Watch} {context : List Expr} {e : Expr} {env : ScopeId}
    {m : Machine} (h : k.Before context e env m) :
    (m.heap.newChild env).1.parent? (m.heap.newChild env).2 = some env := by
  have hlt : env < m.heap.scopes.size := by
    by_contra hle
    have hdepth := h.depth_eq
    rw [Heap.depth, Heap.chain_of_le (Nat.not_lt.mp hle)] at hdepth
    exact absurd hdepth.symm (Nat.succ_ne_zero _)
  rw [Heap.newChild_snd, Heap.parent?_newChild_self hlt]

/-- Where the checks pass, the frame of a call lies in the scope of the function. -/
theorem Calls.parent?_newChild {k : Watch} {rules : Rules} {f : Closure} {args : List Value}
    {m : Machine} (h : k.Calls rules f args m) (hf : ¬ IsPlaceholder f) :
    (m.heap.newChild f.scope).1.parent? (m.heap.newChild f.scope).2 = some f.scope := by
  obtain ⟨d, context, home, hscope, -⟩ := h.function.resolve_left hf
  have hlt : f.scope < (k.record m).length := (List.getElem?_eq_some_iff.mp hscope).1
  rw [Heap.newChild_snd, Heap.parent?_newChild_self (hlt.trans_le (k.length_record_le m))]

/-- The bodies in which the body of a function lies, with that body itself. -/
def bodies (k : Watch) (f : Closure) : List Expr :=
  match k.origins[f.scope]? with
  | some (.closure d context _) => d :: context
  | _ => []

open Classical in
/-- Evaluate with the checks before and after. -/
noncomputable def guard (k : Watch) (context : List Expr) (ev : Evaluator) : Evaluator :=
  fun e env m =>
    if k.Before context e env m ∧ k.After context e env m (ev e env m) then ev e env m
    else k.alarm m

open Classical in
/-- Call a function with the check of calls. Its body lies where its definition does. -/
noncomputable def call (k : Watch) (rules : Rules) (ev : List Expr → Evaluator) : Caller :=
  fun f args span m =>
    if k.Calls rules f args m then callFunction rules (ev (k.bodies f)) f args span m
    else k.alarm m

/-- Evaluate an expression that lies within the bodies of `context`, with all checks. -/
noncomputable def eval (k : Watch) (rules : Rules) :
    (steps : Nat) → (context : List Expr) → Evaluator
  | 0, context => k.guard context fun _ _ => Eval.stop
  | steps + 1, context =>
    k.guard context
      (evalStep (k.call rules (k.eval rules steps)) (k.eval rules steps context) steps)

end Watch

/-! ## Following a record -/

variable {α β : Type}

/-- A computation follows the texts from a record on: in a state that accords with the record it
extends the record to one that its own end accords with, and for every watch that knows the longer
record the watched computation is the same. What the computation gives is related to the record
by `P`. -/
def Follows (texts : List String) (w : List Origin) (watched : Watch → Eval α) (x : Eval α)
    (P : List Origin → α → Prop) : Prop :=
  ∀ m, Accords texts w m.heap → ∃ w', w <+: w' ∧
    (∀ k : Watch, k.texts = texts → w' <+: k.origins → watched k m = x m) ∧
    (∀ m', (x m).machine? = some m' → Accords texts w' m'.heap) ∧
    ∀ a m', x m = .done a m' → P w' a

namespace Follows

variable {P : List Origin → α → Prop} {Q : List Origin → β → Prop}

/-- Giving a value that fits the record. -/
theorem pure {a : α} (ha : P w a) :
    Follows texts w (fun _ => Pure.pure a) (Pure.pure a : Eval α) P := by
  intro m hm
  refine ⟨w, List.prefix_rfl, fun _ _ _ => rfl, ?_, ?_⟩
  · rintro m' ⟨⟩
    exact hm
  · rintro a m' ⟨⟩
    exact ha

/-- Failing at once. -/
theorem fail (e : RuntimeError) :
    Follows texts w (fun _ => Eval.fail e) (Eval.fail e : Eval α) P := by
  intro m hm
  refine ⟨w, List.prefix_rfl, fun _ _ _ => rfl, ?_, ?_⟩
  · rintro m' ⟨⟩
    exact hm
  · rintro a m' ⟨⟩

/-- Not ending at once. -/
theorem stop : Follows texts w (fun _ => Eval.stop) (Eval.stop : Eval α) P := by
  intro m hm
  refine ⟨w, List.prefix_rfl, fun _ _ _ => rfl, ?_, ?_⟩
  · rintro m' ⟨⟩
  · rintro a m' ⟨⟩

/-- A result whose value fits the record. -/
theorem lift {x : Except RuntimeError α} (hx : ∀ a, x = .ok a → P w a) :
    Follows texts w (fun _ => Eval.lift x) (Eval.lift x) P := by
  cases x with
  | ok a => exact pure (hx a rfl)
  | error e => exact fail e

/-- Computations that follow the texts, one after the other, do so. -/
theorem bind {watched : Watch → Eval α} {x : Eval α} {watched' : Watch → α → Eval β}
    {f : α → Eval β} (hx : Follows texts w watched x P)
    (hf : ∀ w', w <+: w' → ∀ a, P w' a → Follows texts w' (fun k => watched' k a) (f a) Q) :
    Follows texts w (fun k => watched k >>= watched' k) (x >>= f) Q := by
  intro m hm
  obtain ⟨w₁, hw₁, heq₁, haccords₁, hP⟩ := hx m hm
  change ∃ w', _ ∧ (∀ k : Watch, _ → _ → Eval.bind (watched k) (watched' k) m = Eval.bind x f m) ∧
    (∀ m', (Eval.bind x f m).machine? = some m' → _) ∧ ∀ b m', Eval.bind x f m = .done b m' → _
  simp only [Eval.bind]
  cases hxm : x m with
  | done a m₁ =>
    rw [hxm] at heq₁ haccords₁
    -- The record at the end serves both parts, as records only grow.
    obtain ⟨w₂, hw₂, heq₂, haccords₂, hQ⟩ := hf w₁ hw₁ a (hP a m₁ hxm) m₁ (haccords₁ m₁ rfl)
    refine ⟨w₂, hw₁.trans hw₂, fun k hk hle => ?_, haccords₂, hQ⟩
    rw [heq₁ k hk (hw₂.trans hle)]
    exact heq₂ k hk hle
  | failed e m₁ =>
    rw [hxm] at heq₁ haccords₁
    refine ⟨w₁, hw₁, fun k hk hle => by rw [heq₁ k hk hle], haccords₁, ?_⟩
    rintro b m' ⟨⟩
  | unfinished =>
    rw [hxm] at heq₁
    refine ⟨w₁, hw₁, fun k hk hle => by rw [heq₁ k hk hle], ?_, ?_⟩
    · rintro m' ⟨⟩
    · rintro b m' ⟨⟩

/-- A computation that follows the texts does so with less said of its values. -/
theorem mono {watched : Watch → Eval α} {x : Eval α} {P' : List Origin → α → Prop}
    (hx : Follows texts w watched x P) (hP : ∀ w' a, P w' a → P' w' a) :
    Follows texts w watched x P' := by
  intro m hm
  obtain ⟨w', hw, heq, haccords, hpost⟩ := hx m hm
  exact ⟨w', hw, heq, haccords, fun a m' h => hP w' a (hpost a m' h)⟩

end Follows

/-! ## Lists of expressions -/

/-- The expressions of a list are followed in a scope, now and later. -/
def FollowsAll (texts : List String) (w : List Origin) (watched : Watch → Evaluator)
    (ev : Evaluator) (env : ScopeId) (es : List Expr) : Prop :=
  ∀ w', w <+: w' → ∀ e ∈ es,
    Follows texts w' (fun k => watched k e env) (ev e env) fun w v => v.OnRecord w

section Combinators

variable {watched : Watch → Evaluator} {ev : Evaluator} {env : ScopeId} {es : List Expr} {e : Expr}

/-- Expressions that are followed are so later. -/
theorem FollowsAll.mono (h : FollowsAll texts w watched ev env es) (hw : w <+: w') :
    FollowsAll texts w' watched ev env es :=
  fun w'' hw' => h w'' (hw.trans hw')

/-- Some of the expressions that are followed are so. -/
theorem FollowsAll.subset {es' : List Expr} (h : FollowsAll texts w watched ev env es)
    (hsub : es' ⊆ es) : FollowsAll texts w watched ev env es' :=
  fun w' hw e he => h w' hw e (hsub he)

/-- Each of the expressions that are followed is so. -/
theorem FollowsAll.follows (h : FollowsAll texts w watched ev env es) (he : e ∈ es) :
    Follows texts w (fun k => watched k e env) (ev e env) fun w v => v.OnRecord w :=
  h w List.prefix_rfl e he

/-- Sequences of expressions that are followed. -/
theorem evalSequence_follows (hes : FollowsAll texts w watched ev env es) {last : Value}
    (hlast : last.OnRecord w) :
    Follows texts w (fun k => evalSequence (watched k) env last es) (evalSequence ev env last es)
      fun w v => v.OnRecord w := by
  induction es generalizing w last with
  | nil => exact .pure hlast
  | cons e rest ih =>
    refine (hes.follows List.mem_cons_self).bind fun w' hw v hv => ?_
    exact ih ((hes.subset (List.subset_cons_self e rest)).mono hw) hv

/-- Lists of expressions that are followed give values on record. -/
theorem evalAll_follows (hes : FollowsAll texts w watched ev env es) :
    Follows texts w (fun k => evalAll (watched k) env es) (evalAll ev env es)
      fun w vs => ∀ v ∈ vs, v.OnRecord w := by
  induction es generalizing w with
  | nil => exact .pure (by simp)
  | cons e rest ih =>
    refine (hes.follows List.mem_cons_self).bind fun w₁ hw₁ v hv => ?_
    refine (ih ((hes.subset (List.subset_cons_self e rest)).mono hw₁)).bind fun w₂ hw₂ vs hvs => ?_
    exact .pure (List.forall_mem_cons.mpr ⟨hv.mono hw₂, hvs⟩)

/-- Arguments that may be missing are followed if the arguments are. -/
theorem evalOptional_follows (hes : FollowsAll texts w watched ev env es) (i : Nat) :
    Follows texts w (fun k => evalOptional (watched k) env es[i]?) (evalOptional ev env es[i]?)
      fun w v => v.OnRecord w := by
  cases he : es[i]? with
  | none => exact .pure onRecord_undefined
  | some e => exact hes.follows (List.mem_of_getElem? he)

/-! ## Special forms -/

variable {args body : List Expr}

/-- Choices among expressions that are followed. -/
theorem evalChoice_follows (hargs : FollowsAll texts w watched ev env args)
    (hbody : FollowsAll texts w watched ev env body) :
    Follows texts w (fun k => evalChoice (watched k) env args body) (evalChoice ev env args body)
      fun w v => v.OnRecord w := by
  cases args with
  | nil => exact .pure onRecord_undefined
  | cons condition rest =>
    refine (hargs.follows List.mem_cons_self).bind fun w' hw c _ => ?_
    have hrest := (hargs.subset (List.subset_cons_self condition rest)).mono hw
    split
    · exact evalOptional_follows hrest 0
    · exact evalOptional_follows hrest 1
    · exact evalSequence_follows (hbody.mono hw) onRecord_undefined
    · exact evalOptional_follows hrest 0

/-- Loops over expressions that are followed. -/
theorem evalRounds_follows {condition : Expr}
    (hcondition : FollowsAll texts w watched ev env [condition])
    (hbody : FollowsAll texts w watched ev env body) (rounds : Nat) :
    Follows texts w (fun k => evalRounds (watched k) env condition body rounds)
      (evalRounds ev env condition body rounds) fun w v => v.OnRecord w := by
  induction rounds generalizing w with
  | zero => exact .stop
  | succ rounds ih =>
    refine (hcondition.follows List.mem_cons_self).bind fun w₁ hw₁ c _ => ?_
    split
    · refine (evalSequence_follows (hbody.mono hw₁) onRecord_undefined).bind fun w₂ hw₂ _ _ => ?_
      exact ih (hcondition.mono (hw₁.trans hw₂)) (hbody.mono (hw₁.trans hw₂))
    · exact .pure onRecord_undefined

/-- Special forms over expressions that are followed. -/
theorem evalSpecial_follows (hargs : FollowsAll texts w watched ev env args)
    (hbody : FollowsAll texts w watched ev env body) (rounds : Nat) (form : SpecialForm) :
    Follows texts w (fun k => evalSpecial (watched k) rounds env args body form)
      (evalSpecial ev rounds env args body form) fun w v => v.OnRecord w := by
  cases form with
  | choice => exact evalChoice_follows hargs hbody
  | loop =>
    cases args with
    | nil => exact .pure onRecord_undefined
    | cons condition rest =>
      refine evalRounds_follows (hargs.subset (by simp)) ?_ rounds
      split
      · exact hargs.subset (List.subset_cons_self condition rest)
      · exact hbody

end Combinators

/-! ## Effects on the state -/

/-- Writing a line changes no scope. -/
theorem writeLine_follows (text : String) :
    Follows texts w (fun _ => Eval.writeLine text) (Eval.writeLine text) fun _ _ => True := by
  intro m hm
  refine ⟨w, List.prefix_rfl, fun _ _ _ => rfl, fun m' h => ?_, fun _ _ _ => trivial⟩
  rwa [Eval.heap_of_writeLine h]

/-- What a name means is on record. -/
theorem lookup?_follows (env : ScopeId) (name : String) :
    Follows texts w (fun _ => Eval.lookup? env name) (Eval.lookup? env name)
      fun w v? => ∀ v ∈ v?, v.OnRecord w := by
  intro m hm
  refine ⟨w, List.prefix_rfl, fun _ _ _ => rfl, ?_, ?_⟩
  · rintro m' ⟨⟩
    exact hm
  · rintro v? m' ⟨⟩ v hv
    exact hm.lookup? hv

section Scope

variable {context : List Expr} {env : ScopeId} {rest : List ScopeId}

/-- Binding a name in the current scope to a value on record. -/
theorem bindName_follows (hchain : Chained w context (env :: rest)) (name : String) {v : Value}
    (hv : v.OnRecord w) :
    Follows texts w (fun _ => Eval.bindName env name v) (Eval.bindName env name v)
      fun _ _ => True := by
  intro m hm
  refine ⟨w, List.prefix_rfl, fun _ _ _ => rfl, ?_, fun _ _ _ => trivial⟩
  rintro m' ⟨⟩
  exact hm.bind (fun _ _ _ => hchain.head_ne_closure) name hv

/-- The scope of a function goes on record with the definition. -/
theorem newChild_follows {d : Expr} (hchain : Chained w context (env :: rest))
    (hinside : Inside texts context d) (hd : d.isFunction = true) :
    Follows texts w (fun _ => Eval.newChild env) (Eval.newChild env)
      fun w' i => i = w.length ∧ w'[i]? = some (.closure d context env) := by
  intro m hm
  refine ⟨w ++ [.closure d context env], List.prefix_append _ _, fun _ _ _ => rfl, ?_, ?_⟩
  · rintro m' ⟨⟩
    exact hm.newClosure hinside hd hchain
  · intro i m' h
    obtain rfl : (m.heap.newChild env).2 = i := (Outcome.done.inj h).1
    rw [Heap.newChild_snd, ← hm.length_eq]
    exact ⟨rfl, by simp⟩

/-- A value that is there goes on to what follows. -/
theorem Eval.lift_ok_bind (a : α) (f : α → Eval β) : (Eval.lift (.ok a) >>= f) = f a := rfl

/-- What is on record of the value of an expression: its functions, and for a definition its own
function with a new scope. -/
def Made (w : List Origin) (context : List Expr) (e : Expr) (env : ScopeId) (w' : List Origin)
    (v : Value) : Prop :=
  v.OnRecord w' ∧
    (e.isFunction = true → ∃ f, v = .function f ∧ IsMadeBy f e ∧ f.scope = w.length ∧
      w'[f.scope]? = some (.closure e context env))

/-- A definition makes its function with a scope that goes on record. -/
theorem defineFunction_follows {name : Name} {params body : List Expr} {span : Span}
    (hchain : Chained w context (env :: rest))
    (hinside : Inside texts context (.definition name params body span))
    (hd : (Expr.definition name params body span).isFunction = true) :
    Follows texts w (fun _ => defineFunction env name.text params body)
      (defineFunction env name.text params body)
      (Made w context (.definition name params body span) env) := by
  cases hps : parameterNames name.text params with
  | error e =>
    simp only [defineFunction, hps]
    exact .fail e
  | ok ps =>
    simp only [defineFunction, hps, Eval.lift_ok_bind]
    refine (newChild_follows hchain hinside hd).bind fun w₁ hw₁ i hi => ?_
    have hmade : IsMadeBy ⟨name.text, ps, body, i⟩ (.definition name params body span) :=
      ⟨name, params, span, rfl, hd, rfl, hps⟩
    have hrecorded : Recorded w₁ ⟨name.text, ps, body, i⟩ := .inr ⟨_, context, env, hi.2, hmade⟩
    have hv := onRecord_function.mpr hrecorded
    refine (bindName_follows (hchain.mono hw₁) name.text hv).bind fun w₂ hw₂ _ _ => ?_
    exact .pure ⟨hv.mono hw₂, fun _ => ⟨_, rfl, hmade, hi.1, getElem?_mono hw₂ hi.2⟩⟩

end Scope

/-! ## Calls -/

omit [SearchContext] in
/-- A frame with the parameters bound accords with the record as the new frame does. -/
theorem Accords.bindParameters {h : Heap} {frame : ScopeId} {closure : ScopeId}
    (ha : Accords texts w h) (hframe : w[frame]? = some (.frame closure)) {args : List Value}
    (hargs : ∀ v ∈ args, v.OnRecord w) (params : List String) :
    Accords texts w (bindParameters frame params args h) := by
  have hne : ∀ d context home, w[frame]? ≠ some (.closure d context home) := by
    simp [hframe]
  induction params generalizing args h with
  | nil => exact ha
  | cons p ps ih =>
    cases args with
    | nil => exact ih (ha.bind hne p onRecord_undefined) hargs
    | cons a args =>
      rw [List.forall_mem_cons] at hargs
      exact ih (ha.bind hne p hargs.1) hargs.2

/-- Entering a call puts the new frame on record. -/
theorem Accords.enter {m : Machine} {f : Closure} {d : Expr} {context : List Expr}
    {home : ScopeId} (ha : Accords texts w m.heap)
    (hclosure : w[f.scope]? = some (.closure d context home)) {args : List Value}
    (hargs : ∀ v ∈ args, v.OnRecord w) :
    Accords texts (w ++ [.frame f.scope]) (m.enter f args).1.heap := by
  have hw : w <+: w ++ [.frame f.scope] := List.prefix_append _ _
  have hframe : (w ++ [.frame f.scope])[m.heap.scopes.size]? = some (.frame f.scope) := by
    simp [← ha.length_eq]
  have hentered := (ha.newFrame hclosure).bindParameters hframe
    (fun v hv => (hargs v hv).mono hw) f.params
  rwa [← Heap.newChild_snd m.heap f.scope] at hentered

/-- The heap accords with its record when a call is left, cleared or not. -/
theorem Accords.leave {m : Machine} (ha : Accords texts w m.heap) (frame : ScopeId)
    (clear : Bool) : Accords texts w (m.leave frame clear).heap := by
  cases clear with
  | false => exact ha
  | true => exact ha.clear frame

/-- The record of the scopes that there are is the one that the state accords with. -/
theorem Watch.record_eq {k : Watch} {m : Machine} (ha : Accords texts w m.heap)
    (hw : w <+: k.origins) : k.record m = w := by
  rw [Watch.record, ← ha.length_eq, ← List.prefix_iff_eq_take.mp hw]

/-- A call that passes the check is the call. -/
theorem Watch.call_eq {k : Watch} {rules : Rules} {ev : List Expr → Evaluator} {f : Closure}
    {args : List Value} {m : Machine} (h : k.Calls rules f args m) (span : Span) :
    k.call rules ev f args span m = callFunction rules (ev (k.bodies f)) f args span m :=
  if_pos h

/-- A call that is not too deep is its body in a new frame. -/
theorem callFunction_of_lt {rules : Rules} {m : Machine} (h : m.depth < rules.maxDepth)
    (ev : Evaluator) (f : Closure) (args : List Value) (span : Span) :
    callFunction rules ev f args span m = runBody rules ev f args m :=
  if_neg (Nat.not_le.mpr h)

section Body

variable {rules : Rules} {ev ev' : Evaluator} {f : Closure} {args : List Value} {m m' : Machine}

/-- Bodies that are evaluated alike make calls alike. -/
theorem runBody_congr
    (h : evalSequence ev m.heap.scopes.size .undefined f.body (m.enter f args).1 =
      evalSequence ev' m.heap.scopes.size .undefined f.body (m.enter f args).1) :
    runBody rules ev f args m = runBody rules ev' f args m := by
  simp only [runBody, Machine.enter_snd, h]

/-- The value of a call is that of the body. -/
theorem exists_of_runBody_done {v : Value} (h : runBody rules ev f args m = .done v m') :
    ∃ m₁, evalSequence ev m.heap.scopes.size .undefined f.body (m.enter f args).1 =
      .done v m₁ := by
  simp only [runBody, Machine.enter_snd] at h
  generalize evalSequence ev _ _ _ _ = o at h ⊢
  cases o with
  | done u m₁ =>
    obtain ⟨rfl, -⟩ := Outcome.done.inj h
    exact ⟨m₁, rfl⟩
  | failed e m₁ => cases h
  | unfinished => cases h

end Body

/-- Expressions are followed wherever they lie in the texts, in every scope with the chain of the
bodies in which they lie. -/
def FollowsTexts (texts : List String) (watched : Watch → List Expr → Evaluator)
    (ev : Evaluator) : Prop :=
  ∀ w context env rest e, Chained w context (env :: rest) → Inside texts context e →
    Follows texts w (fun k => watched k context e env) (ev e env) fun w v => v.OnRecord w

/-- Expressions that lie in the texts are followed wherever the chain is on record. -/
theorem FollowsTexts.all {watched : Watch → List Expr → Evaluator} {ev : Evaluator}
    (hev : FollowsTexts texts watched ev) {context : List Expr} {env : ScopeId}
    {rest : List ScopeId} (hchain : Chained w context (env :: rest)) {es : List Expr}
    (hes : ∀ e ∈ es, Inside texts context e) :
    FollowsAll texts w (fun k => watched k context) ev env es :=
  fun w' hw e he => hev w' context env rest e (hchain.mono hw) (hes e he)

/-- **A call is followed**: its body is evaluated where its definition says. -/
theorem callFunction_follows {watched : Watch → List Expr → Evaluator} {ev : Evaluator}
    (hev : FollowsTexts texts watched ev) (rules : Rules) {f : Closure} (hf : Recorded w f)
    (hplaceholder : ¬ IsPlaceholder f) {args : List Value} (hargs : ∀ v ∈ args, v.OnRecord w)
    (span : Span) :
    Follows texts w (fun k => k.call rules (watched k) f args span)
      (callFunction rules ev f args span) fun w v => v.OnRecord w := by
  intro m hm
  obtain ⟨d, context, home, hclosure, name, params, span', hd, hfunction, -, -⟩ :=
    hf.resolve_left hplaceholder
  have hcalls : ∀ k : Watch, w <+: k.origins →
      (m.depth < rules.maxDepth → k.origins[m.heap.scopes.size]? = some (.frame f.scope)) →
        k.Calls rules f args m := by
    intro k hw hframe
    refine ⟨?_, ?_, hframe⟩
    · rwa [Watch.record_eq hm hw]
    · rwa [Watch.record_eq hm hw]
  obtain hdepth | hdeep := Nat.lt_or_ge m.depth rules.maxDepth
  · -- The chain of the frame goes on where the definition was evaluated, whoever calls.
    obtain ⟨hinside, -, rest, hchain⟩ := hm.consistent.closure _ _ _ _ hclosure
    have hentered := hm.enter hclosure hargs
    have hw₁ : w <+: w ++ [.frame f.scope] := List.prefix_append _ _
    have hframe : (w ++ [.frame f.scope])[m.heap.scopes.size]? = some (.frame f.scope) := by
      simp [← hm.length_eq]
    have hchain₁ := (hchain.mono hw₁).frame (getElem?_mono hw₁ hclosure) hframe
    have hbody : ∀ e ∈ f.body, Inside texts (d :: context) e := by
      intro e he
      refine hinside.body ?_
      rw [hd] at hfunction ⊢
      rwa [Expr.functionBody, if_pos hfunction]
    obtain ⟨w₂, hw₂, heq, haccords, hrecorded⟩ :=
      evalSequence_follows (hev.all hchain₁ hbody) onRecord_undefined _ hentered
    refine ⟨w₂, hw₁.trans hw₂, fun k hk hw => ?_, fun m' hm' => ?_, fun v m' hv => ?_⟩
    · have hbodies : k.bodies f = d :: context := by
        rw [Watch.bodies, getElem?_mono ((hw₁.trans hw₂).trans hw) hclosure]
      have hcheck := hcalls k ((hw₁.trans hw₂).trans hw)
        fun _ => getElem?_mono (hw₂.trans hw) hframe
      refine (Watch.call_eq hcheck span).trans ?_
      rw [hbodies, callFunction_of_lt hdepth, callFunction_of_lt hdepth]
      exact runBody_congr (heq k hk hw)
    · obtain ⟨hdeep, -⟩ | ⟨-, m₁, clear, hrun, rfl⟩ := callFunction_cases hm'
      · exact absurd hdepth (Nat.not_lt.mpr hdeep)
      · exact (haccords m₁ hrun).leave _ clear
    · rw [callFunction_of_lt hdepth] at hv
      obtain ⟨m₁, hrun⟩ := exists_of_runBody_done hv
      exact hrecorded v m₁ hrun
  · have hcall : ∀ ev, callFunction rules ev f args span m =
        .failed (.recursionLimit rules.maxDepth f.name span) m := by
      intro ev
      rw [callFunction, if_pos hdeep]
    refine ⟨w, List.prefix_rfl, fun k hk hw => ?_, ?_, ?_⟩
    · have hcheck := hcalls k hw fun hlt => absurd hdeep (Nat.not_le.mpr hlt)
      refine (Watch.call_eq hcheck span).trans ?_
      rw [hcall, hcall]
    · rw [hcall]
      rintro m' ⟨⟩
      exact hm
    · rw [hcall]
      rintro v m' ⟨⟩

/-! ## Builtins -/

/-- Printing gives values without functions. -/
theorem printAll_follows (vs : List Value) :
    Follows texts w (fun _ => printAll vs) (printAll vs) fun w v => v.OnRecord w := by
  induction vs generalizing w with
  | nil => exact .pure onRecord_undefined
  | cons v rest ih => exact (writeLine_follows _).bind fun _ _ _ _ => ih

/-- A search answers with what is on record. -/
theorem search_follows {args : List Value} (hargs : ∀ v ∈ args, v.OnRecord w) (kind : SearchKind) :
    Follows texts w (fun _ => search args kind) (search args kind) fun w v => v.OnRecord w := by
  have hself := forall_onRecord_iff.mp hargs
  rw [search_eq_lift]
  exact .lift (onRecord_of_rel (searchResult_rel (S := Eq) name_of_sameOnRecord hself kind))

/-- Native builtins give values on record. -/
theorem callNative_follows {args : List Value} (hargs : ∀ v ∈ args, v.OnRecord w) (n : Native) :
    Follows texts w (fun _ => callNative args n) (callNative args n) fun w v => v.OnRecord w := by
  have hself := forall_onRecord_iff.mp hargs
  cases n with
  | print => exact printAll_follows args
  | searchIndexes => exact search_follows hargs .indexes
  | searchElements => exact search_follows hargs .elements
  | indexAccess => exact .pure (onRecord_iff.mpr (indexAccess_rel hself))
  | indexCount => exact .pure (onRecord_iff.mpr (indexCount_rel hself))

/-! ## Expressions -/

section Steps

variable {watched : Watch → List Expr → Evaluator} {ev : Evaluator}
  (hev : FollowsTexts texts watched ev) {context : List Expr} {env : ScopeId}
  {rest : List ScopeId} (hchain : Chained w context (env :: rest))

include hev hchain

/-- A call expression whose parts lie in the texts is followed. -/
theorem evalCall_follows {callee : Expr} {args : List Expr}
    (hinside : ∀ e ∈ callee :: args, Inside texts context e) (rules : Rules) (rounds : Nat)
    (span : Span) :
    Follows texts w
      (fun k => evalCall (k.call rules (watched k)) (watched k context) rounds env callee args span)
      (evalCall (callFunction rules ev) ev rounds env callee args span)
      fun w v => v.OnRecord w := by
  have hall := hev.all hchain hinside
  refine (hall.follows List.mem_cons_self).bind fun w₁ hw₁ v hv => ?_
  have hargs := (hall.subset (List.subset_cons_self callee args)).mono hw₁
  cases v with
  | function f =>
    have hf := onRecord_function.mp hv
    dsimp only
    cases hname : Builtin.ofName? f.name with
    | none =>
      refine (evalAll_follows hargs).bind fun w₂ hw₂ vs hvs => ?_
      have hplaceholder : ¬ IsPlaceholder f := fun h => by simpa [hname] using h.ofName?
      exact callFunction_follows hev rules (hf.mono hw₂) hplaceholder hvs span
    | some b =>
      cases b with
      | native n =>
        exact (evalAll_follows hargs).bind fun w₂ hw₂ vs hvs => callNative_follows hvs n
      | special form =>
        exact evalSpecial_follows hargs (fun _ _ _ he => by simp at he) rounds form
  | _ => exact .fail _

/-- **One step follows the texts** if nested evaluations do. -/
theorem evalStep_follows {e : Expr} (hinside : Inside texts context e) (rules : Rules)
    (rounds : Nat) :
    Follows texts w
      (fun k => evalStep (k.call rules (watched k)) (watched k context) rounds e env)
      (evalStep (callFunction rules ev) ev rounds e env) (Made w context e env) := by
  have hparts := hev.all hchain fun _ => hinside.part
  have hother : e.isFunction = false → ∀ w' v, v.OnRecord w' → Made w context e env w' v :=
    fun he w' v hv => ⟨hv, fun h => by simp [he] at h⟩
  cases e with
  | number text span => exact Follows.mono (.pure (onRecord_number _)) (hother rfl)
  | string text span => exact Follows.mono (.pure (onRecord_string _)) (hother rfl)
  | symbol name span =>
    refine Follows.mono ((lookup?_follows env name).bind fun w' hw v? hv => ?_) (hother rfl)
    cases v? with
    | none => exact .fail _
    | some v => exact .pure (hv v rfl)
  | operation op left right span =>
    refine Follows.mono ((hparts.follows (List.mem_cons_self)).bind fun w₁ hw₁ a ha => ?_)
      (hother rfl)
    refine ((hparts.mono hw₁).follows (by simp [Expr.parts])).bind fun w₂ hw₂ b hb => ?_
    exact .lift (operate_onRecord (ha.mono hw₂) hb)
  | assignment target value span =>
    refine Follows.mono ((hparts.follows (List.mem_cons_self)).bind fun w₁ hw₁ v hv => ?_)
      (hother rfl)
    refine (bindName_follows (hchain.mono hw₁) target.text hv).bind fun w₂ hw₂ _ _ => ?_
    exact .pure (hv.mono hw₂)
  | call callee args span =>
    exact Follows.mono (evalCall_follows hev hchain (fun _ => hinside.part) rules rounds span)
      (hother rfl)
  | definition name params body span =>
    simp only [evalStep, evalDefinition]
    split
    · next form hform =>
      have he : (Expr.definition name params body span).isFunction = false := by
        rw [Expr.isFunction, hform]
      rw [Expr.parts, he] at hparts
      refine Follows.mono (evalSpecial_follows ?_ ?_ rounds form) (hother he)
      · exact hparts.subset (List.subset_append_left params body)
      · exact hparts.subset (List.subset_append_right params body)
    · next hform =>
      refine defineFunction_follows hchain hinside ?_
      rw [Expr.isFunction]
      split
      · next form h => exact absurd h (hform form)
      · rfl

end Steps

/-! ## Watching -/

/-- **The checks pass** for an evaluation that follows the texts. -/
theorem guard_follows {watched : Watch → Evaluator} {ev : Evaluator} {context : List Expr}
    {e : Expr} {env : ScopeId} {rest : List ScopeId} (hchain : Chained w context (env :: rest))
    (hinside : Inside texts context e)
    (h : Follows texts w (fun k => watched k e env) (ev e env) (Made w context e env)) :
    Follows texts w (fun k => k.guard context (watched k) e env) (ev e env)
      fun w v => v.OnRecord w := by
  intro m hm
  obtain ⟨w', hw, heq, haccords, hmade⟩ := h m hm
  refine ⟨w', hw, fun k hk hle => ?_, haccords, fun v m' hv => (hmade v m' hv).1⟩
  have hrun : watched k e env m = ev e env m := heq k hk hle
  have hbefore : k.Before context e env m := by
    have hrecord := Watch.record_eq hm (hw.trans hle)
    have hchain_eq := hm.chain_eq hchain
    refine ⟨hk ▸ hinside, ?_, ?_, ?_⟩
    · rwa [hrecord, hchain_eq]
    · rw [Heap.depth, hchain_eq, hchain.length]
    · rw [hrecord, hk]
      exact hm.orderly
  have hafter : k.After context e env m (ev e env m) := by
    refine ⟨fun m' h => ?_, fun v m' h => ?_, fun he v m' h => ?_⟩
    · rw [Watch.record_eq (haccords m' h) hle, hk]
      exact (haccords m' h).orderly
    · rw [Watch.record_eq (haccords m' (by rw [h]; rfl)) hle]
      exact (hmade v m' h).1
    · obtain ⟨f, hf, hby, hscope, hclosure⟩ := (hmade v m' h).2 he
      exact ⟨f, hf, hby, hscope.trans hm.length_eq, getElem?_mono hle hclosure⟩
  rw [← hrun] at hafter
  exact (if_pos ⟨hbefore, hafter⟩).trans hrun

/-- **Evaluation follows the texts**: for a record that the evaluation determines, the watched
evaluation is the evaluation. -/
theorem eval_follows (texts : List String) (rules : Rules) (steps : Nat) :
    FollowsTexts texts (fun k => k.eval rules steps) (eval rules steps) := by
  induction steps with
  | zero =>
    intro w context env rest e hchain hinside
    exact guard_follows hchain hinside .stop
  | succ steps ih =>
    intro w context env rest e hchain hinside
    exact guard_follows hchain hinside (evalStep_follows ih hchain hinside rules steps)

end ScopeScript
