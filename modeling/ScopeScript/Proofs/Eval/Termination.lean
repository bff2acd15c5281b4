import ScopeScript.Interpreter
import ScopeScript.Proofs.Eval.Coupling
import ScopeScript.Proofs.Eval.Footprint
import ScopeScript.Proofs.Expr.Height
import ScopeScript.Proofs.Expr.Names
import ScopeScript.Proofs.Scope.Reach

/-!
# Evaluation without loops

A program that does not name the loop form cannot run it: only the name itself means the builtin,
so no function that the program gets hold of goes by that name, however it is passed on. What is
left are expressions, which evaluate their parts, and calls, whose depth is limited. A body may be
higher than the call that runs it, but it is evaluated one call deeper: the calls that are left,
and then the height of the expression, are what gets smaller.
-/

namespace ScopeScript

open Eval ScopeScript.Expr

/-- The name of the loop form. -/
def loopName : String := "ifLoop"

/-- The loop form goes by one name only. -/
theorem eq_loopName_of_ofName? {name : String}
    (h : Builtin.ofName? name = some (.special .loop)) : name = loopName := by
  unfold Builtin.ofName? at h
  split at h <;> first | rfl | cases h

/-! ## States without loops -/

/-- A function that does not go by the name of the loop form and does not name it, with a body of
bounded height. -/
structure Closure.LoopFree (height : Nat) (f : Closure) : Prop where
  name : f.name ≠ loopName
  body : ∀ e ∈ f.body, loopName ∉ e.names ∧ e.height ≤ height

/-- A value whose functions are free of loops. -/
def Value.LoopFree (height : Nat) (v : Value) : Prop := ∀ f ∈ v.closures, f.LoopFree height

/-- A heap in which only the name of the loop form may mean a loop. -/
def Heap.LoopFree (height : Nat) (h : Heap) : Prop :=
  ∀ i name v, (name, v) ∈ h.bindings i → name ≠ loopName → v.LoopFree height

namespace Heap.LoopFree

variable {height : Nat} {h : Heap}

/-- Binding a value without loops makes no loop. -/
theorem bind (hh : h.LoopFree height) (i : ScopeId) (name : String) {v : Value}
    (hv : v.LoopFree height) : (h.bind i name v).LoopFree height := by
  intro j other w hw hother
  obtain rfl | hw := mem_bindings_bind hw
  · exact hv
  · exact hh j other w hw hother

/-- A new scope makes no loop. -/
theorem newChild (hh : h.LoopFree height) (i : ScopeId) : (h.newChild i).1.LoopFree height := by
  intro j other w hw
  rw [bindings_newChild] at hw
  exact hh j other w hw

/-- Clearing a scope makes no loop. -/
theorem clear (hh : h.LoopFree height) (i : ScopeId) : (h.clear i).LoopFree height := by
  intro j other w hw
  by_cases hj : j = i
  · rw [hj, bindings_clear_self] at hw
    cases hw
  · rw [bindings_clear_of_ne hj] at hw
    exact hh j other w hw

/-- Binding parameters to arguments without loops makes no loop. -/
theorem bindParameters (frame : ScopeId) (params : List String) {args : List Value}
    (hargs : ∀ v ∈ args, v.LoopFree height) (hh : h.LoopFree height) :
    (ScopeScript.bindParameters frame params args h).LoopFree height := by
  induction params generalizing args h with
  | nil => exact hh
  | cons p ps ih =>
    cases args with
    | nil => exact ih hargs (hh.bind frame p (by rintro f ⟨⟩))
    | cons v args =>
      obtain ⟨hv, hargs⟩ := List.forall_mem_cons.mp hargs
      exact ih hargs (hh.bind frame p hv)

/-- Every other name means a value without loops. -/
theorem lookup? (hh : h.LoopFree height) {name : String} (hname : name ≠ loopName) (i : ScopeId)
    {v : Value} (hv : h.lookup? i name = some v) : v.LoopFree height := by
  rw [lookup?_eq_findSome?] at hv
  obtain ⟨j, -, hget⟩ := List.exists_of_findSome?_eq_some hv
  exact hh j name v (Scope.mem_of_get? hget) hname

end Heap.LoopFree

variable [SearchContext]

/-- A state without loops in the midst of a number of calls. -/
structure Machine.LoopFree (height depth : Nat) (m : Machine) : Prop where
  depth_eq : m.depth = depth
  heap : m.heap.LoopFree height

/-! ## Evaluations that end -/

variable {α β : Type} {height depth : Nat}

/-- An outcome with a value that satisfies `V`, or with an error, in a state without loops. -/
inductive Ends (height depth : Nat) (V : α → Prop) : Outcome α → Prop
  | done {a m} : V a → m.LoopFree height depth → Ends height depth V (.done a m)
  | failed {e m} : m.LoopFree height depth → Ends height depth V (.failed e m)

/-- A computation ends on every state without loops. -/
def Terminates (height depth : Nat) (V : α → Prop) (x : Eval α) : Prop :=
  ∀ m, m.LoopFree height depth → Ends height depth V (x m)

namespace Terminates

/-- A computation that ends does so with less said of its values. -/
theorem mono {V V' : α → Prop} (hV : ∀ a, V a → V' a) {x : Eval α}
    (hx : Terminates height depth V x) : Terminates height depth V' x := by
  intro m hm
  have hxm := hx m hm
  generalize x m = o at hxm ⊢
  cases hxm with
  | done ha hm' => exact .done (hV _ ha) hm'
  | failed hm' => exact .failed hm'

/-- Giving a value ends. -/
theorem pure {V : α → Prop} {a : α} (ha : V a) : Terminates height depth V (Pure.pure a) :=
  fun _ hm => .done ha hm

/-- A result that is there ends. -/
theorem lift {V : α → Prop} {x : Except RuntimeError α} (hx : ∀ a, x = .ok a → V a) :
    Terminates height depth V (Eval.lift x) := by
  intro m hm
  cases x with
  | ok a => exact .done (hx a rfl) hm
  | error e => exact .failed hm

/-- Computations that end, one after the other, end. -/
theorem bind {V : α → Prop} {V' : β → Prop} {x : Eval α} {f : α → Eval β}
    (hx : Terminates height depth V x) (hf : ∀ a, V a → Terminates height depth V' (f a)) :
    Terminates height depth V' (x >>= f) := by
  intro m hm
  change Ends height depth V' (Eval.bind x f m)
  rw [Eval.bind]
  have hxm := hx m hm
  generalize x m = o at hxm
  cases hxm with
  | done ha hm' => exact hf _ ha _ hm'
  | failed hm' => exact .failed hm'

/-- Writing a line ends. -/
theorem writeLine (text : String) :
    Terminates height depth (fun _ => True) (Eval.writeLine text) := by
  intro m hm
  simp only [Eval.writeLine]
  split
  · exact .done trivial ⟨hm.depth_eq, hm.heap⟩
  · exact .failed ⟨hm.depth_eq, hm.heap⟩

end Terminates

/-- Evaluations that end, each of which corresponds to itself. -/
def terminating (height depth : Nat) : Coupling where
  World := Unit
  Later _ _ := True
  isPreorder := isPreorder_unit
  closure _ f f' := f = f' ∧ f.LoopFree height
  span _ _ := True
  Coupled V w x _ := Terminates height depth (fun a => ∃ b, V w a b) x
  closure_name hf := congrArg Closure.name hf.1
  closure_later _ hf := hf
  pure hab := .pure ⟨_, hab⟩
  fail _ := fun _ hm => .failed hm
  bind hxy hfg := hxy.bind fun a ⟨b, hab⟩ => hfg () trivial a b hab
  writeLine _ text := (Terminates.writeLine text).mono fun _ _ => ⟨(), trivial⟩

/-- Values that correspond in evaluations that end are equal. -/
theorem eq_of_terminating {v v' : Value} (hv : (terminating height depth).value () v v') : v = v' :=
  (hv.mono fun _ _ hf => hf.1).eq

/-- A value corresponds to itself exactly if it is free of loops. -/
theorem terminating_self_iff {v : Value} :
    (terminating height depth).value () v v ↔ v.LoopFree height := by
  refine (Value.lift_self_iff v).trans ⟨fun h f hf => (h f hf).2, fun h f hf => ⟨rfl, h f hf⟩⟩

/-- A value corresponds to some value exactly if it is free of loops. -/
theorem exists_terminating_iff {v : Value} :
    (∃ v', (terminating height depth).value () v v') ↔ v.LoopFree height := by
  refine ⟨fun ⟨v', hv⟩ => ?_, fun hv => ⟨v, terminating_self_iff.mpr hv⟩⟩
  obtain rfl := eq_of_terminating hv
  exact terminating_self_iff.mp hv

/-- Corresponding is ending, as the second computation plays no part. -/
theorem coupled_iff_terminates {x y : Eval Value} :
    (terminating height depth).Coupled (terminating height depth).value () x y ↔
      Terminates height depth (Value.LoopFree height) x :=
  ⟨fun h => h.mono fun _ => exists_terminating_iff.mp,
    fun h => h.mono fun _ => exists_terminating_iff.mpr⟩

/-- A sequence of expressions that end does so. -/
theorem evalSequence_terminates {ev : Evaluator} (env : ScopeId) {es : List Expr}
    (hes : ∀ e ∈ es, Terminates height depth (Value.LoopFree height) (ev e env)) :
    Terminates height depth (Value.LoopFree height) (evalSequence ev env .undefined es) := by
  have hexprs : (terminating height depth).Exprs () ev ev env env es es :=
    List.forall₂_same.mpr fun e he _ _ => coupled_iff_terminates.mpr (hes e he)
  have hsequence := (terminating height depth).evalSequence_coupled hexprs .undefined
  exact coupled_iff_terminates.mp hsequence

/-- A call ends that is refused or whose body ends one call deeper. -/
theorem callFunction_terminates (rules : Rules) {ev : Evaluator} {f : Closure}
    (hbody : depth < rules.maxDepth → ∀ e ∈ f.body, ∀ env,
      Terminates height (depth + 1) (Value.LoopFree height) (ev e env))
    {args : List Value} (hargs : ∀ v ∈ args, v.LoopFree height) (span : Span) :
    Terminates height depth (Value.LoopFree height) (callFunction rules ev f args span) := by
  intro m hm
  rw [callFunction]
  split
  · exact .failed hm
  · next hdeep =>
    have hlt : depth < rules.maxDepth := hm.depth_eq ▸ Nat.lt_of_not_le hdeep
    have henter : (m.enter f args).1.LoopFree height (depth + 1) :=
      ⟨congrArg (· + 1) hm.depth_eq, (hm.heap.newChild f.scope).bindParameters _ _ hargs⟩
    have hleave : ∀ {m' : Machine}, m'.LoopFree height (depth + 1) → ∀ frame clear,
        (m'.leave frame clear).LoopFree height depth := by
      intro m' hm' frame clear
      refine ⟨congrArg (· - 1) hm'.depth_eq, ?_⟩
      cases clear with
      | false => exact hm'.heap
      | true => exact hm'.heap.clear frame
    have hrun := evalSequence_terminates m.heap.scopes.size (fun e he => hbody hlt e he _) _ henter
    simp only [runBody, Machine.enter_snd]
    generalize evalSequence ev _ _ _ _ = o at hrun
    cases hrun with
    | done hv hm' => exact .done hv (hleave hm' _ _)
    | failed hm' => exact .failed (hleave hm' _ _)

/-- A definition ends, and the function is free of loops if its name and its body are. -/
theorem defineFunction_terminates (env : ScopeId) {name : String} (hname : name ≠ loopName)
    (params : List Expr) {body : List Expr}
    (hbody : ∀ e ∈ body, loopName ∉ e.names ∧ e.height ≤ height) :
    Terminates height depth (Value.LoopFree height) (defineFunction env name params body) := by
  have hnew : Terminates height depth (fun _ => True) (Eval.newChild env) :=
    fun m hm => .done trivial ⟨hm.depth_eq, hm.heap.newChild env⟩
  refine (Terminates.lift fun _ _ => trivial).bind fun params _ => hnew.bind fun scope _ => ?_
  have hvalue : (Value.function ⟨name, params, body, scope⟩).LoopFree height := by
    intro f hf
    obtain rfl := List.mem_singleton.mp hf
    exact ⟨hname, hbody⟩
  have hbind : Terminates height depth (fun _ => True) (Eval.bindName env name _) :=
    fun m hm => .done trivial ⟨hm.depth_eq, hm.heap.bind env name hvalue⟩
  exact hbind.bind fun _ _ => .pure hvalue

/-- One step ends for an expression that does not name the loop form, if its parts and the calls of
functions end. -/
theorem evalStep_terminates {ev : Evaluator} {call : Caller} {e : Expr} {env : ScopeId}
    (hname : loopName ∉ e.names) (hheight : e.height ≤ height)
    (hparts : ∀ c ∈ e.children, Terminates height depth (Value.LoopFree height) (ev c env))
    (hcall : ∀ f vs span, f.LoopFree height → (∀ v ∈ vs, v.LoopFree height) →
      Terminates height depth (Value.LoopFree height) (call f vs span)) (rounds : Nat) :
    Terminates height depth (Value.LoopFree height) (evalStep call ev rounds e env) := by
  refine (coupled_iff_terminates (y := evalStep call ev rounds e env)).mp ?_
  refine (terminating height depth).evalStep_coupled
    (.self (fun _ => trivial) fun c hc _ _ => coupled_iff_terminates.mpr (hparts c hc))
    ?_ ?_ ?_ ?_ ?_
  · rintro name s rfl m hm
    have hne : name ≠ loopName := fun h => hname (h ▸ List.mem_singleton_self name)
    refine .done ⟨m.heap.lookup? env name, ?_⟩ hm
    cases hv : m.heap.lookup? env name with
    | none => exact .none
    | some v => exact .some (terminating_self_iff.mpr (hm.heap.lookup? hne env hv))
  · intro _ name v v' _ hv m hm
    exact .done ⟨(), trivial⟩
      ⟨hm.depth_eq, hm.heap.bind env name (exists_terminating_iff.mp ⟨v', hv⟩)⟩
  · rintro name ps ps' body body' s name' s' rfl -
    have hne : name.text ≠ loopName := fun h => hname (h ▸ List.mem_cons_self)
    refine coupled_iff_terminates.mpr (defineFunction_terminates env hne ps fun c hc => ?_)
    have hchild : c ∈ (definition name ps body s).children := List.mem_append_right _ hc
    exact ⟨fun h => hname (names_subset_of_mem_children hchild h),
      ((height_lt_of_mem_children hchild).trans_le hheight).le⟩
  · -- neither the definition nor a function that is called has the name of the loop form
    intro name hform hrun
    obtain rfl := eq_loopName_of_ofName? hform
    obtain ⟨n, ps, body, s, rfl, hn⟩ | ⟨_, f, f', -, hf, hfname⟩ := hrun
    · exact absurd (hn ▸ List.mem_cons_self) hname
    · exact absurd hfname hf.2.name
  · intro _ f f' vs vs' s s' _ hf _ hvs _
    have heq : vs = vs' := Value.eq_of_forall₂_lift
      (hvs.imp fun _ _ hv => hv.mono fun _ _ hf => hf.1)
    subst heq
    have hargs : ∀ v ∈ vs, v.LoopFree height := fun v hv =>
      terminating_self_iff.mp (List.forall₂_same.mp hvs v hv)
    exact coupled_iff_terminates.mpr (hcall f vs s hf.2 hargs)

/-- **Evaluation ends** for an expression that does not name the loop form, in a state without
loops. Steps suffice for as many bodies behind one another as calls are left, and for the
expression. -/
theorem eval_terminates (rules : Rules) {steps : Nat} {e : Expr} (hname : loopName ∉ e.names)
    (hheight : e.height ≤ height) (hsteps : (rules.maxDepth - depth) * height + e.height ≤ steps)
    (env : ScopeId) : Terminates height depth (Value.LoopFree height) (eval rules steps e env) := by
  rw [eval]
  induction steps generalizing depth e env with
  | zero =>
    have hpos := e.height_pos
    omega
  | succ steps ih =>
    have hpos := e.height_pos
    refine evalStep_terminates hname hheight (fun c hc => ?_) (fun f vs span hf hvs => ?_) steps
    · have hlt := height_lt_of_mem_children hc
      have hnames : loopName ∉ c.names := fun h => hname (names_subset_of_mem_children hc h)
      exact ih hnames (by omega) (by omega) env
    · refine callFunction_terminates rules (fun hdeep c hc env => ?_) hvs span
      obtain ⟨hnames, hbody⟩ := hf.body c hc
      have hcalls : (rules.maxDepth - (depth + 1)) * height + height =
          (rules.maxDepth - depth) * height := by
        rw [← Nat.succ_mul]
        congr 1
        omega
      exact ih hnames hbody (by omega) env

end ScopeScript
