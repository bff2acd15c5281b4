import Mathlib.Data.Nat.Basic
import Mathlib.Order.Basic
import ScopeScript.Pattern.Library
import ScopeScript.Proofs.Eval.Effect
import ScopeScript.Proofs.Scope.Heap

/-!
# What an evaluation writes

An evaluation in a scope binds names in that scope and in scopes that it makes itself. The
names that it may bind in its own scope can be read off the expression: they are the targets of
assignments and the names of definitions that stand in it outside the definitions of functions.
A call of a function binds nothing in any scope that there was before, whether it returns or
fails, because its frame is new.
-/

namespace ScopeScript

namespace Expr

mutual

/-- The names that evaluating an expression may bind in its own scope. The block and the
parameters of a special form are evaluated there too; those of a function are not. -/
def written : Expr → List String
  | number _ _ => []
  | string _ _ => []
  | symbol _ _ => []
  | operation _ left right _ => left.written ++ right.written
  | call callee args _ => callee.written ++ writtenAll args
  | definition name params body _ =>
    match Builtin.ofName? name.text with
    | some (.special _) => writtenAll params ++ writtenAll body
    | _ => [name.text]
  | assignment target value _ => target.text :: value.written

/-- The names that evaluating several expressions may bind in their own scope. -/
def writtenAll : List Expr → List String
  | [] => []
  | e :: rest => e.written ++ writtenAll rest

end

/-- What an expression writes is written by every list that has it. -/
theorem written_subset_writtenAll {e : Expr} {es : List Expr} (he : e ∈ es) :
    e.written ⊆ writtenAll es := by
  induction he with
  | head rest => exact List.subset_append_left _ _
  | tail e' _ ih => exact List.subset_append_of_subset_right _ ih

end Expr

namespace Heap

/-- Every scope of `h` is in `h'` as it was. -/
structure Untouched (h h' : Heap) : Prop where
  size_le : h.scopes.size ≤ h'.scopes.size
  parent? : ∀ i < h.scopes.size, h'.parent? i = h.parent? i
  bindings : ∀ i < h.scopes.size, h'.bindings i = h.bindings i

/-- Every scope of `h` but `env` is in `h'` as it was, and `env` has at most the names in
`names` bound anew. -/
structure Footprint (env : ScopeId) (names : String → Prop) (h h' : Heap) : Prop where
  size_le : h.scopes.size ≤ h'.scopes.size
  parent? : ∀ i < h.scopes.size, h'.parent? i = h.parent? i
  bindings : ∀ i < h.scopes.size, i ≠ env → h'.bindings i = h.bindings i
  /-- No name loses its binding. -/
  bound : ∀ name, (Scope.get? name (h.bindings env)).isSome →
    (Scope.get? name (h'.bindings env)).isSome
  /-- No other name gets or changes its binding. -/
  unwritten : ∀ name, ¬ names name →
    Scope.get? name (h'.bindings env) = Scope.get? name (h.bindings env)

variable {env : ScopeId} {names : String → Prop} {h h' h'' : Heap}

/-- A heap that stays the same is untouched. -/
theorem Untouched.refl (h : Heap) : Untouched h h :=
  ⟨le_refl _, fun _ _ => rfl, fun _ _ => rfl⟩

/-- What touches nothing has every footprint. -/
theorem Untouched.footprint (hu : Untouched h h') (henv : env < h.scopes.size) :
    Footprint env names h h' where
  size_le := hu.size_le
  parent? := hu.parent?
  bindings i hi _ := hu.bindings i hi
  bound name hname := by rwa [hu.bindings env henv]
  unwritten name _ := by rw [hu.bindings env henv]

/-- What is written to a scope that `h` does not have leaves `h` untouched. -/
theorem Untouched.trans_footprint (hu : Untouched h h') (hf : Footprint env names h' h'')
    (henv : h.scopes.size ≤ env) : Untouched h h'' where
  size_le := hu.size_le.trans hf.size_le
  parent? i hi := (hf.parent? i (hi.trans_le hu.size_le)).trans (hu.parent? i hi)
  bindings i hi :=
    (hf.bindings i (hi.trans_le hu.size_le) (hi.trans_le henv).ne).trans (hu.bindings i hi)

/-- A heap that stays the same has every footprint. -/
theorem Footprint.refl (h : Heap) : Footprint env names h h :=
  ⟨le_refl _, fun _ _ => rfl, fun _ _ _ => rfl, fun _ => id, fun _ _ => rfl⟩

/-- Two footprints one after the other are one. -/
theorem Footprint.trans (h₁ : Footprint env names h h') (h₂ : Footprint env names h' h'') :
    Footprint env names h h'' where
  size_le := h₁.size_le.trans h₂.size_le
  parent? i hi := (h₂.parent? i (hi.trans_le h₁.size_le)).trans (h₁.parent? i hi)
  bindings i hi hne := (h₂.bindings i (hi.trans_le h₁.size_le) hne).trans (h₁.bindings i hi hne)
  bound name hname := h₂.bound name (h₁.bound name hname)
  unwritten name hname := (h₂.unwritten name hname).trans (h₁.unwritten name hname)

/-- Binding a name in a scope. -/
theorem footprint_bind (henv : env < h.scopes.size) {name : String} (hname : names name)
    (v : Value) : Footprint env names h (h.bind env name v) where
  size_le := by simp
  parent? i _ := by simp
  bindings i _ hi := bindings_bind_of_ne hi name v
  bound other hother := by
    rw [bindings_bind_self henv, Scope.get?_set]
    split
    · rfl
    · exact hother
  unwritten other hother := by
    have hne : other ≠ name := fun h => hother (h ▸ hname)
    rw [bindings_bind_self henv, Scope.get?_set, if_neg hne]

/-- A new scope touches none of the others. -/
theorem untouched_newChild (h : Heap) (p : ScopeId) : Untouched h (h.newChild p).1 where
  size_le := by simp
  parent? i hi := parent?_newChild_of_ne hi.ne
  bindings i _ := by simp

/-- Clearing a new scope touches none of the others. -/
theorem Untouched.clear (hu : Untouched h h') (henv : h.scopes.size ≤ env) :
    Untouched h (h'.clear env) where
  size_le := by simpa using hu.size_le
  parent? i hi := by simpa using hu.parent? i hi
  bindings i hi := by
    rw [bindings_clear_of_ne (hi.trans_le henv).ne, hu.bindings i hi]

/-- Binding in a new scope touches none of the others. -/
theorem Untouched.bind (hu : Untouched h h') (henv : h.scopes.size ≤ env) (name : String)
    (v : Value) : Untouched h (h'.bind env name v) where
  size_le := by simpa using hu.size_le
  parent? i hi := by simpa using hu.parent? i hi
  bindings i hi := by
    rw [bindings_bind_of_ne (hi.trans_le henv).ne, hu.bindings i hi]

/-- Binding parameters in a new scope touches none of the others. -/
theorem Untouched.bindParameters (hu : Untouched h h') (henv : h.scopes.size ≤ env)
    (params : List String) (args : List Value) :
    Untouched h (bindParameters env params args h') := by
  induction params generalizing args h' with
  | nil => exact hu
  | cons p ps ih =>
    cases args with
    | nil => exact ih (hu.bind henv p .undefined) []
    | cons a args => exact ih (hu.bind henv p a) args

end Heap

section

variable [SearchContext]

/-! ## Single effects -/

open Eval

/-- The state keeps its scopes but for what is written to `env` under some names. -/
def WritesOnly (env : ScopeId) (names : String → Prop) (m m' : Machine) : Prop :=
  env < m.heap.scopes.size → m.heap.Footprint env names m'.heap

instance (env : ScopeId) (names : String → Prop) : IsPreorder Machine (WritesOnly env names) where
  refl m _ := .refl m.heap
  trans _ _ _ h₁ h₂ henv := (h₁ henv).trans (h₂ (henv.trans_le (h₁ henv).size_le))

/-- The state keeps its scopes. -/
def WritesNothing (m m' : Machine) : Prop := m.heap.Untouched m'.heap

variable {env : ScopeId} {names : String → Prop}

/-- Binding a name writes that name. -/
theorem bindName_writes {name : String} (hname : names name) (v : Value) :
    Keeps (WritesOnly env names) (bindName env name v) := by
  intro m m' h henv
  cases h
  exact Heap.footprint_bind henv hname v

/-- Making a scope writes no name. -/
theorem newChild_writes (p : ScopeId) : Keeps (WritesOnly env names) (newChild p) := by
  intro m m' h henv
  cases h
  exact (Heap.untouched_newChild m.heap p).footprint henv

/-- Writing a line writes no name. -/
theorem writeLine_writes (text : String) : Keeps (WritesOnly env names) (writeLine text) := by
  intro m m' h _
  rw [heap_of_writeLine h]
  exact .refl m.heap

/-! ## Calls -/

/-- The frame of a call is new. -/
theorem Machine.untouched_enter (m : Machine) (f : Closure) (args : List Value) :
    m.heap.Untouched (m.enter f args).1.heap :=
  (Heap.untouched_newChild m.heap f.scope).bindParameters (Heap.newChild_snd _ _).ge f.params args

/-- The frame of a call is the next scope. -/
@[simp] theorem Machine.enter_snd (m : Machine) (f : Closure) (args : List Value) :
    (m.enter f args).2 = m.heap.scopes.size := Heap.newChild_snd _ _

omit [SearchContext] in
/-- Binding parameters makes no scope. -/
theorem size_bindParameters (frame : ScopeId) (params : List String) (args : List Value)
    (h : Heap) : (bindParameters frame params args h).scopes.size = h.scopes.size := by
  induction params generalizing args h with
  | nil => rfl
  | cons p ps ih => cases args <;> simp [bindParameters, ih]

/-- Entering a call makes one scope. -/
theorem Machine.size_enter (m : Machine) (f : Closure) (args : List Value) :
    (m.enter f args).1.heap.scopes.size = m.heap.scopes.size + 1 := by
  simp [enter, size_bindParameters]

/-- The frame of a call is there once the call is entered. -/
theorem Machine.frame_lt_size_enter (m : Machine) (f : Closure) (args : List Value) :
    m.heap.scopes.size < (m.enter f args).1.heap.scopes.size :=
  (m.size_enter f args).symm ▸ Nat.lt_succ_self _

/-- What a call that ends leaves behind: nothing changes if it is too deep, and otherwise the frame
is left after its body has been evaluated, with a value or with an error. -/
theorem callFunction_cases {rules : Rules} {ev : Evaluator} {f : Closure} {args : List Value}
    {span : Span} {m m' : Machine}
    (h : (callFunction rules ev f args span m).machine? = some m') :
    rules.maxDepth ≤ m.depth ∧ m' = m ∨
      m.depth < rules.maxDepth ∧ ∃ m₁ clear,
        (evalSequence ev m.heap.scopes.size .undefined f.body (m.enter f args).1).machine? =
          some m₁ ∧ m' = m₁.leave m.heap.scopes.size clear := by
  rw [callFunction] at h
  split at h
  · next hdeep =>
    cases h
    exact .inl ⟨hdeep, rfl⟩
  · next hdeep =>
    refine .inr ⟨Nat.lt_of_not_le hdeep, ?_⟩
    simp only [runBody, Machine.enter_snd] at h
    cases hrun : evalSequence ev m.heap.scopes.size .undefined f.body (m.enter f args).1 with
    | done v m₁ =>
      rw [hrun] at h
      cases h
      exact ⟨m₁, _, rfl, rfl⟩
    | failed e m₁ =>
      rw [hrun] at h
      cases h
      exact ⟨m₁, _, rfl, rfl⟩
    | unfinished =>
      rw [hrun] at h
      cases h

/-- Leaving a frame touches nothing older than the frame. -/
theorem untouched_leave {h : Heap} {m : Machine} (hm : h.Untouched m.heap) {frame : ScopeId}
    (hframe : h.scopes.size ≤ frame) (clear : Bool) : h.Untouched (m.leave frame clear).heap := by
  cases clear with
  | false => exact hm
  | true => exact hm.clear hframe

section Calls

variable {ev : Evaluator} (hev : ∀ e env, Keeps (WritesOnly env fun _ => True) (ev e env))

include hev

/-- The body of a function binds nothing in the scopes that there were before its frame. -/
theorem untouched_body {m m₁ : Machine} {f : Closure} {args : List Value}
    (hrun : (evalSequence ev m.heap.scopes.size .undefined f.body (m.enter f args).1).machine? =
      some m₁) : m.heap.Untouched m₁.heap := by
  have hbody : Keeps (WritesOnly m.heap.scopes.size fun _ => True)
      (evalSequence ev m.heap.scopes.size .undefined f.body) :=
    evalSequence_keeps (fun e _ => hev e _) .undefined
  have hfootprint := hbody _ m₁ hrun (m.frame_lt_size_enter f args)
  exact (m.untouched_enter f args).trans_footprint hfootprint le_rfl

/-- A call of a function binds nothing in the scopes that there were, however it ends. -/
theorem callFunction_writes (rules : Rules) (f : Closure) (args : List Value) (span : Span) :
    Keeps WritesNothing (callFunction rules ev f args span) := by
  intro m m' h
  obtain ⟨-, rfl⟩ | ⟨-, m₁, clear, hrun, rfl⟩ := callFunction_cases h
  · exact .refl m'.heap
  · exact untouched_leave (untouched_body hev hrun) le_rfl clear

end Calls

/-! ## Expressions -/

section Steps

variable {P : Machine → Machine → Prop} [IsPreorder Machine P] {call : Caller} {ev : Evaluator}
variable (hbind : ∀ name, names name → ∀ v, Keeps P (bindName env name v))
variable (hnew : Keeps P (newChild env))

include hbind hnew

/-- A definition keeps what making a scope and binding its name keep. -/
theorem defineFunction_keeps {name : String} (hname : names name) (params body : List Expr) :
    Keeps P (defineFunction env name params body) :=
  Keeps.bind (Keeps.lift _) fun _ => Keeps.bind hnew fun _ =>
    Keeps.bind (hbind name hname _) fun _ => Keeps.pure _

/-- One step has no effects but the binding of names of the expression, new scopes, printing,
calls, and those of nested evaluations. -/
theorem evalStep_keeps (hwrite : ∀ text, Keeps P (writeLine text))
    (hcall : ∀ f args span, Keeps P (call f args span))
    (hev : ∀ e, (∀ n ∈ e.written, names n) → Keeps P (ev e env))
    (rounds : Nat) (e : Expr) (he : ∀ n ∈ e.written, names n) :
    Keeps P (evalStep call ev rounds e env) := by
  have hall : ∀ es, (∀ n ∈ Expr.writtenAll es, names n) → ∀ e ∈ es, Keeps P (ev e env) :=
    fun es hes e hmem => hev e fun n hn => hes n (Expr.written_subset_writtenAll hmem hn)
  cases e with
  | number text span => exact Keeps.pure _
  | string text span => exact Keeps.pure _
  | symbol name span =>
    refine Keeps.bind (Keeps.lookup? env name) fun v? => ?_
    cases v? with
    | some v => exact Keeps.pure v
    | none => exact Keeps.fail _
  | operation op left right span =>
    simp only [Expr.written, List.forall_mem_append] at he
    exact Keeps.bind (hev left he.1) fun _ => Keeps.bind (hev right he.2) fun _ => Keeps.lift _
  | assignment target value span =>
    simp only [Expr.written, List.forall_mem_cons] at he
    exact Keeps.bind (hev value he.2) fun v => Keeps.bind (hbind _ he.1 v) fun _ => Keeps.pure v
  | definition name params body span =>
    simp only [Expr.written] at he
    rw [evalStep, evalDefinition]
    split
    · next form hform =>
      simp only [hform, List.forall_mem_append] at he
      exact evalSpecial_keeps (hall params he.1) (hall body he.2) rounds form
    · next hform =>
      have hname : names name.text := by
        split at he
        · next form hspecial => exact absurd hspecial (hform form)
        · simpa using he
      exact defineFunction_keeps hbind hnew hname params body
  | call callee args span =>
    simp only [Expr.written, List.forall_mem_append] at he
    exact evalCall_keeps hwrite (hev callee he.1) (hall args he.2) hcall rounds span

end Steps

/-- What holds of the evaluation by the rules holds of every way to call functions that
writes nothing to the scopes that there are. -/
theorem evalWith_writes {call : Evaluator → Caller}
    (hcall : ∀ ev, (∀ e env, Keeps (WritesOnly env fun _ => True) (ev e env)) →
      ∀ f args span, Keeps WritesNothing (call ev f args span))
    (steps : Nat) (e : Expr) (env : ScopeId) (names : String → Prop)
    (he : ∀ n ∈ e.written, names n) :
    Keeps (WritesOnly env names) (evalWith call steps e env) := by
  induction steps generalizing e env names with
  | zero => exact Keeps.stop
  | succ steps ih =>
    have hstep := hcall (evalWith call steps) fun e env => ih e env _ fun _ _ => trivial
    refine evalStep_keeps (fun _ => bindName_writes) (newChild_writes env) writeLine_writes ?_
      (fun e he => ih e env names he) steps e he
    exact fun f vs span m m' h henv => (hstep f vs span m m' h).footprint henv

/-- **Footprint of evaluation.** An evaluation that ends, with a value or with an error, leaves
every other scope and all parents as they were, takes no binding away, and binds in its own
scope no names but those written by the expression. A call of a function leaves every scope as
it was. -/
theorem evaluation_footprint (rules : Rules) (steps : Nat) :
    (∀ e env m m', env < m.heap.scopes.size →
      (eval rules steps e env m).machine? = some m' →
      m.heap.Footprint env (· ∈ e.written) m'.heap) ∧
    ∀ f args span m m', (callFunction rules (eval rules steps) f args span m).machine? = some m' →
      m.heap.Untouched m'.heap := by
  have heval : ∀ e env names, (∀ n ∈ e.written, names n) →
      Keeps (WritesOnly env names) (eval rules steps e env) :=
    evalWith_writes (fun _ hev => callFunction_writes hev rules) steps
  refine ⟨fun e env m m' henv h => heval e env _ (fun _ => id) m m' h henv, ?_⟩
  exact callFunction_writes (fun e env => heval e env _ fun _ _ => trivial) rules

end

/-- A function called where it is defined. Its body binds a name of its own and then fails. -/
def failingCall : Expr :=
  .call (.definition ⟨"f", .none⟩ [.symbol "y" .none]
      [.assignment ⟨"x", .none⟩ (.symbol "y" .none) .none, .symbol "z" .none] .none)
    [.string "a" .none] .none

/-- A state with one scope, which is empty. -/
def Machine.oneScope [SearchContext] : Machine := ⟨Heap.empty.newRoot.1, .unbounded, 0, .none⟩

/-- The failing call leaves nothing in its scope but the name of the function. -/
theorem evaluation_footprint_failingCall :
    failingCall.written = ["f"] ∧ 0 < Machine.oneScope.heap.scopes.size ∧
      ∃ m', (eval ⟨1, true⟩ 4 failingCall 0 .oneScope).machine? = some m' ∧
        Machine.oneScope.heap.Footprint 0 (· ∈ failingCall.written) m'.heap := by
  have hroot : 0 < Machine.oneScope.heap.scopes.size := by decide
  have hends : (eval ⟨1, true⟩ 4 failingCall 0 .oneScope).machine?.isSome := by decide +kernel
  obtain ⟨m', hm'⟩ := Option.isSome_iff_exists.mp hends
  exact ⟨by decide +kernel, hroot, m', hm',
    (evaluation_footprint ⟨1, true⟩ 4).1 failingCall 0 .oneScope m' hroot hm'⟩

end ScopeScript
