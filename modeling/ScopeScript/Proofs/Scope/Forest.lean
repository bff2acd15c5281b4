import ScopeScript.Pattern.Library
import ScopeScript.Proofs.Eval.Footprint
import ScopeScript.Proofs.Scope.Reach

/-!
# The forest of scopes

Functions bound in a scope may lead back into it, so scopes refer to one another in circles. Their
parents never do: a parent is chosen when a scope is made, is older than the scope, and stays what
it is, whatever is bound, copied, cleared or evaluated later. So from every scope a finite chain
leads to a root, and everything that is asked of a scope can be read off this chain.

That a scope lies in another one means that the chain of the other is the end of its own. This
makes it an order, in which the scopes around one scope are ordered one behind the other. Binding a
name changes what the name means in the scopes that lie in the bound one, up to the first scope on
the way that binds the name itself, and nothing else.
-/

namespace ScopeScript

namespace Heap

/-- The scopes from a scope to its root, each followed by its parent. -/
inductive ToRoot (h : Heap) : ScopeId → List ScopeId → Prop
  | root {i : ScopeId} : i < h.scopes.size → h.parent? i = none → ToRoot h i [i]
  | child {i p : ScopeId} {rest : List ScopeId} : h.parent? i = some p → ToRoot h p rest →
    ToRoot h i (i :: rest)

/-- What a name is bound to in `outer` is what it means in `i`: this lies in `outer`, and no scope
on the way, `i` included, binds the name. -/
def Sees (h : Heap) (i outer : ScopeId) (name : String) : Prop :=
  h.isWithin i outer = true ∧ ∀ j ≠ outer, h.isWithin i j = true → h.isWithin j outer = true →
    Scope.get? name (h.bindings j) = none

/-- What is asked of scopes is settled by finite chains of parents, along which scopes are ordered,
and a binding is seen where nothing hides it. -/
structure Forest (h : Heap) : Prop where
  /-- A parent is older than its child. -/
  older : ∀ i p, h.parent? i = some p → p < i ∧ i < h.scopes.size
  /-- There is one way to a root. It is as long as the scope is deep, the scopes on it are those
  that the scope lies in, and a name means what the first of them binds it to that binds it. -/
  toRoot : ∀ i < h.scopes.size, ∃ chain, ToRoot h i chain ∧ (∀ l, ToRoot h i l → l = chain) ∧
    h.depth i = chain.length ∧ (∀ outer, h.isWithin i outer = true ↔ outer ∈ chain) ∧
    ∀ name, h.lookup? i name = chain.findSome? fun j => Scope.get? name (h.bindings j)
  refl : ∀ i < h.scopes.size, h.isWithin i i = true
  trans : ∀ i j k, h.isWithin i j = true → h.isWithin j k = true → h.isWithin i k = true
  antisymm : ∀ i j, h.isWithin i j = true → h.isWithin j i = true → i = j
  comparable : ∀ i j k, h.isWithin i j = true → h.isWithin i k = true →
    h.isWithin j k = true ∨ h.isWithin k j = true
  /-- A name is bound for the scopes that see it, and for no others and no other name. -/
  lookup?_bind : ∀ (e : ScopeId) (name : String) (v : Value) (i : ScopeId) (other : String),
    (other = name ∧ h.Sees i e name → (h.bind e name v).lookup? i other = some v) ∧
    (¬ (other = name ∧ h.Sees i e name) → (h.bind e name v).lookup? i other = h.lookup? i other)

variable {h : Heap} {i j k : ScopeId}

/-! ## Chains -/

/-- The only way from a scope to a root is its chain. -/
theorem toRoot_iff {l : List ScopeId} : ToRoot h i l ↔ i < h.scopes.size ∧ l = h.chain i := by
  constructor
  · intro hl
    induction hl with
    | root hi hp => exact ⟨hi, by simp [chain_of_lt hi, hp]⟩
    | @child i p rest hp _ ih =>
      have hi : i < h.scopes.size := by
        by_contra hle
        simp [parent?_of_le (Nat.not_lt.mp hle)] at hp
      exact ⟨hi, by simp [chain_of_lt hi, hp, ih.2]⟩
  · rintro ⟨hi, rfl⟩
    induction i using Nat.strong_induction_on with
    | _ i ih =>
      rw [chain_of_lt hi]
      cases hp : h.parent? i with
      | none => exact .root hi hp
      | some p => exact .child hp (ih p (lt_of_parent? hp) (lt_size_of_parent? hp))

/-- A scope lies in those whose chains its own chain ends with. -/
theorem isWithin_iff_suffix :
    h.isWithin i j = true ↔ j < h.scopes.size ∧ h.chain j <:+ h.chain i := by
  rw [isWithin_iff_mem_chain]
  induction i using Nat.strong_induction_on with
  | _ i ih =>
    refine ⟨fun hmem => ?_, fun ⟨hj, hsuffix⟩ => hsuffix.subset (by simp [chain_of_lt hj])⟩
    by_cases hi : i < h.scopes.size
    · rw [chain_of_lt hi] at hmem
      obtain rfl | hmem := List.mem_cons.mp hmem
      · exact ⟨hi, List.suffix_refl _⟩
      · rw [chain_of_lt hi]
        cases hp : h.parent? i with
        | none => simp [hp] at hmem
        | some p =>
          rw [hp] at hmem
          obtain ⟨hj, hsuffix⟩ := (ih p (lt_of_parent? hp)).mp hmem
          exact ⟨hj, hsuffix.trans (List.suffix_cons _ _)⟩
    · simp [chain_of_le (Nat.not_lt.mp hi)] at hmem

/-- A scope lies in itself. -/
theorem isWithin_refl (hi : i < h.scopes.size) : h.isWithin i i = true :=
  isWithin_iff_suffix.mpr ⟨hi, List.suffix_refl _⟩

/-- A scope lies in what lies around it at any remove. -/
theorem isWithin_trans (hij : h.isWithin i j = true) (hjk : h.isWithin j k = true) :
    h.isWithin i k = true := by
  rw [isWithin_iff_suffix] at *
  exact ⟨hjk.1, hjk.2.trans hij.2⟩

/-- No two scopes lie in each other. -/
theorem isWithin_antisymm (hij : h.isWithin i j = true) (hji : h.isWithin j i = true) :
    i = j := by
  rw [isWithin_iff_suffix] at *
  have hchain : h.chain i = h.chain j := hji.2.eq_of_length_le hij.2.length_le
  rw [chain_of_lt hji.1, chain_of_lt hij.1] at hchain
  exact (List.cons.inj hchain).1

/-- Of two scopes around one scope, one lies in the other. -/
theorem isWithin_comparable (hij : h.isWithin i j = true) (hik : h.isWithin i k = true) :
    h.isWithin j k = true ∨ h.isWithin k j = true := by
  simp only [isWithin_iff_suffix] at *
  exact (List.suffix_or_suffix_of_suffix hij.2 hik.2).symm.imp (⟨hik.1, ·⟩) (⟨hij.1, ·⟩)

/-! ## Binding a name -/

/-- A scope lies in itself and in what its parent lies in. -/
theorem isWithin_iff_parent? (hi : i < h.scopes.size) :
    h.isWithin i j = true ↔ i = j ∨ ∃ p, h.parent? i = some p ∧ h.isWithin p j = true := by
  rw [isWithin_eq hi, Bool.or_eq_true, decide_eq_true_eq]
  cases h.parent? i <;> simp

/-- A scope sees its own bindings. -/
theorem sees_self (hi : i < h.scopes.size) (name : String) : h.Sees i i name :=
  ⟨isWithin_refl hi, fun _ hne hij hji => absurd (isWithin_antisymm hji hij) hne⟩

/-- A scope sees of the bindings further out what its parent sees and it does not hide. -/
theorem sees_iff_parent? {name : String} (hi : i < h.scopes.size) (hne : i ≠ j) :
    h.Sees i j name ↔ Scope.get? name (h.bindings i) = none ∧
      ∃ p, h.parent? i = some p ∧ h.Sees p j name := by
  constructor
  · rintro ⟨hij, hway⟩
    obtain rfl | ⟨p, hp, hpj⟩ := (isWithin_iff_parent? hi).mp hij
    · exact absurd rfl hne
    · refine ⟨hway i hne (isWithin_refl hi) hij, p, hp, hpj, fun k hk hpk => ?_⟩
      exact hway k hk ((isWithin_iff_parent? hi).mpr (.inr ⟨p, hp, hpk⟩))
  · rintro ⟨hget, p, hp, hpj, hway⟩
    refine ⟨(isWithin_iff_parent? hi).mpr (.inr ⟨p, hp, hpj⟩), fun k hk hik => ?_⟩
    obtain rfl | ⟨q, hq, hqk⟩ := (isWithin_iff_parent? hi).mp hik
    · exact fun _ => hget
    · obtain rfl : p = q := Option.some.inj (hp.symm.trans hq)
      exact hway k hk hqk

/-- Scopes that are not in the heap see nothing. -/
theorem not_sees_of_le {name : String} (hi : h.scopes.size ≤ i) : ¬ h.Sees i j name :=
  fun hsees => by simpa [isWithin_of_le hi] using hsees.1

open Classical in
/-- **What a name means behind a binding**: the new value where the binding is seen, and what it
meant before everywhere else. -/
theorem lookup?_bind (h : Heap) (e : ScopeId) (name : String) (v : Value) (i : ScopeId)
    (other : String) :
    (h.bind e name v).lookup? i other =
      if other = name ∧ h.Sees i e name then some v else h.lookup? i other := by
  induction i using Nat.strong_induction_on with
  | _ i ih =>
    by_cases hi : i < h.scopes.size
    · have hparent : ((h.bind e name v).parent? i).bind ((h.bind e name v).lookup? · other) =
          (h.parent? i).bind fun p =>
            if other = name ∧ h.Sees p e name then some v else h.lookup? p other := by
        rw [parent?_bind]
        cases hp : h.parent? i with
        | none => rfl
        | some p => exact ih p (lt_of_parent? hp)
      rw [lookup?_eq (h.bind e name v), hparent]
      by_cases he : i = e
      · -- Nothing further out lies in the scope itself.
        subst he
        have hunseen : ∀ p, h.parent? i = some p → ¬ h.Sees p i name := fun p hp hsees => by
          have hpi := (isWithin_iff_parent? hi).mpr (.inr ⟨p, hp, isWithin_refl
            (lt_size_of_parent? hp)⟩)
          exact (lt_of_parent? hp).ne (isWithin_antisymm hsees.1 hpi)
        rw [bindings_bind_self hi, Scope.get?_set]
        by_cases hname : other = name
        · simp [hname, sees_self hi]
        · rw [if_neg hname, if_neg fun hc => hname hc.1, lookup?_eq h]
          cases hp : h.parent? i with
          | none => rfl
          | some p => simp [hunseen p hp]
      · rw [bindings_bind_of_ne he, sees_iff_parent? hi he, lookup?_eq h]
        cases hget : Scope.get? other (h.bindings i) with
        | some w =>
          rw [if_neg]
          · rfl
          · rintro ⟨rfl, hnone, -⟩
            cases hget.symm.trans hnone
        | none =>
          cases hp : h.parent? i with
          | none => simp
          | some p =>
            by_cases hsees : other = name ∧ h.Sees p e name
            · obtain ⟨rfl, hsees⟩ := hsees
              simp [hsees, hget]
            · rw [if_neg fun hc => hsees ⟨hc.1, by simpa using hc.2.2⟩]
              simp [hsees]
    · have hle := Nat.not_lt.mp hi
      rw [if_neg fun hc => not_sees_of_le hle hc.2, lookup?, lookup?, findOutward?_of_le _ hle,
        findOutward?_of_le _ (by simpa using hle)]

/-- **Scopes form a forest**, in every heap and whatever was done with it: a heap is built so that
parents are older than their children. -/
theorem forest (h : Heap) : Forest h where
  older i p hp := by
    refine ⟨lt_of_parent? hp, Nat.lt_of_not_le fun hle => ?_⟩
    simp [parent?_of_le hle] at hp
  toRoot i hi := ⟨h.chain i, toRoot_iff.mpr ⟨hi, rfl⟩, fun _ hl => (toRoot_iff.mp hl).2, rfl,
    fun _ => isWithin_iff_mem_chain, h.lookup?_eq_findSome? i⟩
  refl _ := isWithin_refl
  trans _ _ _ := isWithin_trans
  antisymm _ _ := isWithin_antisymm
  comparable _ _ _ := isWithin_comparable
  lookup?_bind e name v i other := by
    rw [lookup?_bind]
    exact ⟨fun hsees => if_pos hsees, fun hsees => if_neg hsees⟩

/-- The scopes of `h` are in `h'` with the parents that they had. -/
structure KeepsParents (h h' : Heap) : Prop where
  size_le : h.scopes.size ≤ h'.scopes.size
  parent?_eq : ∀ i < h.scopes.size, h'.parent? i = h.parent? i

namespace KeepsParents

/-- A heap that stays the same keeps all parents. -/
theorem refl (h : Heap) : KeepsParents h h := ⟨le_rfl, fun _ _ => rfl⟩

/-- Parents that are kept twice are kept. -/
theorem trans {h' h'' : Heap} (h₁ : KeepsParents h h') (h₂ : KeepsParents h' h'') :
    KeepsParents h h'' where
  size_le := h₁.size_le.trans h₂.size_le
  parent?_eq i hi :=
    (h₂.parent?_eq i (hi.trans_le h₁.size_le)).trans (h₁.parent?_eq i hi)

/-- A change of bindings keeps all parents. -/
theorem update (h : Heap) (i : ScopeId) (f : List (String × Value) → List (String × Value)) :
    KeepsParents h (h.update i f) :=
  ⟨by simp, fun _ _ => by simp⟩

/-- A new root keeps all parents. -/
theorem newRoot (h : Heap) : KeepsParents h h.newRoot.1 :=
  ⟨by simp, fun _ hi => parent?_newRoot hi.ne⟩

end KeepsParents

/-- What touches no scope keeps all parents. -/
theorem Untouched.keepsParents {h' : Heap} (hu : Untouched h h') : KeepsParents h h' :=
  ⟨hu.size_le, hu.parent?⟩

end Heap

open Eval

/-! ## Histories -/

section

variable [SearchContext]

/-- Between the two states no scope gets another parent. -/
def KeepsParents (m m' : Machine) : Prop := m.heap.KeepsParents m'.heap

instance : IsPreorder Machine KeepsParents where
  refl m := .refl m.heap
  trans _ _ _ := Heap.KeepsParents.trans

/-- A call keeps all parents if its body does. -/
theorem callFunction_keepsParents (rules : Rules) {ev : Evaluator}
    (hev : ∀ e env, Keeps KeepsParents (ev e env)) (f : Closure) (args : List Value)
    (span : Span) : Keeps KeepsParents (callFunction rules ev f args span) := by
  intro m m' h
  obtain ⟨-, rfl⟩ | ⟨-, m₁, clear, hrun, rfl⟩ := callFunction_cases h
  · exact .refl m'.heap
  · have henter := (m.untouched_enter f args).keepsParents
    have hbody : KeepsParents (m.enter f args).1 m₁ :=
      evalSequence_keeps (fun e _ => hev e _) .undefined _ _ hrun
    have hleave : KeepsParents m₁ (m₁.leave m.heap.scopes.size clear) := by
      cases clear with
      | false => exact .refl m₁.heap
      | true => exact .update m₁.heap m.heap.scopes.size fun _ => []
    exact henter.trans (Heap.KeepsParents.trans hbody hleave)

/-- Evaluation gives no scope another parent. -/
theorem eval_keepsParents (rules : Rules) (steps : Nat) (e : Expr) (env : ScopeId) :
    Keeps KeepsParents (eval rules steps e env) := by
  rw [eval]
  induction steps generalizing e env with
  | zero => exact Keeps.stop
  | succ steps ih =>
    refine evalStep_keeps ?_ ?_ ?_ (callFunction_keepsParents rules ih)
      (fun e _ => ih e env) steps e fun _ _ => (trivial : True)
    · rintro name - v m m' ⟨⟩
      exact .update m.heap env _
    · rintro m m' ⟨⟩
      exact (Heap.untouched_newChild m.heap env).keepsParents
    · intro text m m' h
      rw [KeepsParents, heap_of_writeLine h]
      exact .refl m.heap

/-- What may be done with scopes. -/
inductive ScopeAction where
  | newRoot
  | newChild (parent : ScopeId)
  | bind (scope : ScopeId) (name : String) (value : Value)
  /-- Bind a name in one scope to what a name means in another. -/
  | copy (source : ScopeId) (name : String) (target : ScopeId) (newName : String)
  | clear (scope : ScopeId)
  /-- Evaluate expressions in a scope, in order. -/
  | evaluate (rules : Rules) (steps : Nat) (program : List Expr) (scope : ScopeId)

namespace Machine

/-- The state after an action, if it ends. -/
def perform (m : Machine) : ScopeAction → Option Machine
  | .newRoot => some { m with heap := m.heap.newRoot.1 }
  | .newChild parent => some { m with heap := (m.heap.newChild parent).1 }
  | .bind scope name value => some { m with heap := m.heap.bind scope name value }
  | .copy source name target newName =>
    match m.heap.lookup? source name with
    | some v => some { m with heap := m.heap.bind target newName v }
    | none => some m
  | .clear scope => some { m with heap := m.heap.clear scope }
  | .evaluate rules steps program scope => (evalProgram rules steps program scope m).machine?

/-- The state after actions one after the other, if all of them end. -/
def performAll (m : Machine) (actions : List ScopeAction) : Option Machine :=
  actions.foldlM perform m

/-- No action gives a scope another parent. -/
theorem keepsParents_perform {m m' : Machine} {a : ScopeAction} (h : m.perform a = some m') :
    KeepsParents m m' := by
  cases a with
  | newRoot =>
    cases h
    exact .newRoot m.heap
  | newChild parent =>
    cases h
    exact (Heap.untouched_newChild m.heap parent).keepsParents
  | bind scope name value =>
    cases h
    exact .update m.heap scope _
  | copy source name target newName =>
    simp only [perform] at h
    split at h
    · cases h
      exact .update m.heap target _
    · cases h
      exact .refl m.heap
  | clear scope =>
    cases h
    exact .update m.heap scope fun _ => []
  | evaluate rules steps program scope =>
    exact evalSequence_keeps (fun e _ => eval_keepsParents rules steps e scope) .undefined m m' h

/-- **Parents are kept** by all actions one after the other. -/
theorem keepsParents_performAll {m m' : Machine} {actions : List ScopeAction}
    (h : m.performAll actions = some m') : KeepsParents m m' := by
  induction actions generalizing m with
  | nil =>
    cases h
    exact .refl m'.heap
  | cons a rest ih =>
    rw [performAll, List.foldlM_cons] at h
    obtain ⟨m₁, hfirst, hrest⟩ := Option.bind_eq_some_iff.mp h
    exact (keepsParents_perform hfirst).trans (ih hrest)

/-- **Scopes form a forest that only grows.** Whatever is done with scopes, in whatever order, every
scope keeps the parent that it was made with, and the scopes that there are form a forest: chains of
parents end, what is asked of scopes can be read off the chains, the scopes around a scope are
ordered, and a binding is seen exactly where no scope on the way hides it. That parents are kept is
a matter of the history, `keepsParents_performAll`; that there is a forest is not, `Heap.forest`. -/
theorem forest_of_performAll {m m' : Machine} {actions : List ScopeAction}
    (h : m.performAll actions = some m') :
    m.heap.KeepsParents m'.heap ∧ m'.heap.Forest ∧
      m'.heap.newRoot.1.parent? m'.heap.newRoot.2 = none ∧
      ∀ p < m'.heap.scopes.size,
        (m'.heap.newChild p).1.parent? (m'.heap.newChild p).2 = some p := by
  refine ⟨keepsParents_performAll h, m'.heap.forest, ?_, fun p hp => ?_⟩
  · simp [Heap.newRoot, Heap.push, Heap.parent?]
  · rw [Heap.newChild_snd, Heap.parent?_newChild_self hp]

end Machine

end

namespace Machine

/-- A function is made and called in a child of the first scope, which is cleared in the end. -/
def localFunction : List ScopeAction :=
  [.newChild 0, .bind 0 "x" (.string "a"),
    .evaluate ⟨1, true⟩ 4
      [.definition ⟨"f", .none⟩ [] [.symbol "x" .none] .none, .call (.symbol "f" .none) [] .none] 1,
    .copy 2 "x" 1 "y", .newRoot, .clear 0]

/-- The function has a scope and its call a frame, one in the other, and both keep their parents. -/
theorem forest_of_performAll_localFunction :
    ∃ m', oneScope.performAll localFunction = some m' ∧
      (List.range 5).map m'.heap.parent? = [none, some 0, some 1, some 2, none] ∧
      oneScope.heap.KeepsParents m'.heap ∧ m'.heap.Forest := by
  have hends : (oneScope.performAll localFunction).map
      (fun m' => (List.range 5).map m'.heap.parent?) =
        some [none, some 0, some 1, some 2, none] := by decide +kernel
  obtain ⟨m', hm', hparents⟩ := Option.map_eq_some_iff.mp hends
  obtain ⟨hkeeps, hforest, -⟩ := forest_of_performAll hm'
  exact ⟨m', hm', hparents, hkeeps, hforest⟩

end Machine

end ScopeScript
