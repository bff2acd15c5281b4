import ScopeScript.Scope.Basic

/-!
# Laws of the heap of scopes

What each operation on the heap does to the bindings and to the parent of every scope, and how
a search outward unfolds. A place behind the last scope has no bindings and no parent, so most
laws hold of every place and need no bound.
-/

namespace ScopeScript.Heap

/-- Behind the last scope nothing is bound. -/
theorem bindings_of_le {h : Heap} {i : ScopeId} (hi : h.scopes.size ≤ i) : h.bindings i = [] := by
  simp [bindings, hi]

/-- Behind the last scope there is no parent. -/
theorem parent?_of_le {h : Heap} {i : ScopeId} (hi : h.scopes.size ≤ i) : h.parent? i = none := by
  simp [parent?, hi]

/-- A parent is older than its child. -/
theorem lt_of_parent? {h : Heap} {i p : ScopeId} (hp : h.parent? i = some p) : p < i := by
  by_cases hi : i < h.scopes.size
  · exact h.parent_lt i hi p (by simpa [parent?, hi] using hp)
  · simp [parent?_of_le (Nat.not_lt.mp hi)] at hp

/-- A parent is in the heap. -/
theorem lt_size_of_parent? {h : Heap} {i p : ScopeId} (hp : h.parent? i = some p) :
    p < h.scopes.size := by
  by_cases hi : i < h.scopes.size
  · exact Nat.lt_trans (lt_of_parent? hp) hi
  · simp [parent?_of_le (Nat.not_lt.mp hi)] at hp

/-- A heap is made of the parents and the bindings of its scopes. -/
theorem eq_of_bindings {h h' : Heap} (hsize : h.scopes.size = h'.scopes.size)
    (hparent : ∀ i, h.parent? i = h'.parent? i) (hbindings : ∀ i, h.bindings i = h'.bindings i) :
    h = h' := by
  have hscopes : h.scopes = h'.scopes := by
    refine Array.ext hsize fun i hi hi' => ?_
    have hp := hparent i
    have hb := hbindings i
    simp only [parent?, bindings, Array.getElem?_eq_getElem hi, Array.getElem?_eq_getElem hi',
      Option.bind_some, Option.map_some, Option.getD_some] at hp hb
    generalize h.scopes[i] = s at hp hb ⊢
    generalize h'.scopes[i] = s' at hp hb ⊢
    cases s
    cases s'
    cases hp
    cases hb
    rfl
  cases h
  cases h'
  cases hscopes
  rfl

/-! ## Changing the bindings of one scope -/

section Update

variable (h : Heap) (i j : ScopeId) (f : List (String × Value) → List (String × Value))

/-- A change of bindings makes no scope. -/
@[simp] theorem size_update : (h.update i f).scopes.size = h.scopes.size := by
  simp [update]

/-- A change of bindings keeps all parents. -/
@[simp] theorem parent?_update : (h.update i f).parent? j = h.parent? j := by
  simp only [parent?, update, Array.getElem?_modify]
  split
  · rw [Option.bind_map]
    rfl
  · rfl

/-- Only the scope itself changes, and only if there is such a scope. -/
theorem bindings_update :
    (h.update i f).bindings j =
      if j = i ∧ i < h.scopes.size then f (h.bindings i) else h.bindings j := by
  by_cases hj : j = i
  · subst hj
    by_cases hi : j < h.scopes.size
    · simp [bindings, update, Array.getElem_modify, hi]
    · simp [bindings, update, hi]
  · simp [bindings, update, Array.getElem?_modify, hj, Ne.symm hj]

/-- Binding a name makes no scope. -/
@[simp] theorem size_bind (name : String) (v : Value) :
    (h.bind i name v).scopes.size = h.scopes.size := size_update h i _

/-- Binding a name keeps all parents. -/
@[simp] theorem parent?_bind (name : String) (v : Value) :
    (h.bind i name v).parent? j = h.parent? j := parent?_update h i j _

/-- Clearing a scope makes none. -/
@[simp] theorem size_clear : (h.clear i).scopes.size = h.scopes.size := size_update h i _

/-- Clearing a scope keeps all parents. -/
@[simp] theorem parent?_clear : (h.clear i).parent? j = h.parent? j := parent?_update h i j _

variable {h i j}

/-- Binding in one scope leaves every other scope alone. -/
theorem bindings_bind_of_ne (hj : j ≠ i) (name : String) (v : Value) :
    (h.bind i name v).bindings j = h.bindings j := by
  simp [bind, bindings_update, hj]

/-- The bindings of a scope after a name was bound in it. -/
theorem bindings_bind_self (hi : i < h.scopes.size) (name : String) (v : Value) :
    (h.bind i name v).bindings i = Scope.set name v (h.bindings i) := by
  simp [bind, bindings_update, hi]

/-- Clearing one scope leaves every other scope alone. -/
theorem bindings_clear_of_ne (hj : j ≠ i) : (h.clear i).bindings j = h.bindings j := by
  simp [clear, bindings_update, hj]

variable (h i) in
/-- A scope that was cleared binds nothing. -/
@[simp] theorem bindings_clear_self : (h.clear i).bindings i = [] := by
  by_cases hi : i < h.scopes.size
  · simp [clear, bindings_update, hi]
  · exact bindings_of_le (by simpa using hi)

end Update

/-! ## New scopes -/

section New

variable (h : Heap) (p i : ScopeId)

/-- A new scope takes the next place. -/
@[simp] theorem newChild_snd : (h.newChild p).2 = h.scopes.size := by
  simp only [newChild, newRoot]
  split <;> rfl

/-- A new root is one more scope. -/
@[simp] theorem size_newRoot : h.newRoot.1.scopes.size = h.scopes.size + 1 := by
  simp [newRoot, push]

/-- A new child is one more scope. -/
@[simp] theorem size_newChild : (h.newChild p).1.scopes.size = h.scopes.size + 1 := by
  simp only [newChild]
  split <;> simp [newRoot, push]

/-- A new scope is empty, like the place that it takes. -/
@[simp] theorem bindings_newRoot : h.newRoot.1.bindings i = h.bindings i := by
  simp only [newRoot, push, bindings, Array.getElem?_push]
  split
  · next hi => simp [hi]
  · rfl

/-- A new child binds nothing, and keeps what the others bind. -/
@[simp] theorem bindings_newChild : (h.newChild p).1.bindings i = h.bindings i := by
  simp only [newChild]
  split
  · simp only [push, bindings, Array.getElem?_push]
    split
    · next hi => simp [hi]
    · rfl
  · exact bindings_newRoot h i

variable {h p i}

/-- A new root keeps the parents of the others. -/
theorem parent?_newRoot (hi : i ≠ h.scopes.size) : h.newRoot.1.parent? i = h.parent? i := by
  simp [newRoot, push, parent?, Array.getElem?_push, hi]

/-- A new scope is the child of no scope and the parent of none. -/
theorem parent?_newChild_of_ne (hi : i ≠ h.scopes.size) :
    (h.newChild p).1.parent? i = h.parent? i := by
  simp only [newChild]
  split
  · simp [push, parent?, Array.getElem?_push, hi]
  · exact parent?_newRoot hi

/-- Made in a scope that there is, the new scope lies in it. -/
theorem parent?_newChild_self (hp : p < h.scopes.size) :
    (h.newChild p).1.parent? h.scopes.size = some p := by
  simp [newChild, hp, push, parent?]

/-- Made in no scope that there is, the new scope is a root. -/
theorem parent?_newChild_of_le (hp : h.scopes.size ≤ p) :
    (h.newChild p).1.parent? h.scopes.size = none := by
  simp [newChild, Nat.not_lt.mpr hp, newRoot, push, parent?]

/-- The parent of a new scope, if it has one, is the scope that it was made in. -/
theorem parent?_newChild_eq {q : ScopeId}
    (hq : (h.newChild p).1.parent? h.scopes.size = some q) : q = p := by
  by_cases hp : p < h.scopes.size
  · simpa [parent?_newChild_self hp] using hq.symm
  · simp [parent?_newChild_of_le (Nat.not_lt.mp hp)] at hq

end New

/-! ## Searching outward -/

section Search

variable {h : Heap} {i : ScopeId}

/-- A search looks at the scope itself and goes on in its parent. -/
theorem findOutward?_of_lt {α : Type} (f : ScopeId → Scope → Option α)
    (hi : i < h.scopes.size) :
    h.findOutward? f i =
      (f i h.scopes[i]).or ((h.parent? i).bind (h.findOutward? f)) := by
  have hp : h.parent? i = h.scopes[i].parent := by simp [parent?, hi]
  rw [findOutward?, dif_pos hi, hp]
  split
  · next a ha => simp [ha]
  · next ha =>
    rw [ha, Option.none_or]
    split
    · next p hparent => simp [hparent]
    · next hparent => simp [hparent]

/-- Nothing is found from a scope that is not there. -/
theorem findOutward?_of_le {α : Type} (f : ScopeId → Scope → Option α)
    (hi : h.scopes.size ≤ i) : h.findOutward? f i = none := by
  rw [findOutward?, dif_neg (Nat.not_lt.mpr hi)]

variable (h i) in
/-- A name means what its own scope binds it to, or else what it means further out. -/
theorem lookup?_eq (name : String) :
    h.lookup? i name =
      (Scope.get? name (h.bindings i)).or ((h.parent? i).bind (h.lookup? · name)) := by
  by_cases hi : i < h.scopes.size
  · have hb : h.bindings i = h.scopes[i].bindings := by simp [bindings, hi]
    rw [lookup?, findOutward?_of_lt _ hi, hb]
    rfl
  · have hle := Nat.not_lt.mp hi
    rw [lookup?, findOutward?_of_le _ hle, bindings_of_le hle, parent?_of_le hle]
    rfl

/-- A scope lies in itself and in whatever its parent lies in. -/
theorem isWithin_eq (hi : i < h.scopes.size) (outer : ScopeId) :
    h.isWithin i outer = (decide (i = outer) || (h.parent? i).any (h.isWithin · outer)) := by
  rw [isWithin, findOutward?_of_lt _ hi]
  by_cases ho : i = outer
  · simp [ho]
  · cases hp : h.parent? i <;> simp [ho, isWithin]

/-- A scope that is not there lies in nothing. -/
theorem isWithin_of_le (hi : h.scopes.size ≤ i) (outer : ScopeId) :
    h.isWithin i outer = false := by
  rw [isWithin, findOutward?_of_le _ hi]
  rfl

/-- The chain of a scope goes on with that of its parent. -/
theorem chain_of_lt (hi : i < h.scopes.size) :
    h.chain i = i :: (h.parent? i).elim [] h.chain := by
  have hp : h.parent? i = h.scopes[i].parent := by simp [parent?, hi]
  rw [chain, dif_pos hi, hp]
  split
  · next p hparent => simp [hparent]
  · next hparent => simp [hparent]

/-- A scope that is not there has no chain. -/
theorem chain_of_le (hi : h.scopes.size ≤ i) : h.chain i = [] := by
  rw [chain, dif_neg (Nat.not_lt.mpr hi)]

variable (h i) in
/-- A name is looked up in the scopes of the chain, one after the other. -/
theorem lookup?_eq_findSome? (name : String) :
    h.lookup? i name = (h.chain i).findSome? fun j => Scope.get? name (h.bindings j) := by
  induction i using Nat.strongRecOn with
  | _ i ih =>
    by_cases hi : i < h.scopes.size
    · rw [lookup?_eq, chain_of_lt hi, List.findSome?_cons]
      cases Scope.get? name (h.bindings i) with
      | some v => rfl
      | none =>
        cases hp : h.parent? i with
        | none => rfl
        | some p => exact ih p (lt_of_parent? hp)
    · have hle := Nat.not_lt.mp hi
      rw [lookup?_eq, chain_of_le hle, bindings_of_le hle, parent?_of_le hle]
      rfl

/-- A scope lies in the scopes of its chain. -/
theorem isWithin_iff_mem_chain {outer : ScopeId} :
    h.isWithin i outer = true ↔ outer ∈ h.chain i := by
  induction i using Nat.strongRecOn with
  | _ i ih =>
    by_cases hi : i < h.scopes.size
    · rw [isWithin_eq hi, chain_of_lt hi, Bool.or_eq_true, decide_eq_true_eq, List.mem_cons,
        eq_comm]
      cases hp : h.parent? i with
      | none => simp
      | some p => simpa using or_congr_right (ih p (lt_of_parent? hp))
    · have hle := Nat.not_lt.mp hi
      simp [isWithin_of_le hle, chain_of_le hle]

end Search

end ScopeScript.Heap
