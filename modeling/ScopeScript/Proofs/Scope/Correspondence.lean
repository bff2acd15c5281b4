import ScopeScript.Proofs.Scope.Reach

/-!
# Heaps that correspond

A relation between functions lifts to heaps: two heaps correspond if they have the same scopes with
the same names bound in the same order, to values alike but for their functions, which the relation
relates. Everything that is done to a heap keeps such a correspondence.
-/

namespace ScopeScript

/-- Bindings of one name to values alike but for their functions, which `R` relates. -/
def SameBinding (R : Closure → Closure → Prop) (b b' : String × Value) : Prop :=
  b.1 = b'.1 ∧ Value.Lift R b.2 b'.2

variable {R : Closure → Closure → Prop}

namespace Scope

variable {bs bs' : List (String × Value)}

/-- A name has values that are related, or none in both lists. -/
theorem get?_rel (hbs : List.Forall₂ (SameBinding R) bs bs') (name : String) :
    Option.Rel (Value.Lift R) (get? name bs) (get? name bs') := by
  induction hbs with
  | nil => exact .none
  | @cons b b' rest rest' hb _ ih =>
    obtain ⟨n, v⟩ := b
    obtain ⟨n', v'⟩ := b'
    obtain ⟨rfl, hv⟩ : n = n' ∧ Value.Lift R v v' := hb
    simp only [get?]
    split
    · exact .some hv
    · exact ih

/-- Lists of bindings stay related when related values are bound. -/
theorem set_rel (hbs : List.Forall₂ (SameBinding R) bs bs') (name : String) {v v' : Value}
    (hv : Value.Lift R v v') :
    List.Forall₂ (SameBinding R) (set name v bs) (set name v' bs') := by
  induction hbs with
  | nil => exact .cons ⟨rfl, hv⟩ .nil
  | @cons b b' rest rest' hb hrest ih =>
    obtain ⟨n, w⟩ := b
    obtain ⟨n', w'⟩ := b'
    obtain ⟨rfl, hw⟩ : n = n' ∧ Value.Lift R w w' := hb
    simp only [set]
    split
    · exact .cons ⟨rfl, hv⟩ hrest
    · exact .cons ⟨rfl, hw⟩ ih

end Scope

namespace Heap

/-- Heaps of one shape with the same names bound, to values alike but for their functions. -/
structure Corresponds (R : Closure → Closure → Prop) (h h' : Heap) : Prop where
  size_eq : h.scopes.size = h'.scopes.size
  parent?_eq : ∀ i, h.parent? i = h'.parent? i
  bindings : ∀ i, List.Forall₂ (SameBinding R) (h.bindings i) (h'.bindings i)

namespace Corresponds

/-- A heap corresponds to itself if the functions bound in it are related to themselves. -/
theorem self {h : Heap} (hR : ∀ i, ∀ b ∈ h.bindings i, ∀ f ∈ b.2.closures, R f f) :
    Corresponds R h h where
  size_eq := rfl
  parent?_eq _ := rfl
  bindings i := List.forall₂_same.mpr fun b hb => ⟨rfl, (Value.lift_self_iff _).mpr (hR i b hb)⟩

variable {h h' : Heap} (hh : Corresponds R h h')

include hh

/-- A name means values that are related, or nothing in both heaps. -/
theorem lookup? (i : ScopeId) (name : String) :
    Option.Rel (Value.Lift R) (h.lookup? i name) (h'.lookup? i name) := by
  induction i using Nat.strong_induction_on with
  | _ i ih =>
    have hget := Scope.get?_rel (hh.bindings i) name
    rw [lookup?_eq h, lookup?_eq h', ← hh.parent?_eq i]
    generalize Scope.get? name (h.bindings i) = v? at hget
    generalize Scope.get? name (h'.bindings i) = v?' at hget
    cases hget with
    | some hv => exact .some hv
    | none =>
      cases hp : h.parent? i with
      | none => exact .none
      | some p => exact ih p (lt_of_parent? hp)

/-- Heaps still correspond when related values are bound. -/
theorem bind (i : ScopeId) (name : String) {v v' : Value} (hv : Value.Lift R v v') :
    Corresponds R (h.bind i name v) (h'.bind i name v') where
  size_eq := by simpa using hh.size_eq
  parent?_eq j := by simpa using hh.parent?_eq j
  bindings j := by
    by_cases hj : j = i
    · subst hj
      by_cases hlt : j < h.scopes.size
      · rw [bindings_bind_self hlt, bindings_bind_self (hh.size_eq ▸ hlt)]
        exact Scope.set_rel (hh.bindings j) name hv
      · have hle := Nat.not_lt.mp hlt
        rw [bindings_of_le (by simpa using hle), bindings_of_le (by simpa [← hh.size_eq] using hle)]
        exact .nil
    · rw [bindings_bind_of_ne hj, bindings_bind_of_ne hj]
      exact hh.bindings j

/-- Heaps still correspond when a scope is cleared in both. -/
theorem clear (i : ScopeId) : Corresponds R (h.clear i) (h'.clear i) where
  size_eq := by simpa using hh.size_eq
  parent?_eq j := by simpa using hh.parent?_eq j
  bindings j := by
    by_cases hj : j = i
    · rw [hj, bindings_clear_self, bindings_clear_self]
      exact .nil
    · rw [bindings_clear_of_ne hj, bindings_clear_of_ne hj]
      exact hh.bindings j

/-- Heaps still correspond when both get a new scope. -/
theorem newChild (i : ScopeId) : Corresponds R (h.newChild i).1 (h'.newChild i).1 where
  size_eq := by simpa using hh.size_eq
  parent?_eq j := by
    by_cases hj : j = h.scopes.size
    · by_cases hlt : i < h.scopes.size
      · have hparent' := parent?_newChild_self (hh.size_eq ▸ hlt : i < h'.scopes.size)
        rw [hj, parent?_newChild_self hlt, hh.size_eq, hparent']
      · have hle := Nat.not_lt.mp hlt
        have hparent' := parent?_newChild_of_le (hh.size_eq ▸ hle : h'.scopes.size ≤ i)
        rw [hj, parent?_newChild_of_le hle, hh.size_eq, hparent']
    · rw [parent?_newChild_of_ne hj, parent?_newChild_of_ne (hh.size_eq ▸ hj), hh.parent?_eq j]
  bindings j := by simpa using hh.bindings j

/-- The next scope is the same in both heaps. -/
theorem newChild_snd (i : ScopeId) : (h.newChild i).2 = (h'.newChild i).2 := by
  rw [Heap.newChild_snd, Heap.newChild_snd, hh.size_eq]

/-- Values alike capture the same scopes if related functions have the same scope. -/
theorem captures_eq (hscope : ∀ f f', R f f' → f.scope = f'.scope) (frame : ScopeId)
    {v v' : Value} (hv : Value.Lift R v v') : h.captures frame v = h'.captures frame v' :=
  captures_congr (fun _ _ hf => hscope _ _ hf ▸ isWithin_congr hh.size_eq hh.parent?_eq _ _) hv

end Corresponds

end Heap

end ScopeScript
