import Mathlib.Data.Set.Basic
import Mathlib.Logic.Relation
import ScopeScript.Proofs.Scope.Heap
import ScopeScript.Proofs.Value.Lift

/-!
# What can be reached through the heap

A scope leads to its parent and to the scopes of the functions bound in it, so a value reaches
the scopes of its functions and all that these lead to. The check made when a call returns
follows parents only: a value captures a frame if one of its functions lies in the frame. It
may reach the frame without capturing it, through a binding of another scope. Whoever clears
the frame then loses what is bound there, and nothing is lost in any other case.
-/

namespace ScopeScript

namespace Value

mutual

/-- The functions that a value is or contains. -/
def closures : Value → List Closure
  | function f => [f]
  | list items => closuresAll items
  | _ => []

/-- The functions that several values are or contain. -/
def closuresAll : List Value → List Closure
  | [] => []
  | v :: rest => v.closures ++ closuresAll rest

end

variable {R : Closure → Closure → Prop}

mutual

/-- A value is related to itself if its functions are. -/
theorem lift_self_iff : ∀ v : Value, Lift R v v ↔ ∀ f ∈ v.closures, R f f
  | .number n => ⟨fun _ => by simp [closures], fun _ => .number n⟩
  | .boolean b => ⟨fun _ => by simp [closures], fun _ => .boolean b⟩
  | .string s => ⟨fun _ => by simp [closures], fun _ => .string s⟩
  | .undefined => ⟨fun _ => by simp [closures], fun _ => .undefined⟩
  | .function f => by
    have hf : Lift R (.function f) (.function f) ↔ R f f :=
      ⟨fun h => by cases h with | function hf => exact hf, .function⟩
    rw [hf]
    simp [closures]
  | .list items => by
    have hitems : Lift R (.list items) (.list items) ↔ List.Forall₂ (Lift R) items items :=
      ⟨fun h => by cases h with | list hitems => exact hitems, .list⟩
    rw [hitems, forall₂_lift_self_iff items, closures]

/-- Values are related to themselves exactly if their functions are. -/
theorem forall₂_lift_self_iff :
    ∀ vs : List Value, List.Forall₂ (Lift R) vs vs ↔ ∀ f ∈ closuresAll vs, R f f
  | [] => by simp [closuresAll]
  | v :: rest => by
    rw [List.forall₂_cons, lift_self_iff v, forall₂_lift_self_iff rest, closuresAll,
      List.forall_mem_append]

end

end Value

namespace Scope

/-- The value of a name is among the bindings. -/
theorem mem_of_get? {name : String} {v : Value} {bindings : List (String × Value)}
    (h : get? name bindings = some v) : (name, v) ∈ bindings := by
  induction bindings with
  | nil => cases h
  | cons b rest ih =>
    rw [get?] at h
    split at h
    · next hb =>
      cases h
      exact List.mem_cons.mpr (.inl (by rw [← hb]))
    · exact List.mem_cons_of_mem _ (ih h)

/-- What is bound after a name was bound is the new value or was bound before. -/
theorem mem_set {name other : String} {v w : Value} {bindings : List (String × Value)}
    (h : (other, w) ∈ set name v bindings) : w = v ∨ (other, w) ∈ bindings := by
  induction bindings with
  | nil => exact .inl (by simpa [set] using congrArg Prod.snd (List.mem_singleton.mp h))
  | cons b rest ih =>
    rw [set] at h
    split at h
    · obtain h | h := List.mem_cons.mp h
      · exact .inl (congrArg Prod.snd h)
      · exact .inr (List.mem_cons_of_mem _ h)
    · obtain h | h := List.mem_cons.mp h
      · exact .inr (List.mem_cons.mpr (.inl h))
      · exact (ih h).imp_right (List.mem_cons_of_mem _)

end Scope

namespace Heap

variable {h h' : Heap}

/-- Where a scope lies depends on the parents alone. -/
theorem isWithin_congr (hsize : h.scopes.size = h'.scopes.size)
    (hparent : ∀ i, h.parent? i = h'.parent? i) (i outer : ScopeId) :
    h.isWithin i outer = h'.isWithin i outer := by
  induction i using Nat.strong_induction_on with
  | _ i ih =>
    by_cases hi : i < h.scopes.size
    · rw [isWithin_eq hi, isWithin_eq (hsize ▸ hi), ← hparent i]
      cases hp : h.parent? i with
      | none => rfl
      | some p => simp only [Option.any_some, ih p (lt_of_parent? hp)]
    · have hle := Nat.not_lt.mp hi
      rw [isWithin_of_le hle, isWithin_of_le (hsize ▸ hle)]

mutual

/-- Related values capture the same scopes if related functions lie in the same ones. -/
theorem captures_congr {R : Closure → Closure → Prop} {scope : ScopeId}
    (hR : ∀ f f', R f f' → h.isWithin f.scope scope = h'.isWithin f'.scope scope) :
    ∀ {v v' : Value}, Value.Lift R v v' → h.captures scope v = h'.captures scope v'
  | .number _, _, hv => by cases hv; rfl
  | .boolean _, _, hv => by cases hv; rfl
  | .string _, _, hv => by cases hv; rfl
  | .undefined, _, hv => by cases hv; rfl
  | .function _, _, hv => by cases hv with | function hf => exact hR _ _ hf
  | .list _, _, hv => by
    cases hv with | list hitems => rw [captures, captures, capturesAny_congr hR hitems]

/-- Lists of related values capture the same scopes. -/
theorem capturesAny_congr {R : Closure → Closure → Prop} {scope : ScopeId}
    (hR : ∀ f f', R f f' → h.isWithin f.scope scope = h'.isWithin f'.scope scope) :
    ∀ {vs vs' : List Value}, List.Forall₂ (Value.Lift R) vs vs' →
      h.capturesAny scope vs = h'.capturesAny scope vs'
  | [], _, hvs => by cases hvs; rfl
  | _ :: _, _, hvs => by
    cases hvs with
    | cons hv hvs =>
      rw [capturesAny, capturesAny, captures_congr hR hv, capturesAny_congr hR hvs]

end

/-- A scope leads to another one: to its parent, or to the scope of a function bound in it. -/
inductive Holds (h : Heap) (i j : ScopeId) : Prop
  | parent : h.parent? i = some j → Holds h i j
  | bound {name : String} {v : Value} {f : Closure} :
    (name, v) ∈ h.bindings i → f ∈ v.closures → f.scope = j → Holds h i j

/-- What is bound in a heap after a name was bound is the new value or was bound before. -/
theorem mem_bindings_bind {i j : ScopeId} {name other : String} {v w : Value}
    (hw : (other, w) ∈ (h.bind i name v).bindings j) : w = v ∨ (other, w) ∈ h.bindings j := by
  rw [bind, bindings_update] at hw
  split at hw
  · next hj => exact hj.1 ▸ Scope.mem_set hw
  · exact .inr hw

/-- A value reaches a scope. -/
def Reaches (h : Heap) (v : Value) (j : ScopeId) : Prop :=
  ∃ f ∈ v.closures, Relation.ReflTransGen h.Holds f.scope j

/-- Clearing a frame that a value does not capture loses bindings that the value reaches. -/
def Loses (h : Heap) (frame : ScopeId) (v : Value) : Prop :=
  h.Reaches v frame ∧ h.captures frame v = false ∧ h.bindings frame ≠ []

/-- What a scope leads to depends on its own parent and bindings. -/
theorem Holds.congr {i j : ScopeId} (hj : h.Holds i j) (hparent : h'.parent? i = h.parent? i)
    (hbindings : h'.bindings i = h.bindings i) : h'.Holds i j := by
  cases hj with
  | parent hp => exact .parent (hparent.trans hp)
  | bound hb hf hscope => exact .bound (hbindings ▸ hb) hf hscope

/-- Scopes that lead to each other alone hold all that they lead to at any remove. -/
theorem mem_of_path {L : Set ScopeId} (hclosed : ∀ i ∈ L, ∀ j, h.Holds i j → j ∈ L) {i j : ScopeId}
    (hi : i ∈ L) (hpath : Relation.ReflTransGen h.Holds i j) : j ∈ L := by
  induction hpath with
  | refl => exact hi
  | tail _ hstep ih => exact hclosed _ ih _ hstep

/-- Scopes that lead to each other alone hold all that a value reaches whose functions lie there. -/
theorem mem_of_reaches {L : Set ScopeId} (hclosed : ∀ i ∈ L, ∀ j, h.Holds i j → j ∈ L) {v : Value}
    (hv : ∀ f ∈ v.closures, f.scope ∈ L) {j : ScopeId} (hj : h.Reaches v j) : j ∈ L := by
  obtain ⟨f, hf, hpath⟩ := hj
  exact mem_of_path hclosed (hv f hf) hpath

end Heap

end ScopeScript
