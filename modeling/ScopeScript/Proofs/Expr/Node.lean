import Mathlib.Data.List.Forall2
import ScopeScript.Expr.Basic

/-!
# Nodes

What can be said of a node in terms of the nodes right below it. Two trees whose nodes are of one
kind, with the same names and texts, may be compared node by node: a relation between their parts
and one between their spans say how far they agree.
-/

namespace ScopeScript.Expr

/-- The nodes right below a node. -/
def children : Expr → List Expr
  | operation _ left right _ => [left, right]
  | call callee args _ => callee :: args
  | definition _ params body _ => params ++ body
  | assignment _ value _ => [value]
  | _ => []

/-- Nodes of one kind with the same names and texts, whose parts are related by `E` and whose
spans are related by `S`. -/
inductive Node (E : Expr → Expr → Prop) (S : Span → Span → Prop) : Expr → Expr → Prop
  | number {s s'} (text : String) : Node E S (.number text s) (.number text s')
  | string {s s'} (text : String) : Node E S (.string text s) (.string text s')
  | symbol {s s'} (name : String) : S s s' → Node E S (.symbol name s) (.symbol name s')
  | operation {l l' r r' s s'} (op : String) :
    E l l' → E r r' → S s s' → Node E S (.operation op l r s) (.operation op l' r' s')
  | call {c c' args args' s s'} :
    E c c' → List.Forall₂ E args args' → S s s' → Node E S (.call c args s) (.call c' args' s')
  | definition {name name' ps ps' body body' s s'} :
    name.text = name'.text → List.Forall₂ E ps ps' → List.Forall₂ E body body' →
      Node E S (.definition name ps body s) (.definition name' ps' body' s')
  | assignment {target target' v v' s s'} :
    target.text = target'.text → E v v' →
      Node E S (.assignment target v s) (.assignment target' v' s')

namespace Node

variable {E E' : Expr → Expr → Prop} {S : Span → Span → Prop}

/-- Nodes with related parts are so by any relations that say less. -/
theorem mono (hE : ∀ e e', E e e' → E' e e') {e e' : Expr} (h : Node E S e e') :
    Node E' S e e' := by
  cases h with
  | number text => exact .number text
  | string text => exact .string text
  | symbol name hs => exact .symbol name hs
  | operation op hl hr hs => exact .operation op (hE _ _ hl) (hE _ _ hr) hs
  | call hc hargs hs => exact .call (hE _ _ hc) (hargs.imp hE) hs
  | definition hname hps hbody => exact .definition hname (hps.imp hE) (hbody.imp hE)
  | assignment htarget hv => exact .assignment htarget (hE _ _ hv)

/-- A node is related to itself if the nodes right below it are. -/
theorem self (hS : ∀ s, S s s) {e : Expr} (hE : ∀ c ∈ e.children, E c c) : Node E S e e := by
  cases e with
  | number text => exact .number text
  | string text => exact .string text
  | symbol name => exact .symbol name (hS _)
  | operation op left right =>
    exact .operation op (hE left (by simp [children])) (hE right (by simp [children])) (hS _)
  | call callee args =>
    obtain ⟨hcallee, hargs⟩ := List.forall_mem_cons.mp hE
    exact .call hcallee (List.forall₂_same.mpr hargs) (hS _)
  | definition name params body =>
    obtain ⟨hparams, hbody⟩ := List.forall_mem_append.mp hE
    exact .definition rfl (List.forall₂_same.mpr hparams) (List.forall₂_same.mpr hbody)
  | assignment target value => exact .assignment rfl (hE value List.mem_cons_self)

/-- Equal nodes correspond. -/
theorem of_eq (e e' : Expr) (he : e = e') : Node Eq Eq e e' :=
  he ▸ self (fun _ => rfl) fun _ _ => rfl

end Node

end ScopeScript.Expr
