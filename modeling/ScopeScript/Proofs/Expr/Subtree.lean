import Mathlib.Logic.Relation
import ScopeScript.Eval.Operation
import ScopeScript.Proofs.Expr.Accept
import ScopeScript.Proofs.Expr.Node
import ScopeScript.Proofs.Token.Respell

/-!
# Nodes of programs

The nodes of a tree are what is at or below its root. Every node of a tree that is spelled by tokens
is spelled by some of these tokens itself, so what a node is made of can be traced to single tokens.
The operator of an operation is an operator of the notation, and each of these has a meaning on
numbers.
-/

namespace ScopeScript

namespace Expr

/-- An expression is a node of a tree. -/
def IsNodeOf : Expr → Expr → Prop := Relation.ReflTransGen fun c e => c ∈ e.children

end Expr

open ScopeScript.Expr

variable {e c : Expr} {ts : List Token}

/-- Each expression of a list is spelled by some of the tokens. -/
theorem SpellsAll.exists_spells {divider : TokenKind} {es : List Expr} {ts : List Token}
    {e : Expr} :
    SpellsAll divider es ts → e ∈ es → ∃ ts', ts' ⊆ ts ∧ Spells e ts'
  | .nil, he => by cases he
  | .skip _ hes, he => by
    obtain ⟨ts', hts, hspells⟩ := hes.exists_spells he
    exact ⟨ts', List.Subset.trans hts (List.subset_cons_self _ _), hspells⟩
  | .last hlast, he => by
    obtain rfl := List.mem_singleton.mp he
    exact ⟨_, List.Subset.refl _, hlast⟩
  | .cons hfirst _ hes, he => by
    obtain rfl | he := List.mem_cons.mp he
    · exact ⟨_, List.subset_append_left _ _, hfirst⟩
    · obtain ⟨ts', hts, hspells⟩ := hes.exists_spells he
      exact ⟨ts', fun t ht => by simp [hts ht], hspells⟩

/-- What is right below a node is spelled by some of its tokens. -/
theorem Spells.exists_spells_of_mem_children (h : Spells e ts) (hc : c ∈ e.children) :
    ∃ ts', ts' ⊆ ts ∧ Spells c ts' := by
  cases h with
  | number | string | symbol => simp [children] at hc
  | operation op s hleft _ hright =>
    simp only [children, List.mem_cons, List.not_mem_nil, or_false] at hc
    obtain rfl | rfl := hc
    · exact ⟨_, List.subset_append_left _ _, hleft⟩
    · exact ⟨_, fun t ht => by simp [ht], hright⟩
  | call hcallee _ _ hargs _ =>
    obtain rfl | hc := List.mem_cons.mp hc
    · exact ⟨_, List.subset_append_left _ _, hcallee⟩
    · obtain ⟨ts', hts, hspells⟩ := hargs.exists_spells hc
      exact ⟨ts', fun t ht => by simp [hts ht], hspells⟩
  | definition name _ hparams _ _ hbody _ =>
    obtain hc | hc := List.mem_append.mp hc
    · obtain ⟨ts', hts, hspells⟩ := hparams.exists_spells hc
      exact ⟨ts', fun t ht => by simp [hts ht], hspells⟩
    · obtain ⟨ts', hts, hspells⟩ := hbody.exists_spells hc
      exact ⟨ts', fun t ht => by simp [hts ht], hspells⟩
  | assignment target _ hvalue =>
    obtain rfl := List.mem_singleton.mp hc
    exact ⟨_, fun t ht => by simp [ht], hvalue⟩

/-- **Nodes are spelled** by some of the tokens of their tree. -/
theorem Spells.exists_spells_of_isNodeOf (h : Spells e ts) (hc : c.IsNodeOf e) :
    ∃ ts', ts' ⊆ ts ∧ Spells c ts' := by
  induction hc using Relation.ReflTransGen.head_induction_on with
  | refl => exact ⟨ts, List.Subset.refl ts, h⟩
  | head hc _ ih =>
    obtain ⟨ts₁, hts₁, hspells⟩ := ih
    obtain ⟨ts₂, hts₂, hspells⟩ := hspells.exists_spells_of_mem_children hc
    exact ⟨ts₂, List.Subset.trans hts₂ hts₁, hspells⟩

/-- A node of a program is spelled by tokens of its text. -/
theorem exists_spells_of_parse {program : List Expr} (hparse : parse ts = .ok program)
    (he : e ∈ program) (hc : c.IsNodeOf e) : ∃ ts', ts' ⊆ ts ∧ Spells c ts' := by
  obtain ⟨ts₁, hts₁, hspells⟩ := (parse_eq_ok_iff.mp hparse).1.exists_spells he
  obtain ⟨ts₂, hts₂, hspells⟩ := hspells.exists_spells_of_isNodeOf hc
  exact ⟨ts₂, List.Subset.trans hts₂ hts₁, hspells⟩

/-! ## Operators -/

/-- Every operator character has a meaning on numbers. -/
theorem numberOperation?_ne_none {c : Char} (hc : Lexer.isOperator c = true) :
    numberOperation? (.ofList [c]) ≠ none := by
  simp only [Lexer.isOperator, Bool.or_eq_true, decide_eq_true_eq] at hc
  obtain ((((rfl | rfl) | rfl) | rfl) | rfl) | rfl := hc <;> simp [numberOperation?]

/-- A token of the operator kind has a meaning on numbers. -/
theorem numberOperation?_of_tokenize {source : String} (h : tokenize source = .ok ts) {t : Token}
    (ht : t ∈ ts) (hkind : t.kind = .operator) : numberOperation? t.lexeme ≠ none := by
  obtain ⟨before, after, raw, hstands⟩ := exists_stands_of_tokenize h t ht
  rw [hkind] at hstands
  generalize hlexeme : t.lexeme.toList = lexeme at hstands
  cases hstands with
  | operator hc =>
    rw [← String.ofList_toList (s := t.lexeme), hlexeme]
    exact numberOperation?_ne_none hc
  | punctuation hc => exact absurd rfl (Lexer.kind_ne_of_punctuation hc).1

/-- **Operators have a meaning**: there are no others in the program of a text. -/
theorem numberOperation?_of_parse {source : String} (htokens : tokenize source = .ok ts)
    {program : List Expr} (hparse : parse ts = .ok program) (he : e ∈ program) {op : String}
    {left right : Expr} {opSpan : Span}
    (hnode : (Expr.operation op left right opSpan).IsNodeOf e) : numberOperation? op ≠ none := by
  obtain ⟨ts', hts, hspells⟩ := exists_spells_of_parse hparse he hnode
  cases hspells with
  | operation =>
    have hmem : ⟨.operator, op, opSpan⟩ ∈ ts := hts (by simp)
    exact numberOperation?_of_tokenize htokens hmem rfl

end ScopeScript
