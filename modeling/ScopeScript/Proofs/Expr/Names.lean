import ScopeScript.Proofs.Expr.Accept
import ScopeScript.Proofs.Expr.Node

/-!
# The names in a tree

Every name in a tree was read from a token: what the source does not name, the tree does not name
either, whatever it looks up, defines or assigns to.
-/

namespace ScopeScript

namespace Expr

mutual

/-- The names that an expression looks up, defines or assigns to, in its bodies too. -/
def names : Expr → List String
  | symbol name _ => [name]
  | operation _ left right _ => left.names ++ right.names
  | call callee args _ => callee.names ++ namesAll args
  | definition name params body _ => name.text :: (namesAll params ++ namesAll body)
  | assignment target value _ => target.text :: value.names
  | _ => []

/-- The names in several expressions. -/
def namesAll : List Expr → List String
  | [] => []
  | e :: rest => e.names ++ namesAll rest

end

/-- The names in a tree are among those in its list. -/
theorem names_subset_namesAll {e : Expr} {es : List Expr} (he : e ∈ es) :
    e.names ⊆ namesAll es := by
  induction he with
  | head rest => exact List.subset_append_left _ _
  | tail e' _ ih => exact fun n hn => List.mem_append_right _ (ih hn)

/-- What is below a node names nothing that the node does not name. -/
theorem names_subset_of_mem_children {c e : Expr} (hc : c ∈ e.children) : c.names ⊆ e.names := by
  intro n hn
  cases e with
  | number | string | symbol => simp [children] at hc
  | operation op left right s =>
    simp only [children, List.mem_cons, List.not_mem_nil, or_false] at hc
    obtain rfl | rfl := hc
    · exact List.mem_append_left _ hn
    · exact List.mem_append_right _ hn
  | call callee args s =>
    obtain rfl | hc := List.mem_cons.mp hc
    · exact List.mem_append_left _ hn
    · exact List.mem_append_right _ (names_subset_namesAll hc hn)
  | definition name params body s =>
    apply List.mem_cons_of_mem
    obtain hc | hc := List.mem_append.mp hc
    · exact List.mem_append_left _ (names_subset_namesAll hc hn)
    · exact List.mem_append_right _ (names_subset_namesAll hc hn)
  | assignment target value s =>
    obtain rfl := List.mem_singleton.mp hc
    exact List.mem_cons_of_mem _ hn

end Expr

open ScopeScript.Expr

/-- Some of the tokens are names with this text. -/
def NamedBy (ts : List Token) (n : String) : Prop := ∃ t ∈ ts, t.kind = .name ∧ t.lexeme = n

/-- A name that stands in some tokens stands in all that have these. -/
theorem NamedBy.of_subset {ts ts' : List Token} {n : String} (h : NamedBy ts n) (hts : ts ⊆ ts') :
    NamedBy ts' n := by
  obtain ⟨t, ht, htoken⟩ := h
  exact ⟨t, hts ht, htoken⟩

mutual

/-- The names in an expression are named by the tokens that spell it. -/
theorem Spells.namedBy {e : Expr} {ts : List Token} {n : String} :
    Spells e ts → n ∈ e.names → NamedBy ts n
  | .number _ _, hn | .string _ _, hn => by cases hn
  | .symbol name s, hn => by
    obtain rfl := List.mem_singleton.mp hn
    exact ⟨_, List.mem_cons_self, rfl, rfl⟩
  | .operation op s hleft _ hright, hn => by
    obtain hn | hn := List.mem_append.mp hn
    · exact (hleft.namedBy hn).of_subset (List.subset_append_left _ _)
    · exact (hright.namedBy hn).of_subset fun t ht => by simp [ht]
  | .call hcallee _ _ hargs _, hn => by
    obtain hn | hn := List.mem_append.mp hn
    · exact (hcallee.namedBy hn).of_subset (List.subset_append_left _ _)
    · exact (hargs.namedBy hn).of_subset fun t ht => by simp [ht]
  | .definition name _ hparams _ _ hbody _, hn => by
    obtain rfl | hn := List.mem_cons.mp hn
    · exact ⟨_, List.mem_cons_self, rfl, rfl⟩
    · obtain hn | hn := List.mem_append.mp hn
      · exact (hparams.namedBy hn).of_subset fun t ht => by simp [ht]
      · exact (hbody.namedBy hn).of_subset fun t ht => by simp [ht]
  | .assignment target _ hvalue, hn => by
    obtain rfl | hn := List.mem_cons.mp hn
    · exact ⟨_, List.mem_cons_self, rfl, rfl⟩
    · exact (hvalue.namedBy hn).of_subset fun t ht => by simp [ht]

/-- The names in a program stand in its tokens. -/
theorem SpellsAll.namedBy {divider : TokenKind} {es : List Expr} {ts : List Token} {n : String} :
    SpellsAll divider es ts → n ∈ namesAll es → NamedBy ts n
  | .nil, hn => by cases hn
  | .skip _ hes, hn => (hes.namedBy hn).of_subset (List.subset_cons_self _ _)
  | .last he, hn => by
    rw [namesAll, namesAll, List.append_nil] at hn
    exact he.namedBy hn
  | .cons he _ hes, hn => by
    obtain hn | hn := List.mem_append.mp hn
    · exact (he.namedBy hn).of_subset (List.subset_append_left _ _)
    · exact (hes.namedBy hn).of_subset fun t ht => by simp [ht]

end

/-- **The names in a program** are named by its tokens. -/
theorem namedBy_of_parse {ts : List Token} {p : List Expr} (h : parse ts = .ok p) {e : Expr}
    (he : e ∈ p) {n : String} (hn : n ∈ e.names) : NamedBy ts n :=
  (parse_eq_ok_iff.mp h).1.namedBy (names_subset_namesAll he hn)

end ScopeScript
