import ScopeScript.Expr.Parser
import ScopeScript.Proofs.Expr.Relocate

/-!
# The grammar

The tokens that spell an expression, with everything that the parser reads: in a program, an
argument list or a body there may be more dividers than needed, with nothing between them. The
spans of a tree come from its tokens.

An operator takes everything up to the end of its item as its right operand, so only a tree that
leans to the right can be spelled: nothing but a literal, a name, a call or a definition stands
left of an operator or in front of an argument list. Such trees are canonical.
-/

namespace ScopeScript

namespace Expr

/-- Whether an expression may stand left of an operator or in front of an argument list. -/
def isPrimary : Expr → Bool
  | operation _ _ _ _ => false
  | assignment _ _ _ => false
  | _ => true

mutual

/-- Whether all left operands and all callees in a tree may stand where they do. -/
def isCanonical : Expr → Bool
  | operation _ left right _ => left.isPrimary && left.isCanonical && right.isCanonical
  | call callee args _ => callee.isPrimary && callee.isCanonical && allCanonical args
  | definition _ params body _ => allCanonical params && allCanonical body
  | assignment _ value _ => value.isCanonical
  | _ => true

/-- Whether several trees are canonical. -/
def allCanonical : List Expr → Bool
  | [] => true
  | e :: rest => e.isCanonical && allCanonical rest

end

mutual

/-- How many levels deep an expression is nested. Right operands, assigned values, argument
lists and bodies are one level deeper than where they start, even if they are empty. -/
def nesting : Expr → Nat
  | operation _ left right _ => max left.nesting (right.nesting + 1)
  | call callee args _ => max callee.nesting (nestingAll args + 1)
  | definition _ params body _ => max (nestingAll params + 1) (nestingAll body + 1)
  | assignment _ value _ => value.nesting + 1
  | _ => 0

/-- How many levels deep the deepest of several expressions is nested. -/
def nestingAll : List Expr → Nat
  | [] => 0
  | e :: rest => max e.nesting (nestingAll rest)

end

/-- Every tree of a canonical list is canonical. -/
theorem isCanonical_of_mem {e : Expr} {es : List Expr} (hes : allCanonical es = true)
    (he : e ∈ es) : e.isCanonical = true := by
  induction he with
  | head rest =>
    rw [allCanonical, Bool.and_eq_true] at hes
    exact hes.1
  | tail e' _ ih =>
    rw [allCanonical, Bool.and_eq_true] at hes
    exact ih hes.2

/-- No tree of a list is nested deeper than the list. -/
theorem nesting_le_nestingAll {e : Expr} {es : List Expr} (he : e ∈ es) :
    e.nesting ≤ nestingAll es := by
  induction he with
  | head rest => exact Nat.le_max_left _ _
  | tail e' _ ih => exact Nat.le_trans ih (Nat.le_max_right _ _)

/-- Moving a tree does not change whether it is primary. -/
theorem isPrimary_relocate (g : Location → Location) (e : Expr) :
    (e.relocate g).isPrimary = e.isPrimary := by
  cases e <;> rfl

/-- Trees that differ in places are primary alike. -/
theorem isPrimary_of_erase {e e' : Expr} (h : e.erase = e'.erase) : e.isPrimary = e'.isPrimary := by
  have hprimary := congrArg isPrimary h
  rwa [erase, isPrimary_relocate, isPrimary_relocate] at hprimary

mutual

/-- Nesting has nothing to do with places. -/
theorem nesting_relocate (g : Location → Location) : ∀ e : Expr, (e.relocate g).nesting = e.nesting
  | number _ _ => rfl
  | string _ _ => rfl
  | symbol _ _ => rfl
  | operation _ left right _ => by
    rw [relocate, nesting, nesting, nesting_relocate g left, nesting_relocate g right]
  | call callee args _ => by
    rw [relocate, nesting, nesting, nesting_relocate g callee, nestingAll_relocateAll g args]
  | definition _ params body _ => by
    rw [relocate, nesting, nesting, nestingAll_relocateAll g params, nestingAll_relocateAll g body]
  | assignment _ value _ => by rw [relocate, nesting, nesting, nesting_relocate g value]

/-- Moving trees does not change how deep they are nested. -/
theorem nestingAll_relocateAll (g : Location → Location) :
    ∀ es : List Expr, nestingAll (relocateAll g es) = nestingAll es
  | [] => rfl
  | e :: rest => by
    rw [relocateAll, nestingAll, nestingAll, nesting_relocate g e, nestingAll_relocateAll g rest]

end

end Expr

open ScopeScript.Expr

mutual

/-- The tokens `ts` spell an expression. -/
inductive Spells : Expr → List Token → Prop
  | number (text : String) (s : Span) : Spells (.number text s) [⟨.number, text, s⟩]
  | string (text : String) (s : Span) : Spells (.string text s) [⟨.string, text, s⟩]
  | symbol (name : String) (s : Span) : Spells (.symbol name s) [⟨.name, name, s⟩]
  | operation {left right ts ts'} (op : String) (s : Span) :
    Spells left ts → left.isPrimary → Spells right ts' →
      Spells (.operation op left right s) (ts ++ ⟨.operator, op, s⟩ :: ts')
  | call {callee args ts ts'} {o c : Token} :
    Spells callee ts → callee.isPrimary →
    o.kind = .leftParen → SpellsAll .comma args ts' → c.kind = .rightParen →
      Spells (.call callee args (callee.span.till c.span)) (ts ++ o :: (ts' ++ [c]))
  | definition {params body ts ts'} {o c o' c' : Token} (name : Name) :
    o.kind = .leftParen → SpellsAll .comma params ts → c.kind = .rightParen →
    o'.kind = .leftBrace → SpellsAll .semicolon body ts' → c'.kind = .rightBrace →
      Spells (.definition name params body (name.span.till c'.span))
        (⟨.name, name.text, name.span⟩ :: o :: (ts ++ c :: o' :: (ts' ++ [c'])))
  | assignment {value ts} {eq : Token} (target : Name) :
    eq.kind = .equal → Spells value ts →
      Spells (.assignment target value (target.span.till value.span))
        (⟨.name, target.text, target.span⟩ :: eq :: ts)

/-- The tokens `ts` spell expressions that are separated by dividers, with any number of empty
items among them. -/
inductive SpellsAll : TokenKind → List Expr → List Token → Prop
  | nil {divider} : SpellsAll divider [] []
  | skip {divider es ts} {d : Token} :
    d.kind = divider → SpellsAll divider es ts → SpellsAll divider es (d :: ts)
  | last {divider e ts} : Spells e ts → SpellsAll divider [e] ts
  | cons {divider e es ts ts'} {d : Token} :
    Spells e ts → d.kind = divider → SpellsAll divider es ts' →
      SpellsAll divider (e :: es) (ts ++ d :: ts')

end

mutual

/-- What is spelled is canonical. -/
theorem Spells.isCanonical {e : Expr} {ts : List Token} : Spells e ts → e.isCanonical = true
  | .number _ _ => rfl
  | .string _ _ => rfl
  | .symbol _ _ => rfl
  | .operation _ _ hleft hprimary hright => by
    simp [Expr.isCanonical, hprimary, hleft.isCanonical, hright.isCanonical]
  | .call hcallee hprimary _ hargs _ => by
    simp [Expr.isCanonical, hprimary, hcallee.isCanonical, hargs.allCanonical]
  | .definition _ _ hparams _ _ hbody _ => by
    simp [Expr.isCanonical, hparams.allCanonical, hbody.allCanonical]
  | .assignment _ _ hvalue => by simp [Expr.isCanonical, hvalue.isCanonical]

/-- What tokens spell with dividers is canonical. -/
theorem SpellsAll.allCanonical {divider : TokenKind} {es : List Expr} {ts : List Token} :
    SpellsAll divider es ts → allCanonical es = true
  | .nil => rfl
  | .skip _ hes => hes.allCanonical
  | .last he => by simp [Expr.allCanonical, he.isCanonical]
  | .cons he _ hes => by simp [Expr.allCanonical, he.isCanonical, hes.allCanonical]

end

end ScopeScript
