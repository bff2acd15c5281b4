import Mathlib.Data.List.Basic
import ScopeScript.Proofs.Expr.Print
import ScopeScript.Proofs.Expr.Reading

/-!
# The parser accepts its grammar

What the parser has read at any time is spelled by its state: the open lists from the outermost
on, the finished items of the innermost one, the operators that wait, and the current
expression. Every token keeps this so, and at the end of the input the state spells the program.
So the parser accepts nothing but spellings of what it returns, and it is known already that it
accepts every spelling that is not nested too deep.

In the end this is said of printed programs: what is accepted has the words of the program
printed and more dividers, and tokens with just these words are read as the program, up to spans.
-/

namespace ScopeScript

open ScopeScript.Expr

namespace Parser

/-! ## What a state spells -/

/-- The tokens of finished items, latest first, each with the divider behind it. -/
inductive Finished (divider : TokenKind) : List Expr → List Token → Prop
  | nil : Finished divider [] []
  | skip {items ts} {d : Token} :
    Finished divider items ts → d.kind = divider → Finished divider items (ts ++ [d])
  | item {items e ts ts'} {d : Token} :
    Finished divider items ts → Spells e ts' → d.kind = divider →
      Finished divider (e :: items) (ts ++ (ts' ++ [d]))

/-- The tokens of operators that wait for their right side, innermost first. -/
inductive Awaits : List Pending → List Token → Prop
  | nil : Awaits [] []
  | operand {ps left ts ts'} (op : String) (s : Span) :
    Awaits ps ts → Spells left ts' → left.isPrimary →
      Awaits (.operand left op s :: ps) (ts ++ (ts' ++ [⟨.operator, op, s⟩]))
  | value {ps ts} {eq : Token} (target : Name) :
    Awaits ps ts → eq.kind = .equal →
      Awaits (.value target :: ps) (ts ++ [⟨.name, target.text, target.span⟩, eq])

/-- The tokens from the start of an expression to the token that opens its list. -/
inductive Opens : Opener → List Token → Prop
  | arguments {callee ts} {o : Token} :
    Spells callee ts → callee.isPrimary → o.kind = .leftParen →
      Opens (.arguments callee) (ts ++ [o])
  | body {params ts} {o c o' : Token} (name : Name) :
    o.kind = .leftParen → SpellsAll .comma params ts → c.kind = .rightParen →
    o'.kind = .leftBrace →
      Opens (.body name params (name.span.till c.span))
        (⟨.name, name.text, name.span⟩ :: o :: (ts ++ [c, o']))

/-- The tokens of the open lists, innermost first, each up to the token that opens it. -/
inductive Surrounds : List Layer → List Token → Prop
  | nil : Surrounds [] []
  | cons {l layers ts ts₁ ts₂ ts₃} :
    Surrounds layers ts → Finished (State.divider ⟨layers, [], [], none⟩) l.items ts₁ →
    Awaits l.pending ts₂ → Opens l.opener ts₃ →
      Surrounds (l :: layers) (ts ++ (ts₁ ++ (ts₂ ++ ts₃)))

/-- The tokens of the expression read last, if there is one. -/
inductive Stands : Option Expr → List Token → Prop
  | none : Stands none []
  | some {e ts} : Spells e ts → e.isPrimary → Stands (some e) ts

/-- The tokens of an item, which may hold nothing. -/
inductive Fills : Option Expr → List Token → Prop
  | none : Fills none []
  | some {e ts} : Spells e ts → Fills (some e) ts

/-- The tokens that lead to a state. -/
inductive Records : State → List Token → Prop
  | intro {layers items pending current ts ts₁ ts₂ ts₃} :
    Surrounds layers ts → Finished (State.divider ⟨layers, [], [], none⟩) items ts₁ →
    Awaits pending ts₂ → Stands current ts₃ →
      Records ⟨layers, items, pending, current⟩ (ts ++ (ts₁ ++ (ts₂ ++ ts₃)))

variable {ts ts' : List Token} {t : Token}

/-! ## Putting the parts together -/

/-- Finished items, and what follows them. -/
theorem Finished.append {divider : TokenKind} {items es : List Expr}
    (h : Finished divider items ts) (hes : SpellsAll divider es ts') :
    SpellsAll divider (items.reverse ++ es) (ts ++ ts') := by
  induction h generalizing es ts' with
  | nil => exact hes
  | skip _ hd ih =>
    rw [List.append_assoc]
    exact ih (.skip hd hes)
  | @item items e ts ts₁ d _ he hd ih =>
    have hrest := ih (.cons he hd hes)
    simpa using hrest

/-- Waiting operators, and their right side. -/
theorem Awaits.complete {pending : List Pending} (h : Awaits pending ts) {e : Expr}
    (he : Spells e ts') : Spells (completeAll pending e) (ts ++ ts') := by
  induction h generalizing e ts' with
  | nil => exact he
  | operand op s _ hleft hprimary ih =>
    have hrest := ih (.operation op s hleft hprimary he)
    simpa [completeAll, Pending.complete] using hrest
  | value target _ heq ih =>
    have hrest := ih (.assignment target heq he)
    simpa [completeAll, Pending.complete] using hrest

/-- The current item. -/
theorem fills_item {layers : List Layer} {items : List Expr} {pending : List Pending}
    {current : Option Expr} (hawaits : Awaits pending ts) (hstands : Stands current ts')
    {item : Option Expr} (hitem : State.item? ⟨layers, items, pending, current⟩ = some item) :
    Fills item (ts ++ ts') := by
  cases hstands with
  | none =>
    cases hawaits with
    | nil =>
      cases hitem
      exact .none
    | operand | value => cases hitem
  | some he =>
    rw [item?_some] at hitem
    cases hitem
    exact .some (hawaits.complete he)

/-- Finished items, and one more item with the divider behind it. -/
theorem Finished.snoc {divider : TokenKind} {items : List Expr} (h : Finished divider items ts)
    {item : Option Expr} (hitem : Fills item ts') (ht : t.kind = divider) :
    Finished divider (item.toList ++ items) (ts ++ (ts' ++ [t])) := by
  cases hitem with
  | none => exact h.skip ht
  | some he => exact h.item he ht

/-- Finished items and the last item. -/
theorem Finished.spellsAll {divider : TokenKind} {items : List Expr} (h : Finished divider items ts)
    {item : Option Expr} (hitem : Fills item ts') :
    SpellsAll divider (item.toList ++ items).reverse (ts ++ ts') := by
  cases hitem with
  | none => simpa using h.append .nil
  | some he => simpa using h.append (.last he)

/-- An open list, and what closes it. -/
theorem Opens.complete {o : Opener} (h : Opens o ts) {es : List Expr}
    (hes : SpellsAll o.divider es ts') (ht : t.kind = o.closer) :
    Stands (some (o.complete es t.span)) (ts ++ (ts' ++ [t])) := by
  cases h with
  | arguments hcallee hprimary ho =>
    refine .some ?_ rfl
    simpa [Opener.complete] using Spells.call hcallee hprimary ho hes ht
  | body name ho hparams hc ho' =>
    refine .some ?_ rfl
    simpa [Opener.complete] using Spells.definition name ho hparams hc ho' hes ht

/-! ## Steps -/

variable {s s' : State}

/-- A token that ends an item keeps the record. -/
theorem records_endItem (h : Records s ts) (hstops : s.stopsAt t.kind = true)
    (hread : endItem s t = .ok s') : Records s' (ts ++ [t]) := by
  obtain @⟨layers, items, pending, current, ts, ts₁, ts₂, ts₃, houter, hitems, hawaits, hstands⟩ :=
    h
  rw [endItem] at hread
  cases hitem : State.item? ⟨layers, items, pending, current⟩ with
  | none => simp [hitem] at hread
  | some item =>
    have hfills := fills_item hawaits hstands hitem
    rw [hitem] at hread
    cases layers with
    | nil =>
      have ht : t.kind = .semicolon := by simpa [State.stopsAt] using hstops
      cases hread
      simpa using Records.intro houter (hitems.snoc hfills ht) .nil .none
    | cons l layers =>
      dsimp only at hread
      split at hread
      · next hclose =>
        have ht : t.kind = l.opener.closer := by simpa using hclose
        cases hread
        obtain - | ⟨hsurrounds, hfinished, hwaiting, hopens⟩ := houter
        have hlist := hopens.complete (hitems.spellsAll hfills) ht
        simpa using Records.intro hsurrounds hfinished hwaiting hlist
      · next hclose =>
        have ht : t.kind = l.opener.divider := by
          have hor : t.kind = l.opener.divider ∨ t.kind = l.opener.closer := by
            simpa [State.stopsAt] using hstops
          exact hor.resolve_right (by simpa using hclose)
        cases hread
        simpa using Records.intro houter (hitems.snoc hfills ht) .nil .none

/-- A token that continues an item keeps the record. -/
theorem records_extend (h : Records s ts) (hread : extend s t = .ok s') :
    Records s' (ts ++ [t]) := by
  obtain @⟨layers, items, pending, current, ts, ts₁, ts₂, ts₃, houter, hitems, hawaits, hstands⟩ :=
    h
  obtain ⟨kind, lexeme, span⟩ := t
  cases hstands with
  | none =>
    have hstarts : ∀ e, Spells e [⟨kind, lexeme, span⟩] → e.isPrimary = true →
        Records (State.withCurrent ⟨layers, items, pending, none⟩ e)
          (ts ++ (ts₁ ++ (ts₂ ++ [])) ++ [⟨kind, lexeme, span⟩]) := by
      intro e he hprimary
      simpa [State.withCurrent] using Records.intro houter hitems hawaits (.some he hprimary)
    cases kind with
    | number =>
      cases hread
      exact hstarts _ (.number lexeme span) rfl
    | string =>
      cases hread
      exact hstarts _ (.string lexeme span) rfl
    | name =>
      cases hread
      exact hstarts _ (.symbol lexeme span) rfl
    | _ => cases hread
  | @some e _ he hprimary =>
    cases kind with
    | operator =>
      cases hread
      have hoperand := hawaits.operand lexeme span he hprimary
      simpa [State.await] using Records.intro houter hitems hoperand .none
    | leftParen =>
      cases hread
      have hopens := Opens.arguments he hprimary (rfl : Token.kind ⟨.leftParen, lexeme, span⟩ = _)
      simpa [State.openList] using
        Records.intro (.cons houter hitems hawaits hopens) .nil .nil .none
    | leftBrace =>
      cases he with
      | call hcallee _ ho hparams hc =>
        cases hcallee with
        | symbol name nameSpan =>
          cases hread
          have hopens := Opens.body ⟨name, nameSpan⟩ ho hparams hc
            (rfl : Token.kind ⟨.leftBrace, lexeme, span⟩ = _)
          simpa [State.openList] using
            Records.intro (.cons houter hitems hawaits hopens) .nil .nil .none
        | _ => cases hread
      | _ => cases hread
    | equal =>
      cases he with
      | symbol name nameSpan =>
        cases hread
        have hvalue := hawaits.value ⟨name, nameSpan⟩ (rfl : Token.kind ⟨.equal, lexeme, span⟩ = _)
        simpa [State.await] using Records.intro houter hitems hvalue .none
      | _ => cases hread
    | _ => cases hread

/-- **Every token keeps the record.** -/
theorem records_read (h : Records s ts) (hread : read s t = .ok s') : Records s' (ts ++ [t]) := by
  rw [read] at hread
  split at hread
  · next hstops => exact records_endItem h hstops hread
  · exact records_extend h hread

/-- What the parser has read so far is recorded after any further tokens. -/
theorem records_readAll (h : Records s ts) (hread : readAll s ts' = .ok s') :
    Records s' (ts ++ ts') := by
  induction ts' generalizing s ts with
  | nil =>
    cases hread
    simpa using h
  | cons t rest ih =>
    cases ht : read s t with
    | error e => simp [readAll, ht] at hread
    | ok s₁ =>
      rw [readAll_cons ht] at hread
      simpa using ih (records_read h ht) hread

end Parser

open ScopeScript.Parser

variable {ts : List Token} {p : List Expr}

/-- What is accepted is a spelling of the program. -/
theorem spellsAll_of_parse (h : parse ts = .ok p) : SpellsAll .semicolon p ts := by
  rw [parse] at h
  cases hsteps : steps .start ts with
  | error e => simp [hsteps] at h
  | ok s =>
    rw [hsteps] at h
    dsimp only at h
    rw [finish] at h
    by_cases hdepth : s.depth > maxNesting
    · simp [hdepth] at h
    · rw [if_neg hdepth] at h
      have hread := (readAll_of_steps hsteps (Nat.not_lt.mp hdepth)).1
      obtain @⟨layers, items, pending, current, _, _, _, _, houter, hitems, hawaits, hstands⟩ :=
        records_readAll (.intro .nil .nil .nil .none) hread
      cases hitem : State.item? ⟨layers, items, pending, current⟩ with
      | none => simp [hitem] at h
      | some item =>
        cases layers with
        | cons l layers => simp [hitem] at h
        | nil =>
          have hprogram : (item.toList ++ items).reverse = p := by simpa [hitem] using h
          cases houter
          exact hprogram ▸ hitems.spellsAll (fills_item hawaits hstands hitem)

/-- **The parser accepts its grammar**: it returns a program exactly for the spellings of the
program, as long as this is not nested too deep. -/
theorem parse_eq_ok_iff :
    parse ts = .ok p ↔ SpellsAll .semicolon p ts ∧ nestingAll p ≤ maxNesting := by
  refine ⟨fun h => ?_, fun ⟨hspells, hnesting⟩ => parse_of_spellsAll hspells hnesting⟩
  have hspells := spellsAll_of_parse h
  refine ⟨hspells, Nat.not_lt.mp fun hdeep => ?_⟩
  obtain ⟨span, herror⟩ := parse_of_spellsAll_of_lt hspells hdeep
  rw [h] at herror
  cases herror

/-- **Parsing loses no token.** What is accepted is canonical and spelled by the tokens, which are
the words of the program printed and more dividers. Tokens with the words of a canonical program
are read as that program, up to spans, if it is not nested too deep, and are refused for that if
it is. -/
theorem parse_print (ts : List Token) :
    (∀ p, parse ts = .ok p → allCanonical p = true ∧ SpellsAll .semicolon p ts ∧
      Thins (printAll .semicolon p) (ts.map Token.word)) ∧
    ∀ p, allCanonical p = true → ts.map Token.word = printAll .semicolon p →
      (nestingAll p ≤ maxNesting → ∃ q, parse ts = .ok q ∧ eraseAll q = eraseAll p) ∧
      (maxNesting < nestingAll p →
        ∃ span, parse ts = .error (.nestingTooDeep maxNesting span)) := by
  refine ⟨fun p h => ?_, fun p hcanonical hts => ?_⟩
  · have hspells := spellsAll_of_parse h
    exact ⟨hspells.allCanonical, hspells, hspells.thins (by rfl)⟩
  · obtain ⟨q, hq, heq⟩ := spellsAll_of_printAll .semicolon p ts hcanonical hts
    have hnesting : nestingAll q = nestingAll p := by
      have hsame := congrArg nestingAll heq
      rwa [eraseAll, nestingAll_relocateAll, nestingAll_relocateAll] at hsame
    refine ⟨fun hle => ⟨q, parse_of_spellsAll hq (hnesting ▸ hle), heq⟩, fun hlt => ?_⟩
    exact parse_of_spellsAll_of_lt hq (hnesting ▸ hlt)

/-- The tokens of `f(x) { x; }` without places. -/
def definitionTokens : List Token :=
  [⟨.name, "f", .none⟩, ⟨.leftParen, "(", .none⟩, ⟨.name, "x", .none⟩, ⟨.rightParen, ")", .none⟩,
    ⟨.leftBrace, "\x7b", .none⟩, ⟨.name, "x", .none⟩, ⟨.rightBrace, "\x7d", .none⟩]

/-- The same tokens with a divider behind them. -/
def dividedTokens : List Token := definitionTokens ++ [⟨.semicolon, ";", .none⟩]

/-- A program of one definition. -/
def definitionProgram : List Expr :=
  [.definition ⟨"f", .none⟩ [.symbol "x" .none] [.symbol "x" .none] .none]

/-- A number with `n` operators in front, each the right operand of the one before it. -/
def operatorChain : (n : Nat) → Expr
  | 0 => .number "1" .none
  | n + 1 => .operation "+" (.number "1" .none) (operatorChain n) .none

/-- The tokens of such a chain without places. -/
def operatorChainTokens : (n : Nat) → List Token
  | 0 => [⟨.number, "1", .none⟩]
  | n + 1 => ⟨.number, "1", .none⟩ :: ⟨.operator, "+", .none⟩ :: operatorChainTokens n

/-- A definition with one more divider behind it has the words of the definition printed and more
dividers. The definition is read as it is printed, and so is a chain of as many operators as
levels are allowed, while one operator more is refused. -/
theorem parse_print_examples :
    Thins (printAll .semicolon definitionProgram) (dividedTokens.map Token.word) ∧
    (∃ q, parse definitionTokens = .ok q ∧ eraseAll q = eraseAll definitionProgram) ∧
    (∃ q, parse (operatorChainTokens maxNesting) = .ok q ∧
      eraseAll q = eraseAll [operatorChain maxNesting]) ∧
    ∃ span, parse (operatorChainTokens (maxNesting + 1)) =
      .error (.nestingTooDeep maxNesting span) := by
  have hprint : ∀ n, (operatorChainTokens n).map Token.word = (operatorChain n).print := by
    intro n
    induction n with
    | zero => rfl
    | succ n ih => simp [operatorChainTokens, operatorChain, print, ih, Token.word]
  have hcanonical : ∀ n, allCanonical [operatorChain n] = true := by
    intro n
    induction n with
    | zero => rfl
    | succ n ih => simpa [operatorChain, allCanonical, isCanonical, isPrimary] using ih
  have hnesting : ∀ n, nestingAll [operatorChain n] = n := by
    intro n
    induction n with
    | zero => rfl
    | succ n ih => simpa [operatorChain, nestingAll, nesting] using ih
  have hread : parse dividedTokens = .ok definitionProgram := rfl
  refine ⟨((parse_print _).1 _ hread).2.2,
    ((parse_print definitionTokens).2 definitionProgram ?_ ?_).1 ?_,
    ((parse_print _).2 _ (hcanonical maxNesting) (hprint maxNesting)).1 (hnesting _).le,
    ((parse_print _).2 _ (hcanonical (maxNesting + 1)) (hprint (maxNesting + 1))).2 ?_⟩
  · rfl
  · rfl
  · decide
  · rw [hnesting]
    exact Nat.lt_succ_self maxNesting

end ScopeScript
