import Mathlib.Data.List.Basic
import ScopeScript.Proofs.Expr.Grammar

/-!
# Printed programs

`print` gives the words of the one spelling of an expression without empty items. Every other
spelling has the same words and more dividers, and every canonical expression is spelled by
tokens with its words.
-/

namespace ScopeScript

/-- What a token says: its kind, and its lexeme unless the kind has one spelling only. -/
structure Word where
  kind : TokenKind
  lexeme : String
  deriving Repr, DecidableEq

/-- The word of a kind with one spelling. -/
def mark (kind : TokenKind) : Word := ⟨kind, ""⟩

/-- Whether a word separates items. -/
def Word.isDivider (w : Word) : Bool := w.kind == .comma || w.kind == .semicolon

/-- The word of a token. -/
def Token.word (t : Token) : Word :=
  match t.kind with
  | .number | .string | .name | .operator => ⟨t.kind, t.lexeme⟩
  | kind => mark kind

namespace Expr

mutual

/-- The words of an expression. -/
def print : Expr → List Word
  | number text _ => [⟨.number, text⟩]
  | string text _ => [⟨.string, text⟩]
  | symbol name _ => [⟨.name, name⟩]
  | operation op left right _ => left.print ++ ⟨.operator, op⟩ :: right.print
  | call callee args _ =>
    callee.print ++ mark .leftParen :: (printAll .comma args ++ [mark .rightParen])
  | definition name params body _ =>
    ⟨.name, name.text⟩ :: mark .leftParen :: (printAll .comma params ++
      mark .rightParen :: mark .leftBrace :: (printAll .semicolon body ++ [mark .rightBrace]))
  | assignment target value _ => ⟨.name, target.text⟩ :: mark .equal :: value.print

/-- The words of several expressions, separated by dividers. -/
def printAll (divider : TokenKind) : List Expr → List Word
  | [] => []
  | [e] => e.print
  | e :: e' :: rest => e.print ++ mark divider :: printAll divider (e' :: rest)

end

end Expr

open ScopeScript.Expr

/-! ## Spellings have the words of the print -/

/-- The same words but for dividers, of which `ws'` has more. -/
structure Thins (ws ws' : List Word) : Prop where
  sublist : ws.Sublist ws'
  filter : ws.filter (!·.isDivider) = ws'.filter (!·.isDivider)

namespace Thins

variable {ws ws' us us' : List Word} {w : Word}

/-- Words without a further divider. -/
theorem refl (ws : List Word) : Thins ws ws := ⟨.refl ws, rfl⟩

/-- Words with further dividers, one behind the other. -/
theorem append (h : Thins ws ws') (h' : Thins us us') : Thins (ws ++ us) (ws' ++ us') where
  sublist := h.sublist.append h'.sublist
  filter := by rw [List.filter_append, List.filter_append, h.filter, h'.filter]

/-- A word in front of both. -/
theorem cons (w : Word) (h : Thins ws ws') : Thins (w :: ws) (w :: ws') := (refl [w]).append h

/-- A divider that is in the second text only. -/
theorem skip (hw : w.isDivider = true) (h : Thins ws ws') : Thins ws (w :: ws') where
  sublist := h.sublist.cons w
  filter := by rw [h.filter, List.filter_cons_of_neg (by simp [hw])]

end Thins

/-- A token of a kind with one spelling says just that. -/
theorem Token.word_eq_mark {t : Token} {kind : TokenKind} (ht : t.kind = kind)
    (hmark : kind ≠ .number ∧ kind ≠ .string ∧ kind ≠ .name ∧ kind ≠ .operator) :
    t.word = mark kind := by
  subst ht
  cases h : t.kind <;> simp_all [word]

/-- A divider is the word of its mark. -/
theorem Token.word_of_isDivider {d : Token} {divider : TokenKind} (hd : d.kind = divider)
    (hdivider : (mark divider).isDivider = true) : d.word = mark divider := by
  refine word_eq_mark hd ?_
  cases divider <;> simp_all [Word.isDivider, mark]

mutual

/-- What spells an expression has its words and more dividers. -/
theorem Spells.thins {e : Expr} {ts : List Token} : Spells e ts → Thins e.print (ts.map Token.word)
  | .number _ _ => .refl _
  | .string _ _ => .refl _
  | .symbol _ _ => .refl _
  | .operation op s hleft _ hright => by
    rw [List.map_append, List.map_cons]
    exact hleft.thins.append (.cons _ hright.thins)
  | .call hcallee _ ho hargs hc => by
    simp only [List.map_append, List.map_cons, List.map_nil, Token.word_eq_mark ho (by simp),
      Token.word_eq_mark hc (by simp)]
    exact hcallee.thins.append (.cons _ ((hargs.thins (by rfl)).append (.refl _)))
  | .definition name ho hparams hc ho' hbody hc' => by
    simp only [List.map_append, List.map_cons, List.map_nil, Token.word_eq_mark ho (by simp),
      Token.word_eq_mark hc (by simp), Token.word_eq_mark ho' (by simp),
      Token.word_eq_mark hc' (by simp)]
    have hbody' := (hbody.thins (by rfl)).append (.refl [mark .rightBrace])
    exact .cons _ (.cons _ ((hparams.thins (by rfl)).append (.cons _ (.cons _ hbody'))))
  | .assignment target heq hvalue => by
    simp only [List.map_cons, Token.word_eq_mark heq (by simp)]
    exact .cons _ (.cons _ hvalue.thins)

/-- What spells several expressions has their words and more dividers. -/
theorem SpellsAll.thins {divider : TokenKind} {es : List Expr} {ts : List Token} :
    SpellsAll divider es ts → (mark divider).isDivider = true →
      Thins (printAll divider es) (ts.map Token.word)
  | .nil, _ => .refl _
  | .skip hd hes, hdivider => by
    rw [List.map_cons, Token.word_of_isDivider hd hdivider]
    exact .skip hdivider (hes.thins hdivider)
  | .last he, _ => he.thins
  | @SpellsAll.cons _ e es _ _ _ he hd hes, hdivider => by
    rw [List.map_append, List.map_cons, Token.word_of_isDivider hd hdivider]
    have hrest := hes.thins hdivider
    cases es with
    | nil => simpa [printAll] using he.thins.append (.skip hdivider hrest)
    | cons e' rest => exact he.thins.append (.cons _ hrest)

end

/-! ## The print is a spelling -/

/-- A word names the kind of its token. -/
@[simp] theorem Token.kind_word (t : Token) : t.word.kind = t.kind := by
  cases h : t.kind <;> simp [word, mark, h]

/-- A token has the kind of its word. -/
theorem Token.kind_of_word {t : Token} {w : Word} (h : t.word = w) : t.kind = w.kind := by
  rw [← h, kind_word]

/-- A token of a kind with many spellings says how it is spelled. -/
theorem Token.eq_of_word {t : Token} {kind : TokenKind} {lexeme : String}
    (h : t.word = ⟨kind, lexeme⟩)
    (hfree : kind = .number ∨ kind = .string ∨ kind = .name ∨ kind = .operator) :
    t = ⟨kind, lexeme, t.span⟩ := by
  have hkind : t.kind = kind := kind_of_word h
  obtain ⟨k, l, s⟩ := t
  subst hkind
  obtain rfl | rfl | rfl | rfl := hfree <;> simpa [word] using h

/-- A list of words up to a last one comes from tokens up to a last one. -/
theorem map_eq_snoc {ts : List Token} {ws : List Word} {w : Word}
    (h : ts.map Token.word = ws ++ [w]) :
    ∃ ts' t, ts = ts' ++ [t] ∧ ts'.map Token.word = ws ∧ t.word = w := by
  obtain ⟨ts', last, rfl, hts', hlast⟩ := List.map_eq_append_iff.mp h
  obtain ⟨t, rfl, ht⟩ := List.map_eq_singleton_iff.mp hlast
  exact ⟨ts', t, rfl, hts', ht⟩

mutual

/-- Tokens with the words of a canonical expression spell it, up to places. -/
theorem spells_of_print : ∀ (e : Expr) (ts : List Token), e.isCanonical = true →
    ts.map Token.word = e.print → ∃ q, Spells q ts ∧ q.erase = e.erase
  | .number text s, ts, _, hts => by
    obtain ⟨t, rfl, ht⟩ := List.map_eq_singleton_iff.mp hts
    rw [Token.eq_of_word ht (by simp)]
    exact ⟨_, .number text t.span, rfl⟩
  | .string text s, ts, _, hts => by
    obtain ⟨t, rfl, ht⟩ := List.map_eq_singleton_iff.mp hts
    rw [Token.eq_of_word ht (by simp)]
    exact ⟨_, .string text t.span, rfl⟩
  | .symbol name s, ts, _, hts => by
    obtain ⟨t, rfl, ht⟩ := List.map_eq_singleton_iff.mp hts
    rw [Token.eq_of_word ht (by simp)]
    exact ⟨_, .symbol name t.span, rfl⟩
  | .operation op left right s, ts, hcanonical, hts => by
    simp only [isCanonical, Bool.and_eq_true] at hcanonical
    obtain ⟨⟨hprimary, hleft⟩, hright⟩ := hcanonical
    rw [print, List.map_eq_append_iff] at hts
    obtain ⟨ts₁, ts', rfl, hts₁, hts'⟩ := hts
    obtain ⟨t, ts₂, rfl, ht, hts₂⟩ := List.map_eq_cons_iff.mp hts'
    obtain ⟨q, hq, heq⟩ := spells_of_print left ts₁ hleft hts₁
    obtain ⟨q', hq', heq'⟩ := spells_of_print right ts₂ hright hts₂
    rw [Token.eq_of_word ht (by simp)]
    refine ⟨_, .operation op t.span hq ?_ hq', ?_⟩
    · rwa [isPrimary_of_erase heq]
    · rw [erase_operation, erase_operation, heq, heq']
  | .call callee args s, ts, hcanonical, hts => by
    simp only [isCanonical, Bool.and_eq_true] at hcanonical
    obtain ⟨⟨hprimary, hcallee⟩, hargs⟩ := hcanonical
    rw [print, List.map_eq_append_iff] at hts
    obtain ⟨ts₁, ts', rfl, hts₁, hts'⟩ := hts
    obtain ⟨o, ts₂, rfl, ho, hts₂⟩ := List.map_eq_cons_iff.mp hts'
    obtain ⟨q, hq, heq⟩ := spells_of_print callee ts₁ hcallee hts₁
    obtain ⟨ts₃, c, rfl, hts₃, hc⟩ := map_eq_snoc hts₂
    obtain ⟨qs, hqs, heqs⟩ := spellsAll_of_printAll .comma args ts₃ hargs hts₃
    refine ⟨_, .call hq ?_ (Token.kind_of_word ho) hqs (Token.kind_of_word hc), ?_⟩
    · rwa [isPrimary_of_erase heq]
    · rw [erase_call, erase_call, heq, heqs]
  | .definition name params body s, ts, hcanonical, hts => by
    simp only [isCanonical, Bool.and_eq_true] at hcanonical
    obtain ⟨n, ts', rfl, hn, hts'⟩ := List.map_eq_cons_iff.mp hts
    obtain ⟨o, ts', rfl, ho, hts'⟩ := List.map_eq_cons_iff.mp hts'
    obtain ⟨ts₁, ts', rfl, hts₁, hts'⟩ := List.map_eq_append_iff.mp hts'
    obtain ⟨c, ts', rfl, hc, hts'⟩ := List.map_eq_cons_iff.mp hts'
    obtain ⟨o', ts', rfl, ho', hts'⟩ := List.map_eq_cons_iff.mp hts'
    obtain ⟨ts₂, c', rfl, hts₂, hc'⟩ := map_eq_snoc hts'
    obtain ⟨qs, hqs, heqs⟩ := spellsAll_of_printAll .comma params ts₁ hcanonical.1 hts₁
    obtain ⟨qs', hqs', heqs'⟩ := spellsAll_of_printAll .semicolon body ts₂ hcanonical.2 hts₂
    rw [Token.eq_of_word hn (by simp)]
    refine ⟨_, .definition ⟨name.text, n.span⟩ (Token.kind_of_word ho) hqs (Token.kind_of_word hc)
      (Token.kind_of_word ho') hqs' (Token.kind_of_word hc'), ?_⟩
    rw [erase_definition, erase_definition, heqs, heqs']
  | .assignment target value s, ts, hcanonical, hts => by
    obtain ⟨n, ts', rfl, hn, hts'⟩ := List.map_eq_cons_iff.mp hts
    obtain ⟨t, ts₁, rfl, ht, hts₁⟩ := List.map_eq_cons_iff.mp hts'
    obtain ⟨q, hq, heq⟩ := spells_of_print value ts₁ hcanonical hts₁
    rw [Token.eq_of_word hn (by simp)]
    refine ⟨_, .assignment ⟨target.text, n.span⟩ (Token.kind_of_word ht) hq, ?_⟩
    rw [erase_assignment, erase_assignment, heq]

/-- Tokens with the words of canonical expressions spell them, up to places. -/
theorem spellsAll_of_printAll : ∀ (divider : TokenKind) (es : List Expr) (ts : List Token),
    allCanonical es = true → ts.map Token.word = printAll divider es →
      ∃ qs, SpellsAll divider qs ts ∧ eraseAll qs = eraseAll es
  | _, [], ts, _, hts => by
    rw [List.map_eq_nil_iff.mp hts]
    exact ⟨[], .nil, rfl⟩
  | _, [e], ts, hcanonical, hts => by
    simp only [allCanonical, Bool.and_eq_true] at hcanonical
    obtain ⟨q, hq, heq⟩ := spells_of_print e ts hcanonical.1 hts
    exact ⟨[q], .last hq, by rw [eraseAll_cons, eraseAll_cons, heq]⟩
  | divider, e :: e' :: rest, ts, hcanonical, hts => by
    rw [allCanonical, Bool.and_eq_true] at hcanonical
    rw [printAll, List.map_eq_append_iff] at hts
    obtain ⟨ts₁, ts', rfl, hts₁, hts'⟩ := hts
    obtain ⟨d, ts₂, rfl, hd, hts₂⟩ := List.map_eq_cons_iff.mp hts'
    obtain ⟨q, hq, heq⟩ := spells_of_print e ts₁ hcanonical.1 hts₁
    obtain ⟨qs, hqs, heqs⟩ := spellsAll_of_printAll divider (e' :: rest) ts₂ hcanonical.2 hts₂
    refine ⟨q :: qs, .cons hq (Token.kind_of_word hd) hqs, ?_⟩
    rw [eraseAll_cons, eraseAll_cons e, heq, heqs]

end

end ScopeScript
