import ScopeScript.Proofs.Expr.Layout
import ScopeScript.Proofs.Token.Tiling

/-!
# Writing tokens back

Tokens are written one behind the other with a space behind each, strings in double quotes unless
there is one in them. A space ends every token and starts none, so what is written reads back as
tokens of the same kinds with the same lexemes. There are no escapes: a string can be written
because it was read, and so lacks the quote that it stood in.

The written text is a normal form of a text that has tokens. It is shared by all texts that
differ in nothing but layout, and by no others.
-/

namespace ScopeScript

namespace Lexer

/-- The quote to write around a string. -/
def quoteFor (inner : List Char) : Char := if '"' ∈ inner then '\x27' else '"'

/-- The raw text to write for a token. -/
def rawText : (kind : TokenKind) → (lexeme : List Char) → List Char
  | .string, inner => quoteFor inner :: (inner ++ [quoteFor inner])
  | _, lexeme => lexeme

variable {kind : TokenKind} {before after lexeme raw inner : List Char}

/-- A quote is chosen among the two. -/
theorem isQuote_quoteFor (inner : List Char) : isQuote (quoteFor inner) = true := by
  rw [quoteFor]
  split <;> rfl

/-- A string that stands in a text does not have the quote that is written around it. -/
theorem Stands.quoteFor_notMem (h : Stands before after .string inner raw) :
    quoteFor inner ∉ inner := by
  cases h with
  | punctuation hc => exact absurd hc (by unfold TokenKind.ofPunctuation?; split <;> simp)
  | @string q _ hq hinner =>
    rw [quoteFor]
    split
    · next hdouble =>
      have hsingle : q = '\x27' := by
        have hor : q = '"' ∨ q = '\x27' := by simpa [isQuote] using hq
        exact hor.resolve_left (ne_of_mem_of_not_mem hdouble hinner).symm
      exact hsingle ▸ hinner
    · next hdouble => exact hdouble

/-- A run between nothing and a space. -/
theorem IsRun.alone {p : Char → Bool} (h : IsRun p before raw after) (hspace : p ' ' = false) :
    IsRun p [] raw [' '] where
  ne_nil := h.ne_nil
  of_class := h.of_class
  starts := by simp
  ends := by simpa using hspace

/-- **A token that stands in a text stands alone** as it is written, in front of a space. -/
theorem Stands.alone (h : Stands before after kind lexeme raw) :
    Stands [] [' '] kind lexeme (rawText kind lexeme) := by
  cases h with
  | operator hc => exact .operator hc
  | @punctuation c _ hc =>
    have hraw : rawText kind [c] = [c] := by
      unfold TokenKind.ofPunctuation? at hc
      split at hc <;> cases hc <;> rfl
    rw [hraw]
    exact .punctuation hc
  | string hq hinner =>
    have hstands : Stands before after .string lexeme _ := .string hq hinner
    exact .string (isQuote_quoteFor lexeme) hstands.quoteFor_notMem
  | number hrun _ hcount => exact .number (hrun.alone rfl) (List.cons_ne_nil _ _) hcount
  | name hrun _ => exact .name (hrun.alone rfl) (List.cons_ne_nil _ _)

/-- The tokens of a tiling stand in its text. -/
theorem Tiling.exists_stands {ts : List Token} {text rest : List Char} (h : Tiling ts text rest) :
    ∀ t ∈ ts, ∃ before after raw, Stands before after t.kind t.lexeme.toList raw := by
  induction h with
  | nil => simp
  | blank _ _ ih => exact ih
  | token _ hstands _ ih =>
    exact List.forall_mem_append.mpr ⟨ih, List.forall_mem_singleton.mpr ⟨_, _, _, hstands⟩⟩

end Lexer

open ScopeScript.Lexer

/-- What is written for a token: its raw text and a space. -/
def Token.written (t : Token) : String := .ofList (rawText t.kind t.lexeme.toList ++ [' '])

/-- What is written for tokens, one behind the other. -/
def respell (ts : List Token) : String := String.join (ts.map Token.written)

variable {source : String} {ts ts' : List Token} {t : Token}

/-- The written text depends on kinds and lexemes only. -/
theorem respell_congr (h : spelling ts = spelling ts') : respell ts = respell ts' := by
  have hwritten : ∀ ts : List Token, ts.map Token.written =
      (spelling ts).map fun p => .ofList (rawText p.1 p.2.toList ++ [' ']) := fun ts => by
    rw [spelling, List.map_map]
    rfl
  rw [respell, respell, hwritten, hwritten, h]

/-- Moved tokens are spelled as before. -/
theorem spelling_relocate (g : Location → Location) (ts : List Token) :
    spelling (ts.map (Token.relocate g)) = spelling ts := by
  rw [spelling, List.map_map]
  rfl

/-- **A written token reads back** as one token. -/
theorem tokenize_written {before after raw : List Char}
    (h : Stands before after t.kind t.lexeme.toList raw) :
    ∃ span, tokenize t.written = .ok [⟨t.kind, t.lexeme, span⟩] := by
  let span := Span.ofText .start (rawText t.kind t.lexeme.toList)
  have htoken : Tiling [⟨t.kind, t.lexeme, span⟩] (rawText t.kind t.lexeme.toList) [' '] :=
    .token .nil h.alone rfl
  refine ⟨span, tokenize_of_tiling ?_⟩
  rw [Token.written, String.toList_ofList]
  exact htoken.blank rfl

/-- **Written tokens read back**, one for each. -/
theorem tokenize_respell
    (h : ∀ t ∈ ts, ∃ before after raw, Stands before after t.kind t.lexeme.toList raw) :
    ∃ ts', tokenize (respell ts) = .ok ts' ∧ spelling ts' = spelling ts := by
  induction ts with
  | nil => exact ⟨[], tokenize_of_tiling (by simpa [respell] using Tiling.nil), rfl⟩
  | cons t rest ih =>
    obtain ⟨⟨before, after, raw, hstands⟩, hrest⟩ := List.forall_mem_cons.mp h
    obtain ⟨span, hfirst⟩ := tokenize_written hstands
    obtain ⟨ts', htokens, hspelling⟩ := ih hrest
    have hwhole : respell (t :: rest) = t.written ++ respell rest := by
      rw [respell, List.map_cons, String.join_cons, respell]
    refine ⟨_, hwhole ▸ tokenize_append hfirst htokens, ?_⟩
    exact congrArg ((t.kind, t.lexeme) :: ·) ((spelling_relocate _ ts').trans hspelling)

/-- Every token of a text stands somewhere in it. -/
theorem exists_stands_of_tokenize (h : tokenize source = .ok ts) :
    ∀ t ∈ ts, ∃ before after raw, Stands before after t.kind t.lexeme.toList raw :=
  (tokenize_eq_ok_iff.mp h).exists_stands

/-- **Written tokens read back as they were**, and no string has both quotes in it. What is written
is the same for texts that differ in layout only, and it tells all other texts apart. -/
theorem respell_normalForm (h : tokenize source = .ok ts) :
    (∃ ts', tokenize (respell ts) = .ok ts' ∧ spelling ts' = spelling ts) ∧
    (∀ t ∈ ts, t.kind = .string → ¬ ('"' ∈ t.lexeme.toList ∧ '\x27' ∈ t.lexeme.toList)) ∧
    ∀ source' ts', tokenize source' = .ok ts' →
      (respell ts' = respell ts ↔ spelling ts' = spelling ts) := by
  have hstands := exists_stands_of_tokenize h
  refine ⟨tokenize_respell hstands, ?_, ?_⟩
  · rintro t ht hkind ⟨hdouble, hsingle⟩
    obtain ⟨before, after, raw, htoken⟩ := hstands t ht
    rw [hkind] at htoken
    have hfree := htoken.quoteFor_notMem
    rw [quoteFor, if_pos hdouble] at hfree
    exact hfree hsingle
  · intro source' ts' h'
    refine ⟨fun hsame => ?_, respell_congr⟩
    obtain ⟨us, hus, hspelling⟩ := tokenize_respell hstands
    obtain ⟨us', hus', hspelling'⟩ := tokenize_respell (exists_stands_of_tokenize h')
    rw [hsame, hus] at hus'
    obtain rfl : us = us' := Except.ok.inj hus'
    exact hspelling'.symm.trans hspelling

/-- A text with strings in both quotes. -/
def quotedText : String := "s='it\"s'+\"it's\"\n+.5;"

/-- Another text with its tokens. -/
def spacedText : String := "s = 'it\"s' + \"it's\" + .5;"

/-- The kinds and lexemes of both. -/
def quotedSpelling : List (TokenKind × String) :=
  [(.name, "s"), (.equal, "="), (.string, "it\"s"), (.operator, "+"), (.string, "it's"),
    (.operator, "+"), (.number, ".5"), (.semicolon, ";")]

/-- The tokens are written with spaces, each string in the quotes that it needs, and read back. The
other text is written the same, as it has the same tokens. -/
theorem respell_normalForm_quotedText :
    ∃ ts ts' us, tokenize quotedText = .ok ts ∧ tokenize spacedText = .ok us ∧
      respell ts = "s = 'it\"s' + \"it's\" + .5 ; " ∧ tokenize (respell ts) = .ok ts' ∧
      spelling ts' = quotedSpelling ∧ respell us = respell ts := by
  obtain ⟨ts, hts, hspelling, htext⟩ : ∃ ts, tokenize quotedText = .ok ts ∧
      spelling ts = quotedSpelling ∧ respell ts = "s = 'it\"s' + \"it's\" + .5 ; " :=
    ⟨_, by cbv, by decide +kernel, by decide +kernel⟩
  obtain ⟨us, hus, hsame⟩ : ∃ us, tokenize spacedText = .ok us ∧ spelling us = quotedSpelling :=
    ⟨_, by cbv, by decide +kernel⟩
  obtain ⟨⟨ts', hts', hback⟩, -, hnormal⟩ := respell_normalForm hts
  refine ⟨ts, ts', us, hts, hus, htext, hts', hback.trans hspelling, ?_⟩
  exact (hnormal spacedText us hus).mpr (hsame.trans hspelling.symm)

end ScopeScript
