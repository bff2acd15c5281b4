import ScopeScript.Proofs.Source.Shift
import ScopeScript.Token.Lexer

/-!
# Tokens of joined texts

A text that has tokens keeps them when another text follows: no lexeme runs into the end of a
text that has tokens, so none can grow. What is found in the text that follows, its tokens or the
fault that ends the scan, is what is found in it alone, moved to where it starts.
-/

namespace ScopeScript

/-- A token at another place. -/
def Token.relocate (g : Location → Location) (t : Token) : Token :=
  ⟨t.kind, t.lexeme, t.span.relocate g⟩

/-- The span of a token that is moved is moved. -/
@[simp] theorem Token.span_relocate (g : Location → Location) (t : Token) :
    (t.relocate g).span = t.span.relocate g := rfl

/-- An error at another place. -/
def LexError.relocate (g : Location → Location) : LexError → LexError
  | unterminatedString span => unterminatedString (span.relocate g)
  | malformedNumber text span => malformedNumber text (span.relocate g)
  | unterminatedIdentifier text span => unterminatedIdentifier text (span.relocate g)
  | unrecognizedCharacter c span => unrecognizedCharacter c (span.relocate g)

namespace Lexer

variable {l : Location} {c : Char} {rest raw after : List Char} {lexeme : Lexeme}

/-- A run of characters that ends within a text ends there too if more text follows. -/
theorem dropWhile_append_of_ne_nil {p : Char → Bool} {text : List Char}
    (h : text.dropWhile p ≠ []) (more : List Char) :
    (text ++ more).dropWhile p = text.dropWhile p ++ more := by
  rw [List.dropWhile_append, if_neg (by simpa using h)]

/-- What a class takes from the front if it stops before the end. -/
theorem takeWhile_append_of_ne_nil {p : Char → Bool} {text : List Char}
    (h : text.dropWhile p ≠ []) (more : List Char) :
    (text ++ more).takeWhile p = text.takeWhile p := by
  have hlength : (text.takeWhile p).length ≠ text.length := by
    intro heq
    have hall := congrArg List.length (List.takeWhile_append_dropWhile (p := p) (l := text))
    rw [List.length_append, heq] at hall
    exact h (List.length_eq_zero_iff.mp (by omega))
  rw [List.takeWhile_append, if_neg hlength]

/-- The first lexeme of a text does not depend on where the text starts, nor on what follows. -/
theorem scan_append (h : scan l c rest = .ok (lexeme, raw, after)) (l' : Location)
    (more : List Char) : scan l' c (rest ++ more) = .ok (lexeme, raw, after ++ more) := by
  unfold scan at h ⊢
  by_cases hspace : isSpace c
  · rw [if_pos hspace] at h ⊢
    cases h
    rfl
  rw [if_neg hspace] at h ⊢
  by_cases hoperator : isOperator c
  · rw [if_pos hoperator] at h ⊢
    cases h
    rfl
  rw [if_neg hoperator] at h ⊢
  cases hpunctuation : TokenKind.ofPunctuation? c with
  | some kind =>
    simp only [hpunctuation] at h ⊢
    cases h
    rfl
  | none =>
    simp only [hpunctuation] at h ⊢
    by_cases hquote : isQuote c
    · rw [if_pos hquote] at h ⊢
      -- A string ends within the text: otherwise there would be no closing quote.
      have hends : rest.dropWhile (· != c) ≠ [] := by
        intro hnil
        simp [hnil] at h
      rw [dropWhile_append_of_ne_nil hends, takeWhile_append_of_ne_nil hends]
      cases hdrop : rest.dropWhile (· != c) with
      | nil => exact absurd hdrop hends
      | cons q behind =>
        rw [hdrop] at h
        cases h
        rfl
    rw [if_neg hquote] at h ⊢
    by_cases hnumber : isNumberChar c
    · rw [if_pos hnumber] at h ⊢
      have hends : rest.dropWhile isNumberChar ≠ [] := by
        intro hnil
        simp [hnil] at h
      rw [dropWhile_append_of_ne_nil hends, takeWhile_append_of_ne_nil hends]
      split at h
      · cases h
      · next hok =>
        cases h
        rw [if_neg]
        simpa [hends] using hok
    rw [if_neg hnumber] at h ⊢
    by_cases hname : isNameChar c
    · rw [if_pos hname] at h ⊢
      have hends : rest.dropWhile isNameChar ≠ [] := by
        intro hnil
        simp [hnil] at h
      rw [dropWhile_append_of_ne_nil hends, takeWhile_append_of_ne_nil hends]
      split at h
      · cases h
      · cases h
        rw [if_neg (by simp [hends])]
    rw [if_neg hname] at h
    cases h

/-- A text that starts elsewhere begins with the same lexeme, or with the same fault at its place.
-/
theorem scan_shift (d : Location) (hl : l.IsPlace) (c : Char) (rest : List Char) :
    scan (.shift d l) c rest = (scan l c rest).mapError (.relocate (.shift d)) := by
  simp only [scan, ← Span.relocate_ofText d hl]
  split
  · rfl
  split
  · rfl
  split
  · rfl
  split
  · split <;> rfl
  split
  · split <;> rfl
  split
  · split <;> rfl
  · rfl

/-! ## Whole texts -/

variable {found ts : List Token} {text : List Char}

/-- A token that is read is added to those found. -/
theorem tokensFrom_cons (h : scan l c rest = .ok (lexeme, raw, after)) (found : List Token) :
    tokensFrom l found (c :: rest) =
      tokensFrom (l.advance raw) (addToken l raw found lexeme) after := by
  rw [tokensFrom]
  split
  · next e he => simp [h] at he
  · next he =>
    rw [h] at he
    cases he
    rfl

/-- An error of the scanner is that of the text. -/
theorem tokensFrom_of_error {e : LexError} (h : scan l c rest = .error e) (found : List Token) :
    tokensFrom l found (c :: rest) = .error e := by
  rw [tokensFrom]
  split
  · next he =>
    rw [h] at he
    cases he
    rfl
  · next he => simp [h] at he

/-- If a text has tokens, its first one can be read. -/
theorem exists_scan_of_tokensFrom (h : tokensFrom l found (c :: rest) = .ok ts) :
    ∃ lexeme raw after, scan l c rest = .ok (lexeme, raw, after) := by
  cases hscan : scan l c rest with
  | error e => simp [tokensFrom_of_error hscan] at h
  | ok p => exact ⟨p.1, p.2.1, p.2.2, rfl⟩

/-- The tokens of a text that has tokens come first in every text that goes on behind it. -/
theorem tokensFrom_append (h : tokensFrom l found text = .ok ts) (more : List Char) :
    tokensFrom l found (text ++ more) = tokensFrom (l.advance text) ts.reverse more := by
  induction hn : text.length using Nat.strongRecOn generalizing text l found with
  | _ n ih =>
    cases text with
    | nil =>
      rw [tokensFrom] at h
      cases h
      rw [List.nil_append, Location.advance_nil, List.reverse_reverse]
    | cons c rest =>
      obtain ⟨lexeme, raw, after, hscan⟩ := exists_scan_of_tokensFrom h
      have hlt := length_lt_of_scan hscan
      rw [tokensFrom_cons hscan] at h
      rw [List.cons_append, tokensFrom_cons (scan_append hscan l more)]
      rw [ih after.length (hn ▸ hlt) h rfl, ← Location.advance_append, raw_append_of_scan hscan]

/-- The same is found in a text wherever it starts, at other places and behind whatever was found
before. -/
theorem tokensFrom_shift (d : Location) (hl : l.IsPlace) (found before : List Token)
    (text : List Char) :
    tokensFrom (.shift d l) (found.map (Token.relocate (.shift d)) ++ before) text =
      ((tokensFrom l found text).map fun ts =>
        before.reverse ++ ts.map (Token.relocate (.shift d))).mapError (.relocate (.shift d)) := by
  induction hn : text.length using Nat.strongRecOn generalizing text l found with
  | _ n ih =>
    cases text with
    | nil =>
      rw [tokensFrom, tokensFrom]
      exact congrArg Except.ok (by simp)
    | cons c rest =>
      have hshift := scan_shift d hl c rest
      cases hscan : scan l c rest with
      | error e =>
        rw [hscan] at hshift
        rw [tokensFrom_of_error hscan, tokensFrom_of_error hshift]
        rfl
      | ok p =>
        obtain ⟨lexeme, raw, after⟩ := p
        have hlt := length_lt_of_scan hscan
        have hadd :
            addToken (.shift d l) raw (found.map (Token.relocate (.shift d)) ++ before) lexeme =
            (addToken l raw found lexeme).map (Token.relocate (.shift d)) ++ before := by
          cases lexeme with
          | blank => rfl
          | token kind text => simp [addToken, Token.relocate, Span.relocate_ofText d hl]
        rw [hscan] at hshift
        rw [tokensFrom_cons hscan, tokensFrom_cons hshift, hadd, ← Location.shift_advance d hl]
        exact ih after.length (hn ▸ hlt) (hl.advance raw) _ _ rfl

end Lexer

/-- What is found in a text that starts at `d`, behind other tokens. -/
theorem tokensFrom_eq_tokenize (d : Location) (before : List Token) (source : String) :
    Lexer.tokensFrom d before source.toList =
      ((tokenize source).map fun ts =>
        before.reverse ++ ts.map (Token.relocate (.shift d))).mapError (.relocate (.shift d)) :=
  Lexer.tokensFrom_shift d Location.isPlace_start [] before source.toList

/-- **Tokens of two texts joined**: those of the first, and those of the second moved behind it. -/
theorem tokenize_append {source source' : String} {ts ts' : List Token}
    (h : tokenize source = .ok ts) (h' : tokenize source' = .ok ts') :
    tokenize (source ++ source') =
      .ok (ts ++ ts'.map (Token.relocate (.shift (Location.start.advance source.toList)))) := by
  rw [tokenize, String.toList_append, Lexer.tokensFrom_append h, tokensFrom_eq_tokenize, h',
    List.reverse_reverse]
  rfl

/-- **Tokenizing goes on behind a text that has tokens.** The text that follows is tokenized as if
it started at the place reached there: its tokens come behind those of the first text, and its
error is the error of both. They are the tokens and the error that it has alone, moved. -/
theorem tokenize_joined {source : String} {ts : List Token} (h : tokenize source = .ok ts)
    (source' : String) :
    tokenize (source ++ source') =
      (Lexer.tokensFrom (Location.start.advance source.toList) [] source'.toList).map (ts ++ ·) ∧
    (∀ ts', tokenize source' = .ok ts' → tokenize (source ++ source') =
      .ok (ts ++ ts'.map (Token.relocate (.shift (Location.start.advance source.toList))))) ∧
    ∀ e, tokenize source' = .error e → tokenize (source ++ source') =
      .error (e.relocate (.shift (Location.start.advance source.toList))) := by
  have hjoined : tokenize (source ++ source') =
      Lexer.tokensFrom (Location.start.advance source.toList) ts.reverse source'.toList := by
    rw [tokenize, String.toList_append, Lexer.tokensFrom_append h]
  rw [hjoined, tokensFrom_eq_tokenize, tokensFrom_eq_tokenize, List.reverse_reverse]
  cases tokenize source' with
  | ok ts' =>
    refine ⟨rfl, ?_, nofun⟩
    rintro _ ⟨⟩
    rfl
  | error e =>
    refine ⟨rfl, nofun, ?_⟩
    rintro _ ⟨⟩
    rfl

/-- A text that ends on its second line. -/
def endsOnSecondLine : String := "x = 'a\n'; "

/-- What follows it goes on there, with a token or with a fault. -/
theorem tokenize_joined_secondLine :
    ∃ ts, tokenize endsOnSecondLine = .ok ts ∧
      (∃ ts', tokenize "y;" = .ok ts' ∧ tokenize (endsOnSecondLine ++ "y;") =
        .ok (ts ++ ts'.map (Token.relocate (.shift ⟨2, 4⟩)))) ∧
      ∃ e, tokenize "y" = .error e ∧
        tokenize (endsOnSecondLine ++ "y") = .error (e.relocate (.shift ⟨2, 4⟩)) := by
  have hplace : Location.start.advance endsOnSecondLine.toList = ⟨2, 4⟩ := by decide +kernel
  obtain ⟨ts, h⟩ : ∃ ts, tokenize endsOnSecondLine = .ok ts := ⟨_, by cbv⟩
  obtain ⟨ts', h'⟩ : ∃ ts', tokenize "y;" = .ok ts' := ⟨_, by cbv⟩
  obtain ⟨e, he⟩ : ∃ e, tokenize "y" = .error e := ⟨_, by cbv⟩
  refine ⟨ts, h, ⟨ts', h', ?_⟩, e, he, ?_⟩
  · rw [← hplace]
    exact (tokenize_joined h "y;").2.1 ts' h'
  · rw [← hplace]
    exact (tokenize_joined h "y").2.2 e he

/-- A name that runs into the end of a text goes on in the text that follows. -/
example : (tokenize "x").isOk = false ∧
    (tokenize ("x" ++ "y;")).toOption.map (·.map Token.lexeme) = some ["xy", ";"] := by
  decide +kernel

end ScopeScript
