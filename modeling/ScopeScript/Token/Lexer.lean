import ScopeScript.Token.Basic
import ScopeScript.Text.Space

/-!
# From source text to tokens

White space separates tokens and is dropped. Operators and punctuation are single characters,
a string runs to the next quote like its first one, and numbers and names are the longest runs
of their characters. Neither may run into the end of the text, and a number has at most one
point. The first fault ends the scan.

A scan step returns what is left of the text with a proof that it is shorter, which is why
scanning ends.
-/

namespace ScopeScript

/-- Why a source text has no tokens. -/
inductive LexError where
  | unterminatedString (span : Span)
  | malformedNumber (text : String) (span : Span)
  | unterminatedIdentifier (text : String) (span : Span)
  | unrecognizedCharacter (c : Char) (span : Span)
  deriving Repr, DecidableEq

namespace LexError

/-- The error in words. -/
def message : LexError → String
  | unterminatedString span => s!"unterminated string starting at {span.text}"
  | malformedNumber text span => s!"malformed number '{text}' at {span.text}"
  | unterminatedIdentifier text span =>
    s!"identifier '{text}' runs into the end of input at {span.text}"
  | unrecognizedCharacter c span => s!"unrecognized character '{c}' at {span.text}"

/-- The place that an error points at. -/
def span : LexError → Span
  | unterminatedString span => span
  | malformedNumber _ span => span
  | unterminatedIdentifier _ span => span
  | unrecognizedCharacter _ span => span

end LexError

namespace Lexer

/-- Characters that are operators. -/
def isOperator (c : Char) : Bool :=
  c = '+' || c = '-' || c = '*' || c = '/' || c = '<' || c = '>'

/-- Characters that open and close strings. -/
def isQuote (c : Char) : Bool := c = '"' || c = '\x27'

/-- Characters of numbers. -/
def isNumberChar (c : Char) : Bool := ('0' ≤ c && c ≤ '9') || c = '.'

/-- Characters of names. -/
def isNameChar (c : Char) : Bool := ('a' ≤ c && c ≤ 'z') || ('A' ≤ c && c ≤ 'Z') || c = '_'

/-- What stands at the front of a text. -/
inductive Lexeme where
  | blank
  | token (kind : TokenKind) (lexeme : List Char)

/-- The first lexeme of `c :: rest`, the raw text it takes, and what follows it. -/
def scan (l : Location) (c : Char) (rest : List Char) :
    Except LexError (Lexeme × List Char × List Char) :=
  if isSpace c then .ok (.blank, [c], rest)
  else if isOperator c then .ok (.token .operator [c], [c], rest)
  else
    match TokenKind.ofPunctuation? c with
    | some kind => .ok (.token kind [c], [c], rest)
    | none =>
      if isQuote c then
        match rest.dropWhile (· != c) with
        | [] => .error (.unterminatedString (.ofText l [c]))
        | _ :: after =>
          let inner := rest.takeWhile (· != c)
          .ok (.token .string inner, c :: inner ++ [c], after)
      else if isNumberChar c then
        let run := c :: rest.takeWhile isNumberChar
        let after := rest.dropWhile isNumberChar
        if run.count '.' > 1 || after.isEmpty then
          .error (.malformedNumber (.ofList run) (.ofText l run))
        else .ok (.token .number run, run, after)
      else if isNameChar c then
        let run := c :: rest.takeWhile isNameChar
        let after := rest.dropWhile isNameChar
        if after.isEmpty then .error (.unterminatedIdentifier (.ofList run) (.ofText l run))
        else .ok (.token .name run, run, after)
      else .error (.unrecognizedCharacter c (.ofText l [c]))

/-- The raw text of the first lexeme and what follows it make up the text. -/
theorem raw_append_of_scan {l : Location} {c : Char} {rest raw after : List Char}
    {lexeme : Lexeme} (h : scan l c rest = .ok (lexeme, raw, after)) :
    raw ++ after = c :: rest := by
  unfold scan at h
  split at h
  · cases h; rfl
  split at h
  · cases h; rfl
  split at h
  · cases h; rfl
  split at h
  · split at h
    · cases h
    · rename_i q r hq
      cases h
      have hc : q = c := by
        have := List.head?_dropWhile_not (· != c) rest
        rw [hq] at this
        simpa using this
      have := List.takeWhile_append_dropWhile (p := (· != c)) (l := rest)
      rw [hq, hc] at this
      simp [this]
  split at h
  · simp only at h
    split at h
    · cases h
    · cases h; simp
  split at h
  · simp only at h
    split at h
    · cases h
    · cases h; simp
  · cases h

/-- The raw text of a lexeme is not empty. -/
theorem raw_ne_nil_of_scan {l : Location} {c : Char} {rest raw after : List Char}
    {lexeme : Lexeme} (h : scan l c rest = .ok (lexeme, raw, after)) : raw ≠ [] := by
  unfold scan at h
  split at h
  · cases h; simp
  split at h
  · cases h; simp
  split at h
  · cases h; simp
  split at h
  · split at h
    · cases h
    · cases h; simp
  split at h
  · simp only at h
    split at h
    · cases h
    · cases h; simp
  split at h
  · simp only at h
    split at h
    · cases h
    · cases h; simp
  · cases h

/-- What follows the first lexeme is shorter than the text. -/
theorem length_lt_of_scan {l : Location} {c : Char} {rest raw after : List Char}
    {lexeme : Lexeme} (h : scan l c rest = .ok (lexeme, raw, after)) :
    after.length < (c :: rest).length := by
  rw [← raw_append_of_scan h, List.length_append]
  have := List.length_pos_iff.2 (raw_ne_nil_of_scan h)
  omega

/-- Put the token of a lexeme in front of the tokens found before it. -/
def addToken (l : Location) (raw : List Char) (found : List Token) : Lexeme → List Token
  | .blank => found
  | .token kind lexeme => ⟨kind, .ofList lexeme, .ofText l raw⟩ :: found

/-- The tokens of a text that starts at `l`, behind those found before it, latest first. -/
def tokensFrom (l : Location) (found : List Token) (text : List Char) :
    Except LexError (List Token) :=
  match text with
  | [] => .ok found.reverse
  | c :: rest =>
    match h : scan l c rest with
    | .error e => .error e
    | .ok (lexeme, raw, after) =>
      have := length_lt_of_scan h
      tokensFrom (l.advance raw) (addToken l raw found lexeme) after
termination_by text.length
decreasing_by assumption

end Lexer

/-- The tokens of a source text. -/
def tokenize (source : String) : Except LexError (List Token) :=
  Lexer.tokensFrom .start [] source.toList

end ScopeScript
