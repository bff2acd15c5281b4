import Mathlib.Data.List.TakeWhile
import ScopeScript.Token.Lexer

/-!
# Lexemes

How the tokens of each kind are written, and where they end. Numbers and names are runs of
characters of a class, so they end where the class does, while all other tokens end by themselves.
No character is in two classes, so what a text begins with is decided by its first character, and
a scan finds it or reports what is wrong with it.
-/

namespace ScopeScript

namespace Lexer

variable {l : Location} {e : LexError} {c : Char} {kind : TokenKind}
  {before rest raw after run lexeme : List Char}

/-! ## Classes of characters -/

/-- The characters of numbers are the digits and the point. -/
theorem isNumberChar_iff :
    isNumberChar c = true ↔ 48 ≤ c.toNat ∧ c.toNat ≤ 57 ∨ c.toNat = 46 := by
  simp [isNumberChar, Char.le_def, UInt32.le_iff_toNat_le, ← Char.toNat_inj]

/-- The characters of names are the letters and the underscore. -/
theorem isNameChar_iff :
    isNameChar c = true ↔
      (97 ≤ c.toNat ∧ c.toNat ≤ 122 ∨ 65 ≤ c.toNat ∧ c.toNat ≤ 90) ∨ c.toNat = 95 := by
  simp [isNameChar, Char.le_def, UInt32.le_iff_toNat_le, ← Char.toNat_inj]

/-- What the character of an operator is not. -/
theorem disjoint_operator (hc : isOperator c = true) :
    isSpace c = false ∧ isNumberChar c = false ∧ isNameChar c = false := by
  simp only [isOperator, Bool.or_eq_true, decide_eq_true_eq] at hc
  obtain ((((rfl | rfl) | rfl) | rfl) | rfl) | rfl := hc <;> decide

/-- What a punctuation character is not. -/
theorem disjoint_punctuation (hc : TokenKind.ofPunctuation? c = some kind) :
    isSpace c = false ∧ isOperator c = false ∧ isNumberChar c = false ∧ isNameChar c = false := by
  unfold TokenKind.ofPunctuation? at hc
  split at hc <;> cases hc <;> decide

/-- Punctuation is of a kind with one spelling. -/
theorem kind_ne_of_punctuation (hc : TokenKind.ofPunctuation? c = some kind) :
    kind ≠ .operator ∧ kind ≠ .string ∧ kind ≠ .number ∧ kind ≠ .name := by
  unfold TokenKind.ofPunctuation? at hc
  split at hc <;> cases hc <;> decide

/-- What a quote is not. -/
theorem disjoint_quote (hc : isQuote c = true) :
    isSpace c = false ∧ isOperator c = false ∧ TokenKind.ofPunctuation? c = none ∧
      isNumberChar c = false ∧ isNameChar c = false := by
  simp only [isQuote, Bool.or_eq_true, decide_eq_true_eq] at hc
  obtain rfl | rfl := hc <;> decide

/-- What white space is not. -/
theorem disjoint_space (hc : isSpace c = true) : isNumberChar c = false ∧ isNameChar c = false := by
  rw [← Bool.not_eq_true, ← Bool.not_eq_true, isNumberChar_iff, isNameChar_iff]
  simp [isSpace] at hc
  omega

/-- What the character of a number is not. -/
theorem disjoint_number (hc : isNumberChar c = true) :
    isSpace c = false ∧ isOperator c = false ∧ TokenKind.ofPunctuation? c = none ∧
      isQuote c = false ∧ isNameChar c = false := by
  refine ⟨?_, ?_, ?_, ?_, ?_⟩
  · exact Bool.eq_false_iff.mpr fun h => by simp [disjoint_space h] at hc
  · exact Bool.eq_false_iff.mpr fun h => by simp [disjoint_operator h] at hc
  · exact Option.eq_none_iff_forall_ne_some.mpr fun _ h => by simp [disjoint_punctuation h] at hc
  · exact Bool.eq_false_iff.mpr fun h => by simp [disjoint_quote h] at hc
  · rw [← Bool.not_eq_true, isNameChar_iff]
    rw [isNumberChar_iff] at hc
    omega

/-- What the character of a name is not. -/
theorem disjoint_name (hc : isNameChar c = true) :
    isSpace c = false ∧ isOperator c = false ∧ TokenKind.ofPunctuation? c = none ∧
      isQuote c = false ∧ isNumberChar c = false := by
  refine ⟨?_, ?_, ?_, ?_, ?_⟩
  · exact Bool.eq_false_iff.mpr fun h => by simp [disjoint_space h] at hc
  · exact Bool.eq_false_iff.mpr fun h => by simp [disjoint_operator h] at hc
  · exact Option.eq_none_iff_forall_ne_some.mpr fun _ h => by simp [disjoint_punctuation h] at hc
  · exact Bool.eq_false_iff.mpr fun h => by simp [disjoint_quote h] at hc
  · exact Bool.eq_false_iff.mpr fun h => by simp [disjoint_number h] at hc

/-! ## How tokens are written -/

/-- A longest stretch of characters of a class. -/
structure IsRun (p : Char → Bool) (before run after : List Char) : Prop where
  ne_nil : run ≠ []
  of_class : ∀ c ∈ run, p c = true
  starts : ∀ c ∈ before.getLast?, p c = false
  ends : ∀ c ∈ after.head?, p c = false

/-- The raw text of a token of a kind with a lexeme, between what stands before and after it. Runs
do not reach the end of the text. -/
inductive Stands (before after : List Char) : TokenKind → (lexeme raw : List Char) → Prop
  | operator {c : Char} : isOperator c = true → Stands before after .operator [c] [c]
  | punctuation {c : Char} {kind : TokenKind} : TokenKind.ofPunctuation? c = some kind →
    Stands before after kind [c] [c]
  | string {q : Char} {inner : List Char} : isQuote q = true → q ∉ inner →
    Stands before after .string inner (q :: (inner ++ [q]))
  | number {run : List Char} : IsRun isNumberChar before run after → after ≠ [] →
    run.count '.' ≤ 1 → Stands before after .number run run
  | name {run : List Char} : IsRun isNameChar before run after → after ≠ [] →
    Stands before after .name run run

/-- What is wrong with a text that begins with no token, behind what stands before it. -/
inductive Fault (before : List Char) : List Char → LexError → Prop
  | unrecognized {c : Char} {rest : List Char} : isSpace c = false → isOperator c = false →
    TokenKind.ofPunctuation? c = none → isQuote c = false → isNumberChar c = false →
    isNameChar c = false →
    Fault before (c :: rest)
      (.unrecognizedCharacter c (.ofText (Location.start.advance before) [c]))
  | string {q : Char} {rest : List Char} : isQuote q = true → q ∉ rest →
    Fault before (q :: rest) (.unterminatedString (.ofText (Location.start.advance before) [q]))
  | number {run after : List Char} : IsRun isNumberChar before run after →
    1 < run.count '.' ∨ after = [] →
    Fault before (run ++ after)
      (.malformedNumber (.ofList run) (.ofText (Location.start.advance before) run))
  | name {run : List Char} : IsRun isNameChar before run [] →
    Fault before run
      (.unterminatedIdentifier (.ofList run) (.ofText (Location.start.advance before) run))

/-- No run reaches over the boundary between two texts. -/
def Apart (before after : List Char) : Prop :=
  ∀ c ∈ before.getLast?, ∀ d ∈ after.head?,
    (isNumberChar c = true → isNumberChar d = false) ∧ (isNameChar c = true → isNameChar d = false)

/-- A number is the longest run of its characters, with one point at most. -/
theorem Stands.run_of_number (h : Stands before after .number lexeme raw) :
    IsRun isNumberChar before lexeme after ∧ lexeme.count '.' ≤ 1 := by
  cases h with
  | number hrun _ hpoints => exact ⟨hrun, hpoints⟩
  | punctuation hc => exact absurd rfl (kind_ne_of_punctuation hc).2.2.1

/-- A name is the longest run of its characters. -/
theorem Stands.run_of_name (h : Stands before after .name lexeme raw) :
    IsRun isNameChar before lexeme after := by
  cases h with
  | name hrun => exact hrun
  | punctuation hc => exact absurd rfl (kind_ne_of_punctuation hc).2.2.2

/-- No number reaches over a boundary. -/
theorem Apart.number (h : Apart before (c :: rest)) {d : Char} (hd : d ∈ before.getLast?)
    (hc : isNumberChar c = true) : isNumberChar d = false :=
  Bool.eq_false_iff.mpr fun hnumber => by simp [(h d hd c rfl).1 hnumber] at hc

/-- No name reaches over a boundary. -/
theorem Apart.name (h : Apart before (c :: rest)) {d : Char} (hd : d ∈ before.getLast?)
    (hc : isNameChar c = true) : isNameChar d = false :=
  Bool.eq_false_iff.mpr fun hname => by simp [(h d hd c rfl).2 hname] at hc

/-! ## Runs -/

/-- A run is what its class takes from the front. -/
theorem IsRun.takeWhile {p : Char → Bool} (h : IsRun p before (c :: run) after) :
    (run ++ after).takeWhile p = run := by
  rw [List.takeWhile_append_of_pos fun d hd => h.of_class d (List.mem_cons_of_mem c hd)]
  cases after with
  | nil => simp
  | cons d rest => simp [h.ends d rfl]

/-- What follows a run is what its class leaves. -/
theorem IsRun.dropWhile {p : Char → Bool} (h : IsRun p before (c :: run) after) :
    (run ++ after).dropWhile p = after := by
  rw [List.dropWhile_append_of_pos fun d hd => h.of_class d (List.mem_cons_of_mem c hd)]
  cases after with
  | nil => rfl
  | cons d rest => simp [h.ends d rfl]

/-- The longest stretch at the front of a text is a run where the text before it ends. -/
theorem isRun_takeWhile {p : Char → Bool} (hc : p c = true)
    (hstarts : ∀ d ∈ before.getLast?, p d = false) (rest : List Char) :
    IsRun p before (c :: rest.takeWhile p) (rest.dropWhile p) where
  ne_nil := List.cons_ne_nil c _
  of_class d hd := by
    obtain rfl | hd := List.mem_cons.mp hd
    · exact hc
    · exact List.mem_takeWhile_imp hd
  starts := hstarts
  ends d hd := by
    have := List.head?_dropWhile_not p rest
    rw [Option.mem_def.mp hd] at this
    simpa using this

/-! ## Scanning by class -/

/-- White space is passed over. -/
theorem scan_of_isSpace (hc : isSpace c = true) (l : Location) (rest : List Char) :
    scan l c rest = .ok (.blank, [c], rest) := by
  rw [scan, if_pos hc]

/-- An operator is a token of one character. -/
theorem scan_of_isOperator (hc : isOperator c = true) (l : Location) (rest : List Char) :
    scan l c rest = .ok (.token .operator [c], [c], rest) := by
  simp [scan, disjoint_operator hc, hc]

/-- A punctuation mark is a token of one character. -/
theorem scan_of_ofPunctuation? (hc : TokenKind.ofPunctuation? c = some kind) (l : Location)
    (rest : List Char) : scan l c rest = .ok (.token kind [c], [c], rest) := by
  simp [scan, disjoint_punctuation hc, hc]

/-- A number goes as far as its characters do, and not to the end of the text. -/
theorem scan_of_isNumberChar (hc : isNumberChar c = true) (l : Location) (rest : List Char) :
    scan l c rest =
      if 1 < (c :: rest.takeWhile isNumberChar).count '.' ∨ rest.dropWhile isNumberChar = [] then
        .error (.malformedNumber (.ofList (c :: rest.takeWhile isNumberChar))
          (.ofText l (c :: rest.takeWhile isNumberChar)))
      else
        .ok (.token .number (c :: rest.takeWhile isNumberChar), c :: rest.takeWhile isNumberChar,
          rest.dropWhile isNumberChar) := by
  simp [scan, disjoint_number hc, hc]

/-- A name goes as far as its characters do, and not to the end of the text. -/
theorem scan_of_isNameChar (hc : isNameChar c = true) (l : Location) (rest : List Char) :
    scan l c rest =
      if rest.dropWhile isNameChar = [] then
        .error (.unterminatedIdentifier (.ofList (c :: rest.takeWhile isNameChar))
          (.ofText l (c :: rest.takeWhile isNameChar)))
      else
        .ok (.token .name (c :: rest.takeWhile isNameChar), c :: rest.takeWhile isNameChar,
          rest.dropWhile isNameChar) := by
  simp [scan, disjoint_name hc, hc]

/-- No character of a text is one that it does not have. -/
theorem bne_of_notMem {inner : List Char} (hinner : c ∉ inner) :
    ∀ d ∈ inner, (d != c) = true := by
  rintro d hd
  exact bne_iff_ne.mpr (ne_of_mem_of_not_mem hd hinner)

/-- The text behind a quote is cut at the next such quote. -/
theorem takeWhile_quote {inner : List Char} (hinner : c ∉ inner) (after : List Char) :
    (inner ++ c :: after).takeWhile (· != c) = inner := by
  rw [List.takeWhile_append_of_pos (bne_of_notMem hinner)]
  simp

/-- A string leaves its closing quote and what follows. -/
theorem dropWhile_quote {inner : List Char} (hinner : c ∉ inner) (after : List Char) :
    (inner ++ c :: after).dropWhile (· != c) = c :: after := by
  rw [List.dropWhile_append_of_pos (bne_of_notMem hinner)]
  simp

/-- A string goes to the next quote of its kind. -/
theorem scan_of_mem_quote (hc : isQuote c = true) (l : Location) {inner : List Char}
    (hinner : c ∉ inner) (after : List Char) :
    scan l c (inner ++ c :: after) = .ok (.token .string inner, c :: (inner ++ [c]), after) := by
  simp [scan, disjoint_quote hc, hc, takeWhile_quote hinner, dropWhile_quote hinner]

/-- A string without a closing quote is an error at its opening quote. -/
theorem scan_of_notMem_quote (hc : isQuote c = true) (l : Location) (hrest : c ∉ rest) :
    scan l c rest = .error (.unterminatedString (.ofText l [c])) := by
  simp [scan, disjoint_quote hc, hc, List.dropWhile_eq_nil_iff.mpr (bne_of_notMem hrest)]

/-! ## What a scan finds -/

/-- **A token is found** where its raw text stands. -/
theorem scan_of_stands (h : Stands before after kind lexeme (c :: raw)) (l : Location) :
    scan l c (raw ++ after) = .ok (.token kind lexeme, c :: raw, after) := by
  generalize hall : c :: raw = all at h
  cases h with
  | operator hc =>
    cases hall
    exact scan_of_isOperator hc l after
  | punctuation hc =>
    cases hall
    exact scan_of_ofPunctuation? hc l after
  | string hq hinner =>
    cases hall
    rw [List.append_assoc, List.singleton_append, scan_of_mem_quote hq l hinner after]
  | number hrun hafter hcount =>
    subst hall
    have hc := hrun.of_class c List.mem_cons_self
    rw [scan_of_isNumberChar hc, hrun.takeWhile, hrun.dropWhile,
      if_neg (not_or.mpr ⟨Nat.not_lt.mpr hcount, hafter⟩)]
  | name hrun hafter =>
    subst hall
    have hc := hrun.of_class c List.mem_cons_self
    rw [scan_of_isNameChar hc, hrun.takeWhile, hrun.dropWhile, if_neg hafter]

/-- A fault is reported where it is. -/
theorem scan_of_fault (h : Fault before (c :: rest) e) :
    scan (Location.start.advance before) c rest = .error e := by
  generalize hall : c :: rest = all at h
  cases h with
  | unrecognized hspace hoperator hpunctuation hquote hnumber hname =>
    cases hall
    simp [scan, *]
  | string hq hrest =>
    cases hall
    exact scan_of_notMem_quote hq _ hrest
  | @number run after hrun hfault =>
    obtain ⟨d, run, rfl⟩ := List.exists_cons_of_ne_nil hrun.ne_nil
    rw [List.cons_append] at hall
    cases hall
    have hc := hrun.of_class c List.mem_cons_self
    rw [scan_of_isNumberChar hc, hrun.takeWhile, hrun.dropWhile, if_pos hfault]
  | name hrun =>
    subst hall
    have hc := hrun.of_class c List.mem_cons_self
    have htake := hrun.takeWhile
    have hdrop := hrun.dropWhile
    rw [List.append_nil] at htake hdrop
    rw [scan_of_isNameChar hc, htake, hdrop, if_pos rfl]

/-- **What a scan finds** where no run reaches over from before: white space, a token or a
fault. -/
theorem scan_cases (hapart : Apart before (c :: rest)) :
    isSpace c = true ∨
      (∃ kind lexeme raw after, raw ++ after = c :: rest ∧
        Stands before after kind lexeme raw) ∨
      ∃ e, Fault before (c :: rest) e := by
  by_cases hspace : isSpace c = true
  · exact .inl hspace
  by_cases hoperator : isOperator c = true
  · exact .inr (.inl ⟨_, _, [c], rest, rfl, .operator hoperator⟩)
  cases hpunctuation : TokenKind.ofPunctuation? c with
  | some kind => exact .inr (.inl ⟨kind, _, [c], rest, rfl, .punctuation hpunctuation⟩)
  | none =>
    by_cases hquote : isQuote c = true
    · by_cases hrest : c ∈ rest
      · obtain ⟨inner, after, rfl, hinner⟩ := List.eq_append_cons_of_mem hrest
        exact .inr (.inl ⟨_, inner, c :: (inner ++ [c]), after, by simp, .string hquote hinner⟩)
      · exact .inr (.inr ⟨_, .string hquote hrest⟩)
    by_cases hnumber : isNumberChar c = true
    · have hrun := isRun_takeWhile hnumber (fun d hd => hapart.number hd hnumber) rest
      have hall := List.takeWhile_append_dropWhile (p := isNumberChar) (l := rest)
      by_cases hfault : 1 < (c :: rest.takeWhile isNumberChar).count '.' ∨
          rest.dropWhile isNumberChar = []
      · have := Fault.number hrun hfault
        rw [List.cons_append, hall] at this
        exact .inr (.inr ⟨_, this⟩)
      · obtain ⟨hcount, hafter⟩ := not_or.mp hfault
        exact .inr (.inl ⟨_, _, _, _, by rw [List.cons_append, hall],
          .number hrun hafter (Nat.not_lt.mp hcount)⟩)
    by_cases hname : isNameChar c = true
    · have hrun := isRun_takeWhile hname (fun d hd => hapart.name hd hname) rest
      have hall := List.takeWhile_append_dropWhile (p := isNameChar) (l := rest)
      by_cases hafter : rest.dropWhile isNameChar = []
      · rw [hafter, List.append_nil] at hall
        rw [hafter, hall] at hrun
        exact .inr (.inr ⟨_, .name hrun⟩)
      · exact .inr (.inl ⟨_, _, _, _, by rw [List.cons_append, hall], .name hrun hafter⟩)
    simp only [Bool.not_eq_true] at hspace hoperator hquote hnumber hname
    exact .inr (.inr ⟨_, .unrecognized hspace hoperator hpunctuation hquote hnumber hname⟩)

end Lexer

end ScopeScript
