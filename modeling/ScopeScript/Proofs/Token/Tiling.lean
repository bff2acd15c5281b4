import ScopeScript.Proofs.Token.Append
import ScopeScript.Proofs.Token.Lexeme

/-!
# Tiling a source text

The raw texts of the tokens of a source text, with white space between them, make up the whole
text, and numbers and names are longest runs. There is one list of tokens like that, or there is
a place up to which the text is tiled and where no token stands. Places are ordered like the
characters in front of them, so a span tells which stretch of the text it is of.
-/

namespace ScopeScript

/-! ## Places of a text -/

namespace Location

/-- The order of the places of a text: by line, then by column. -/
def Precedes (l l' : Location) : Prop :=
  l.line < l'.line ∨ l.line = l'.line ∧ l.column < l'.column

variable {l l' l'' : Location}

/-- Places are ordered. -/
theorem Precedes.trans (h : l.Precedes l') (h' : l'.Precedes l'') : l.Precedes l'' := by
  simp only [Precedes] at *
  omega

/-- No place precedes itself. -/
theorem Precedes.ne (h : l.Precedes l') : l ≠ l' := by
  rintro rfl
  simp [Precedes] at h

/-- A place precedes the one behind the next character. -/
theorem precedes_next (l : Location) (c : Char) : l.Precedes (l.next c) := by
  rw [next]
  split
  · exact .inl (Nat.lt_succ_self _)
  · exact .inr ⟨rfl, Nat.lt_succ_self _⟩

/-- Reading goes on to later places. -/
theorem precedes_advance (l : Location) {text : List Char} (h : text ≠ []) :
    l.Precedes (l.advance text) := by
  induction text generalizing l with
  | nil => exact absurd rfl h
  | cons c rest ih =>
    cases rest with
    | nil => exact precedes_next l c
    | cons d rest => exact (precedes_next l c).trans (ih (l.next c) (List.cons_ne_nil d rest))

/-- The places between the characters of a text ascend. -/
theorem precedes_advance_take (l : Location) {text : List Char} {i j : Nat} (hlt : i < j)
    (hle : j ≤ text.length) : (l.advance (text.take i)).Precedes (l.advance (text.take j)) := by
  obtain ⟨n, rfl⟩ := Nat.exists_eq_add_of_lt hlt
  rw [Nat.add_assoc, List.take_add, advance_append]
  refine precedes_advance _ fun hnil => ?_
  have hlength := congrArg List.length hnil
  simp only [List.length_take, List.length_drop, List.length_nil] at hlength
  omega

/-- Only behind no text one is where one was. -/
theorem eq_nil_of_advance_eq {l : Location} {text : List Char} (h : l.advance text = l) :
    text = [] := by
  by_contra htext
  exact (precedes_advance l htext).ne h.symm

/-- The beginnings of a text are told apart by where they end. -/
theorem eq_of_advance_eq {l : Location} {text s t : List Char} (hs : s <+: text) (ht : t <+: text)
    (h : l.advance s = l.advance t) : s = t := by
  obtain ⟨more, rfl⟩ | ⟨more, rfl⟩ := List.prefix_or_prefix_of_prefix hs ht
  · rw [Location.advance_append] at h
    rw [eq_nil_of_advance_eq h.symm, List.append_nil]
  · rw [Location.advance_append] at h
    rw [eq_nil_of_advance_eq h, List.append_nil]

end Location

/-- **A span tells its text**: what of a text has a span, and where. -/
theorem Span.eq_of_ofText_eq {l : Location} {before raw after before' raw' after' : List Char}
    (htext : before ++ raw ++ after = before' ++ raw' ++ after')
    (h : ofText (l.advance before) raw = ofText (l.advance before') raw') :
    before = before' ∧ raw = raw' := by
  obtain ⟨hstart, hstop⟩ := Span.mk.inj h
  rw [← Location.advance_append, ← Location.advance_append] at hstop
  have hraw : before ++ raw = before' ++ raw' :=
    Location.eq_of_advance_eq ⟨after, rfl⟩ ⟨after', htext.symm⟩ hstop
  have hbefore : before = before' :=
    Location.eq_of_advance_eq ⟨raw, rfl⟩ ⟨raw', hraw.symm⟩ hstart
  subst hbefore
  exact ⟨rfl, List.append_cancel_left hraw⟩

namespace Lexer

variable {c : Char} {kind : TokenKind} {ts : List Token} {e : LexError}
  {text rest rest' raw lexeme : List Char}

/-! ## Boundaries -/

/-- White space keeps runs apart. -/
theorem apart_of_isSpace (hc : isSpace c = true) (text rest : List Char) :
    Apart (text ++ [c]) rest := by
  intro d hd _ _
  obtain rfl : c = d := by simpa using hd
  simp [disjoint_space hc]

/-- A space keeps runs apart. -/
theorem apart_space (text : List Char) : Apart text [' '] := by
  intro _ _ d hd
  obtain rfl : ' ' = d := by simpa using hd
  exact ⟨fun _ => rfl, fun _ => rfl⟩

/-- No token is made of no characters. -/
theorem Stands.ne_nil (h : Stands text rest kind lexeme raw) : raw ≠ [] := by
  cases h with
  | operator | punctuation | string => exact List.cons_ne_nil _ _
  | number hrun | name hrun => exact hrun.ne_nil

/-- The last character of a token, and what cannot follow it. -/
theorem Stands.last (h : Stands text rest kind lexeme (raw ++ [c])) :
    isSpace c = false ∧ (isNumberChar c = true → ∀ d ∈ rest.head?, isNumberChar d = false) ∧
      (isNameChar c = true → ∀ d ∈ rest.head?, isNameChar d = false) := by
  generalize hall : raw ++ [c] = all at h
  have hlast := congrArg List.getLast? hall
  rw [List.getLast?_concat] at hlast
  cases h with
  | operator hc =>
    cases hlast
    simp [disjoint_operator hc]
  | punctuation hc =>
    cases hlast
    simp [disjoint_punctuation hc]
  | string hq hinner =>
    rw [← List.cons_append, List.getLast?_concat] at hlast
    cases hlast
    simp [disjoint_quote hq]
  | number hrun =>
    have hc := hrun.of_class c (by simp [← hall])
    exact ⟨(disjoint_number hc).1, fun _ => hrun.ends, by simp [disjoint_number hc]⟩
  | name hrun =>
    have hc := hrun.of_class c (by simp [← hall])
    exact ⟨(disjoint_name hc).1, by simp [disjoint_name hc], fun _ => hrun.ends⟩

/-- The text behind a token does not go on with its run. -/
theorem Stands.apart (h : Stands text rest kind lexeme raw) : Apart (text ++ raw) rest := by
  obtain hnil | ⟨raw, c, rfl⟩ := List.eq_nil_or_concat raw
  · exact absurd hnil h.ne_nil
  rw [List.concat_eq_append] at h ⊢
  intro c' hc' d hd
  obtain rfl : c = c' := by simpa using hc'
  exact ⟨fun hc => h.last.2.1 hc d hd, fun hc => h.last.2.2 hc d hd⟩

/-- The end of a run where the text goes on with something else. -/
theorem IsRun.goOn {p : Char → Bool} (h : IsRun p text raw rest)
    (hends : ∀ c ∈ (text ++ raw).getLast?, p c = true → ∀ d ∈ rest'.head?, p d = false) :
    IsRun p text raw rest' where
  ne_nil := h.ne_nil
  of_class := h.of_class
  starts := h.starts
  ends := by
    have hlast : (text ++ raw).getLast? = some (raw.getLast h.ne_nil) := by
      rw [List.getLast?_append, List.getLast?_eq_some_getLast h.ne_nil, Option.some_or]
    exact hends _ hlast (h.of_class _ (List.getLast_mem h.ne_nil))

/-- A token stands also in front of other texts that do not go on with its run. -/
theorem Stands.goOn (h : Stands text rest kind lexeme raw) (hapart : Apart (text ++ raw) rest')
    (hrest' : rest' ≠ []) : Stands text rest' kind lexeme raw := by
  cases h with
  | operator hc => exact .operator hc
  | punctuation hc => exact .punctuation hc
  | string hq hinner => exact .string hq hinner
  | number hrun _ hcount =>
    exact .number (hrun.goOn fun c hc hnumber d hd => (hapart c hc d hd).1 hnumber) hrest' hcount
  | name hrun _ =>
    exact .name (hrun.goOn fun c hc hname d hd => (hapart c hc d hd).2 hname) hrest'

/-- A fault has a character. -/
theorem Fault.ne_nil (h : Fault text rest e) : rest ≠ [] := by
  cases h with
  | unrecognized | string => exact List.cons_ne_nil _ _
  | number hrun => exact List.append_ne_nil_of_left_ne_nil hrun.ne_nil _
  | name hrun => exact hrun.ne_nil

/-- A run begins with a character of its class. -/
theorem IsRun.head {p : Char → Bool} (h : IsRun p text raw rest) :
    ∀ d ∈ (raw ++ rest).head?, p d = true := by
  obtain ⟨c, more, rfl⟩ := List.exists_cons_of_ne_nil h.ne_nil
  rintro d ⟨⟩
  exact h.of_class c List.mem_cons_self

/-- No run of the text before a fault goes on there. -/
theorem Fault.apart (h : Fault text rest e) : Apart text rest := by
  intro c hc d hd
  cases h with
  | unrecognized _ _ _ _ hnumber hname =>
    cases hd
    exact ⟨fun _ => hnumber, fun _ => hname⟩
  | string hq _ =>
    cases hd
    simp [disjoint_quote hq]
  | number hrun _ => simp [hrun.starts c hc, disjoint_number (hrun.head d hd)]
  | name hrun =>
    have hd' := hrun.head d (by rwa [List.append_nil])
    simp [hrun.starts c hc, disjoint_name hd']

/-- The error of a fault points at the place of the fault. -/
theorem Fault.span_start (h : Fault text rest e) :
    e.span.start = Location.start.advance text := by
  cases h <;> rfl

/-! ## Tilings -/

/-- The tokens of a text in front of what follows it: their raw texts and white space make up the
text, and they have the spans of their raw texts. -/
inductive Tiling : List Token → (text rest : List Char) → Prop
  | nil {rest : List Char} : Tiling [] [] rest
  | blank {ts : List Token} {text : List Char} {c : Char} {rest : List Char} :
    Tiling ts text (c :: rest) → isSpace c = true → Tiling ts (text ++ [c]) rest
  | token {ts : List Token} {text raw rest : List Char} {t : Token} :
    Tiling ts text (raw ++ rest) → Stands text rest t.kind t.lexeme.toList raw →
    t.span = .ofText (Location.start.advance text) raw → Tiling (ts ++ [t]) (text ++ raw) rest

/-- A tiling ends at a boundary. -/
theorem Tiling.apart (h : Tiling ts text rest) : Apart text rest := by
  cases h with
  | nil =>
    intro c hc
    cases hc
  | blank _ hc => exact apart_of_isSpace hc _ rest
  | token _ hstands _ => exact hstands.apart

/-- A tiling up to a boundary does not depend on what follows there. -/
theorem Tiling.goOn (h : Tiling ts text rest) (hapart : Apart text rest') (hrest' : rest' ≠ []) :
    Tiling ts text rest' := by
  induction h generalizing rest' with
  | nil => exact .nil
  | blank h hc ih => exact .blank (ih h.apart (List.cons_ne_nil _ _)) hc
  | @token ts text raw rest t h hstands hspan ih =>
    obtain ⟨c, more, rfl⟩ := List.exists_cons_of_ne_nil hstands.ne_nil
    exact .token (ih h.apart (List.cons_ne_nil c _)) (hstands.goOn hapart hrest') hspan

/-- **The run over a tiling** finds its tokens. -/
theorem Tiling.tokensFrom (h : Tiling ts text rest) :
    tokensFrom .start [] (text ++ rest) =
      tokensFrom (Location.start.advance text) ts.reverse rest := by
  induction h with
  | nil => rfl
  | @blank ts text c rest h hc ih =>
    rw [List.append_assoc, List.singleton_append, ih,
      tokensFrom_cons (scan_of_isSpace hc _ rest), Location.advance_append]
    rfl
  | @token ts text raw rest t h hstands hspan ih =>
    obtain ⟨c, more, rfl⟩ := List.exists_cons_of_ne_nil hstands.ne_nil
    rw [List.append_assoc, ih, List.cons_append, tokensFrom_cons (scan_of_stands hstands _),
      Location.advance_append, List.reverse_append, addToken, String.ofList_toList, ← hspan]
    rfl

/-- The run over a text goes on to its end or to a fault. -/
theorem Tiling.exists_tiling_or_fault (h : Tiling ts text rest) :
    (∃ ts', Tiling ts' (text ++ rest) []) ∨
      ∃ ts' text' rest' e, text ++ rest = text' ++ rest' ∧ Tiling ts' text' rest' ∧
        Fault text' rest' e := by
  induction hn : rest.length using Nat.strongRecOn generalizing ts text rest with
  | _ n ih =>
    cases rest with
    | nil => exact .inl ⟨ts, by rwa [List.append_nil]⟩
    | cons c rest =>
      -- No run crosses the end of a tiling, so what a scan finds there is a token of the text.
      obtain hc | ⟨kind, lexeme, raw, after, hall, hstands⟩ | ⟨e, hfault⟩ := scan_cases h.apart
      · have := ih rest.length (by simp [← hn]) (h.blank hc) rfl
        rwa [List.append_assoc] at this
      · have hraw := List.length_pos_iff.mpr hstands.ne_nil
        have hlength := congrArg List.length hall
        rw [List.length_append, hn] at hlength
        rw [← hall] at h ⊢
        have := ih after.length (by omega)
          (h.token (t := ⟨kind, .ofList lexeme, .ofText (Location.start.advance text) raw⟩)
            (by rwa [String.toList_ofList]) rfl) rfl
        rwa [List.append_assoc] at this
      · exact .inr ⟨ts, text, c :: rest, e, rfl, h, hfault⟩

/-- Without its last white space a text is tiled as before. -/
theorem Tiling.of_append_space (h : Tiling ts (text ++ [' ']) []) : Tiling ts text [' '] := by
  generalize hall : text ++ [' '] = all at h
  cases h with
  | nil => simp at hall
  | blank h hc =>
    obtain ⟨rfl, hc⟩ := List.append_inj' hall rfl
    cases hc
    exact h
  | @token ts before raw _ t h hstands hspan =>
    obtain hnil | ⟨raw, c, rfl⟩ := List.eq_nil_or_concat raw
    · exact absurd hnil hstands.ne_nil
    rw [List.concat_eq_append, ← List.append_assoc] at hall
    rw [List.concat_eq_append] at hstands
    obtain ⟨-, hc⟩ := List.append_inj' hall rfl
    cases hc
    exact absurd hstands.last.1 (by decide)

end Lexer

variable {source : String} {ts : List Token} {e : LexError}

/-- The tokens of a text are those that tile it. -/
theorem tokenize_of_tiling (h : Lexer.Tiling ts source.toList []) : tokenize source = .ok ts := by
  have hrun := h.tokensFrom
  rw [List.append_nil] at hrun
  rw [tokenize, hrun, Lexer.tokensFrom, List.reverse_reverse]

/-- A text that is tiled up to a fault has the fault. -/
theorem tokenize_of_fault {before rest : List Char} (hsource : source.toList = before ++ rest)
    (h : Lexer.Tiling ts before rest) (hfault : Lexer.Fault before rest e) :
    tokenize source = .error e := by
  obtain ⟨c, rest, rfl⟩ := List.exists_cons_of_ne_nil hfault.ne_nil
  rw [tokenize, hsource, h.tokensFrom, Lexer.tokensFrom]
  have hscan := Lexer.scan_of_fault hfault
  split
  · next e' he => rw [hscan] at he; cases he; rfl
  · next he => rw [hscan] at he; cases he

/-- A text is tiled to its end or up to a fault. -/
theorem tiling_or_fault (source : String) :
    (∃ ts, Lexer.Tiling ts source.toList []) ∨
      ∃ ts before rest e, source.toList = before ++ rest ∧ Lexer.Tiling ts before rest ∧
        Lexer.Fault before rest e :=
  Lexer.Tiling.exists_tiling_or_fault .nil

/-- The tokens of a text are those that tile it. -/
theorem tokenize_eq_ok_iff : tokenize source = .ok ts ↔ Lexer.Tiling ts source.toList [] := by
  refine ⟨fun hok => ?_, tokenize_of_tiling⟩
  obtain ⟨ts', h⟩ | ⟨ts', before, rest, e, hsource, h, hfault⟩ := tiling_or_fault source
  · rw [tokenize_of_tiling h] at hok
    cases hok
    exact h
  · rw [tokenize_of_fault hsource h hfault] at hok
    cases hok

/-- The error of a text is the fault behind a front that has tokens. -/
theorem tokenize_eq_error_iff :
    tokenize source = .error e ↔
      ∃ before rest, source.toList = before ++ rest ∧
        (∃ ts, tokenize (.ofList (before ++ [' '])) = .ok ts) ∧ Lexer.Fault before rest e := by
  simp only [tokenize_eq_ok_iff, String.toList_ofList]
  constructor
  · intro herror
    obtain ⟨ts, h⟩ | ⟨ts, before, rest, e', hsource, h, hfault⟩ := tiling_or_fault source
    · rw [tokenize_of_tiling h] at herror
      cases herror
    · rw [tokenize_of_fault hsource h hfault] at herror
      cases herror
      -- A space ends every run, so the text before the fault is tiled with a space behind it too.
      have hspace := h.goOn (Lexer.apart_space before) (List.cons_ne_nil ' ' [])
      exact ⟨before, rest, hsource, ⟨ts, hspace.blank rfl⟩, hfault⟩
  · rintro ⟨before, rest, hsource, ⟨ts, h⟩, hfault⟩
    exact tokenize_of_fault hsource (h.of_append_space.goOn hfault.apart hfault.ne_nil) hfault

/-- **Tokens are the one tiling by longest runs**: the tokens of a text are those, and only those,
whose raw texts make it up together with white space, with their true spans. A text that has none
is tiled up to the place that its error points at, where the fault stands that the error tells.
Later places of a text are told apart from earlier ones, and so are its stretches by their
spans. -/
theorem tokenize_maximal_munch (source : String) :
    (∀ ts, tokenize source = .ok ts ↔ Lexer.Tiling ts source.toList []) ∧
    (∀ e, tokenize source = .error e ↔
      ∃ before rest, source.toList = before ++ rest ∧
        e.span.start = Location.start.advance before ∧
        (∃ ts, tokenize (.ofList (before ++ [' '])) = .ok ts) ∧ Lexer.Fault before rest e) ∧
    (∀ i j, i < j → j ≤ source.toList.length →
      (Location.start.advance (source.toList.take i)).Precedes
        (Location.start.advance (source.toList.take j))) ∧
    ∀ before raw after before' raw' after', source.toList = before ++ raw ++ after →
      source.toList = before' ++ raw' ++ after' →
      Span.ofText (Location.start.advance before) raw =
        Span.ofText (Location.start.advance before') raw' →
      before = before' ∧ raw = raw' := by
  refine ⟨fun ts => tokenize_eq_ok_iff, fun e => ?_, fun i j => ?_, ?_⟩
  · rw [tokenize_eq_error_iff]
    refine exists_congr fun before => exists_congr fun rest => and_congr_right fun _ => ?_
    exact ⟨fun h => ⟨h.2.span_start, h⟩, And.right⟩
  · exact Location.precedes_advance_take _
  · intro before raw after before' raw' after' h h' hspan
    exact Span.eq_of_ofText_eq (h.symm.trans h') hspan

/-- A text with a string over two lines. -/
def twoLines : String := "s = 'a\nb' 1.5;"

/-- Its tokens. -/
def twoLinesTokens : List Token :=
  [⟨.name, "s", ⟨⟨1, 1⟩, ⟨1, 2⟩⟩⟩, ⟨.equal, "=", ⟨⟨1, 3⟩, ⟨1, 4⟩⟩⟩,
    ⟨.string, "a\nb", ⟨⟨1, 5⟩, ⟨2, 3⟩⟩⟩, ⟨.number, "1.5", ⟨⟨2, 4⟩, ⟨2, 7⟩⟩⟩,
    ⟨.semicolon, ";", ⟨⟨2, 7⟩, ⟨2, 8⟩⟩⟩]

/-- The tokens tile the text. With a second point the number is at fault, where it stands, and the
text before it is tiled. -/
theorem tokenize_maximal_munch_twoLines :
    Lexer.Tiling twoLinesTokens twoLines.toList [] ∧
    (∃ before rest, "s 1.5.;".toList = before ++ rest ∧
      (⟨1, 3⟩ : Location) = Location.start.advance before ∧
      (∃ ts, tokenize (.ofList (before ++ [' '])) = .ok ts) ∧
      Lexer.Fault before rest (.malformedNumber "1.5." ⟨⟨1, 3⟩, ⟨1, 7⟩⟩)) ∧
    (Location.start.advance (twoLines.toList.take 5)).Precedes
      (Location.start.advance (twoLines.toList.take 7)) ∧
    ∀ before raw after, twoLines.toList = before ++ raw ++ after →
      Span.ofText (Location.start.advance before) raw = ⟨⟨1, 5⟩, ⟨2, 3⟩⟩ →
      before = "s = ".toList ∧ raw = "'a\nb'".toList := by
  have hok := tokenize_maximal_munch twoLines
  have herror := tokenize_maximal_munch "s 1.5.;"
  refine ⟨(hok.1 _).mp (by decide +kernel),
    (herror.2.1 (.malformedNumber "1.5." ⟨⟨1, 3⟩, ⟨1, 7⟩⟩)).mp (by decide +kernel),
    hok.2.2.1 5 7 (by decide) (by decide), fun before raw after htext hspan => ?_⟩
  exact hok.2.2.2 before raw after _ _ " 1.5;".toList htext (by decide) (hspan.trans (by decide))

end ScopeScript
