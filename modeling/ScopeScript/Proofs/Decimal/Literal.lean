import ScopeScript.Decimal.Reader
import ScopeScript.Eval.Expr
import ScopeScript.Pattern.Library
import ScopeScript.Proofs.Expr.Subtree

/-!
# Number literals

A number token is made of digits with at most one point among them, and its text goes unchanged
into the tree, from where it is read when the literal is evaluated. Such a text can be read as soon
as there is a digit in it. There need not be one: a single point is a number token, and the only one
that denotes no number. So the literals of a program all denote numbers exactly if no token of its
text is a single point.
-/

namespace ScopeScript

/-- Digits with at most one point among them, not necessarily with a digit. -/
structure IsNumeral (text : List Char) : Prop where
  ne_nil : text ≠ []
  of_class : ∀ c ∈ text, Decimal.isDigit c = true ∨ c = '.'
  points : text.count '.' ≤ 1

namespace Decimal

variable {text whole fraction : List Char}

/-- A numeral without a point, or the digits on both sides of its point. -/
theorem exists_digits_of_isNumeral (h : IsNumeral text) :
    (∀ c ∈ text, isDigit c = true) ∨ ∃ whole fraction, text = whole ++ '.' :: fraction ∧
      (∀ c ∈ whole, isDigit c = true) ∧ ∀ c ∈ fraction, isDigit c = true := by
  by_cases hpoint : '.' ∈ text
  · obtain ⟨whole, fraction, rfl⟩ := List.append_of_mem hpoint
    have hcount := h.points
    rw [List.count_append, List.count_cons_self] at hcount
    have hwhole : '.' ∉ whole := List.count_eq_zero.mp (by omega)
    have hfraction : '.' ∉ fraction := List.count_eq_zero.mp (by omega)
    refine .inr ⟨whole, fraction, rfl, fun c hc => ?_, fun c hc => ?_⟩
    · exact (h.of_class c (by simp [hc])).resolve_right (ne_of_mem_of_not_mem hc hwhole)
    · exact (h.of_class c (by simp [hc])).resolve_right (ne_of_mem_of_not_mem hc hfraction)
  · exact .inl fun c hc => (h.of_class c hc).resolve_right (ne_of_mem_of_not_mem hc hpoint)

/-- The digits before the point. -/
theorem takeWhile_isDigit (hwhole : ∀ c ∈ whole, isDigit c = true) (fraction : List Char) :
    (whole ++ '.' :: fraction).takeWhile isDigit = whole := by
  rw [List.takeWhile_append_of_pos hwhole]
  simp [isDigit]

/-- What is left behind the digits before the point. -/
theorem dropWhile_isDigit (hwhole : ∀ c ∈ whole, isDigit c = true) (fraction : List Char) :
    (whole ++ '.' :: fraction).dropWhile isDigit = '.' :: fraction := by
  rw [List.dropWhile_append_of_pos hwhole]
  simp [isDigit]

/-- Digits without a point are read as the whole part. -/
theorem readParts?_digits (hne : text ≠ []) (htext : ∀ c ∈ text, isDigit c = true) :
    readParts? text = some (text, [], 0) := by
  have htake : text.takeWhile isDigit = text := List.takeWhile_eq_self_iff.mpr htext
  have hdrop : text.dropWhile isDigit = [] := List.dropWhile_eq_nil_iff.mpr htext
  simp [readParts?, htake, hdrop, hne, readExponent?]

/-- Digits around a point are read as the two parts, if there is a digit on either side. -/
theorem readParts?_point (hwhole : ∀ c ∈ whole, isDigit c = true)
    (hfraction : ∀ c ∈ fraction, isDigit c = true) :
    readParts? (whole ++ '.' :: fraction) =
      if whole = [] ∧ fraction = [] then none else some (whole, fraction, 0) := by
  have htake : fraction.takeWhile isDigit = fraction := List.takeWhile_eq_self_iff.mpr hfraction
  have hdrop : fraction.dropWhile isDigit = [] := List.dropWhile_eq_nil_iff.mpr hfraction
  simp [readParts?, takeWhile_isDigit hwhole, dropWhile_isDigit hwhole, htake, hdrop, readExponent?]

/-- **A numeral can be read** unless it is a single point. -/
theorem readParts?_eq_none_iff (h : IsNumeral text) : readParts? text = none ↔ text = ['.'] := by
  obtain hdigits | ⟨whole, fraction, rfl, hwhole, hfraction⟩ := exists_digits_of_isNumeral h
  · rw [readParts?_digits h.ne_nil hdigits]
    have hpoint : text ≠ ['.'] := by
      rintro rfl
      exact absurd (hdigits '.' List.mem_cons_self) (by decide)
    simp [hpoint]
  · rw [readParts?_point hwhole hfraction]
    simp [List.append_eq_cons_iff]

/-- A numeral has no sign. -/
theorem readSign_of_isNumeral (h : IsNumeral text) : readSign text = (false, text) := by
  unfold readSign
  split
  · exact absurd (h.of_class '-' List.mem_cons_self) (by decide)
  · exact absurd (h.of_class '+' List.mem_cons_self) (by decide)
  · rfl

/-- What a numeral is made of has no case. -/
theorem toLower_of_numeral {c : Char} (hc : isDigit c = true ∨ c = '.') : c.toLower = c := by
  have hlt : ¬ (c.val ≥ 'A'.val ∧ c.val ≤ 'Z'.val) := by
    obtain hdigit | rfl := hc
    · have hle : c.val ≤ '9'.val := (by simpa [isDigit] using hdigit : '0' ≤ c ∧ c ≤ '9').2
      rintro ⟨hge, -⟩
      exact absurd (UInt32.le_trans hge hle) (by decide)
    · decide
  exact dif_neg hlt

/-- A numeral reads the same in lower case. -/
theorem map_toLower_of_isNumeral (h : IsNumeral text) : text.map Char.toLower = text :=
  (List.map_congr_left fun c hc => toLower_of_numeral (h.of_class c hc)).trans (List.map_id text)

/-- A numeral is no word. -/
theorem ofList_ne_of_isNumeral (h : IsNumeral text) {c : Char} {word : String}
    (hc : c ∈ word.toList) (hword : isDigit c = false ∧ c ≠ '.') : String.ofList text ≠ word := by
  rintro rfl
  rw [String.toList_ofList] at hc
  have hclass := h.of_class c hc
  simp [hword] at hclass

/-- Of a numeral only the parts are read. -/
theorem readUnsigned?_of_isNumeral (h : IsNumeral text) :
    readUnsigned? text = (readParts? text).map fun (whole, fraction, e) =>
      nearest (digitsValue (significant (whole ++ fraction)))
        (significant (whole ++ fraction)).length (e - fraction.length) := by
  unfold readUnsigned?
  rw [map_toLower_of_isNumeral h]
  split
  · next hword => exact absurd hword (ofList_ne_of_isNumeral h (c := 'i') (by simp) (by decide))
  · next hword => exact absurd hword (ofList_ne_of_isNumeral h (c := 'i') (by simp) (by decide))
  · next hword => exact absurd hword (ofList_ne_of_isNumeral h (c := 'a') (by simp) (by decide))
  · rfl

/-- The only numeral without a value is the single point. -/
theorem readUnsigned?_eq_none_iff (h : IsNumeral text) :
    readUnsigned? text = none ↔ text = ['.'] := by
  rw [readUnsigned?_of_isNumeral h, Option.map_eq_none_iff, readParts?_eq_none_iff h]

/-- **A zero in front says nothing**, however many there are already. -/
theorem readUnsigned?_zero_cons (h : IsNumeral text) (hpoint : text ≠ ['.']) :
    readUnsigned? ('0' :: text) = readUnsigned? text := by
  have hzero : isDigit '0' = true := rfl
  have hcons : IsNumeral ('0' :: text) :=
    ⟨List.cons_ne_nil _ _, List.forall_mem_cons.mpr ⟨.inl hzero, h.of_class⟩, by
      rw [List.count_cons_of_ne (by decide)]
      exact h.points⟩
  rw [readUnsigned?_of_isNumeral hcons, readUnsigned?_of_isNumeral h]
  obtain hdigits | ⟨whole, fraction, rfl, hwhole, hfraction⟩ := exists_digits_of_isNumeral h
  · rw [readParts?_digits h.ne_nil hdigits, readParts?_digits (List.cons_ne_nil _ _)
      (List.forall_mem_cons.mpr ⟨hzero, hdigits⟩)]
    rfl
  · have hne : ¬ (whole = [] ∧ fraction = []) := by
      rintro ⟨rfl, rfl⟩
      exact hpoint rfl
    rw [← List.cons_append, readParts?_point (List.forall_mem_cons.mpr ⟨hzero, hwhole⟩) hfraction,
      readParts?_point hwhole hfraction, if_neg hne, if_neg (by simp)]
    rfl

end Decimal

open ScopeScript.Decimal

/-- **A numeral denotes a number** unless it is a single point. -/
theorem readNumber?_eq_none_iff {text : String} (h : IsNumeral text.toList) :
    readNumber? text = none ↔ text = "." := by
  rw [readNumber?, readSign_of_isNumeral h]
  simp only [Option.map_eq_none_iff, readUnsigned?_eq_none_iff h]
  rw [← String.toList_inj]
  rfl

/-! ## In programs -/

variable {source : String} {ts : List Token} {program : List Expr} {e : Expr}

/-- The lexeme of a number token is a numeral. -/
theorem isNumeral_of_tokenize (h : tokenize source = .ok ts) {t : Token} (ht : t ∈ ts)
    (hkind : t.kind = .number) : IsNumeral t.lexeme.toList := by
  obtain ⟨before, after, raw, hstands⟩ := exists_stands_of_tokenize h t ht
  rw [hkind] at hstands
  obtain ⟨hrun, hpoints⟩ := hstands.run_of_number
  refine ⟨hrun.ne_nil, fun c hc => ?_, hpoints⟩
  have hclass := hrun.of_class c hc
  simpa [Lexer.isNumberChar, isDigit] using hclass

/-- A number literal of a program is a number token of its text. -/
theorem mem_of_isNodeOf_number (hparse : parse ts = .ok program) (he : e ∈ program)
    {text : String} {span : Span} (hnode : (Expr.number text span).IsNodeOf e) :
    ⟨.number, text, span⟩ ∈ ts := by
  obtain ⟨ts', hts, hspells⟩ := exists_spells_of_parse hparse he hnode
  cases hspells
  exact hts List.mem_cons_self

mutual

/-- No number token is lost: it is a literal of what it helps to spell. -/
theorem Spells.isNodeOf_number {t : Token} (hkind : t.kind = .number) :
    ∀ {e : Expr} {ts : List Token}, Spells e ts → t ∈ ts →
      (Expr.number t.lexeme t.span).IsNodeOf e
  | _, _, .number _ _, ht => by
    obtain rfl := List.mem_singleton.mp ht
    exact .refl
  | _, _, .string _ _, ht | _, _, .symbol _ _, ht => by
    obtain rfl := List.mem_singleton.mp ht
    cases hkind
  | _, _, .operation _ _ hleft _ hright, ht => by
    obtain ht | ht := List.mem_append.mp ht
    · exact (hleft.isNodeOf_number hkind ht).tail List.mem_cons_self
    · obtain rfl | ht := List.mem_cons.mp ht
      · cases hkind
      · exact (hright.isNodeOf_number hkind ht).tail (by simp [Expr.children])
  | _, _, .call hcallee _ hopen hargs hclose, ht => by
    simp only [List.mem_append, List.mem_cons, List.not_mem_nil, or_false] at ht
    obtain ht | rfl | ht | rfl := ht
    · exact (hcallee.isNodeOf_number hkind ht).tail List.mem_cons_self
    · cases hkind.symm.trans hopen
    · obtain ⟨c, hc, hnode⟩ := hargs.exists_isNodeOf_number hkind (by decide) ht
      exact hnode.tail (List.mem_cons_of_mem _ hc)
    · cases hkind.symm.trans hclose
  | _, _, .definition _ hopen hparams hclose hopen' hbody hclose', ht => by
    simp only [List.mem_append, List.mem_cons, List.not_mem_nil, or_false] at ht
    obtain rfl | rfl | ht | rfl | rfl | ht | rfl := ht
    · cases hkind
    · cases hkind.symm.trans hopen
    · obtain ⟨c, hc, hnode⟩ := hparams.exists_isNodeOf_number hkind (by decide) ht
      exact hnode.tail (List.mem_append_left _ hc)
    · cases hkind.symm.trans hclose
    · cases hkind.symm.trans hopen'
    · obtain ⟨c, hc, hnode⟩ := hbody.exists_isNodeOf_number hkind (by decide) ht
      exact hnode.tail (List.mem_append_right _ hc)
    · cases hkind.symm.trans hclose'
  | _, _, .assignment _ heq hvalue, ht => by
    simp only [List.mem_cons] at ht
    obtain rfl | rfl | ht := ht
    · cases hkind
    · cases hkind.symm.trans heq
    · exact (hvalue.isNodeOf_number hkind ht).tail List.mem_cons_self

/-- A number token among expressions with dividers is a literal of one of them. -/
theorem SpellsAll.exists_isNodeOf_number {t : Token} (hkind : t.kind = .number)
    {divider : TokenKind} (hdivider : divider ≠ .number) :
    ∀ {es : List Expr} {ts : List Token}, SpellsAll divider es ts → t ∈ ts →
      ∃ e ∈ es, (Expr.number t.lexeme t.span).IsNodeOf e
  | _, _, .nil, ht => by cases ht
  | _, _, .skip hd hes, ht => by
    obtain rfl | ht := List.mem_cons.mp ht
    · exact absurd (hd.symm.trans hkind) hdivider
    · exact hes.exists_isNodeOf_number hkind hdivider ht
  | _, _, .last he, ht => ⟨_, List.mem_singleton_self _, he.isNodeOf_number hkind ht⟩
  | _, _, .cons he hd hes, ht => by
    obtain ht | ht := List.mem_append.mp ht
    · exact ⟨_, List.mem_cons_self, he.isNodeOf_number hkind ht⟩
    · obtain rfl | ht := List.mem_cons.mp ht
      · exact absurd (hd.symm.trans hkind) hdivider
      · obtain ⟨e, he, hnode⟩ := hes.exists_isNodeOf_number hkind hdivider ht
        exact ⟨e, List.mem_cons_of_mem _ he, hnode⟩

end

/-- **When all number literals denote numbers.** Every number literal of the program of a text is
made of digits with at most one point among them. It can be read, so that its evaluation gives the
number read, unless it is a single point. So all of them can be read exactly if no token of the text
is a single point. -/
theorem literals_readable_iff [SearchContext] (htokens : tokenize source = .ok ts)
    (hparse : parse ts = .ok program) :
    (∀ e ∈ program, ∀ text span, (Expr.number text span).IsNodeOf e → IsNumeral text.toList ∧
      (readNumber? text = none ↔ text = ".") ∧
      ∀ x, readNumber? text = some x → ∀ rules steps env m,
        eval rules (steps + 1) (.number text span) env m = .done (.number x) m) ∧
    ((∀ e ∈ program, ∀ text span, (Expr.number text span).IsNodeOf e → readNumber? text ≠ none) ↔
      ∀ t ∈ ts, t.kind = .number → t.lexeme ≠ ".") := by
  refine ⟨fun e he text span hnode => ?_, fun hreadable t ht hkind hpoint => ?_,
    fun hlexemes e he text span hnode hnone => ?_⟩
  · have hnumeral := isNumeral_of_tokenize htokens (mem_of_isNodeOf_number hparse he hnode) rfl
    refine ⟨hnumeral, readNumber?_eq_none_iff hnumeral, fun x hx rules steps env m => ?_⟩
    rw [eval, evalWith, evalStep, hx]
    rfl
  · obtain ⟨e, he, hnode⟩ :=
      (parse_eq_ok_iff.mp hparse).1.exists_isNodeOf_number hkind (by decide) ht
    refine hreadable e he _ _ hnode ?_
    exact (readNumber?_eq_none_iff (isNumeral_of_tokenize htokens ht hkind)).mpr hpoint
  · have hmem := mem_of_isNodeOf_number hparse he hnode
    have hpoint := (readNumber?_eq_none_iff (isNumeral_of_tokenize htokens hmem rfl)).mp hnone
    exact hlexemes _ hmem rfl hpoint

/-- Literals with digits on one side of the point only, in a body and among arguments. -/
def oneSidedLiterals : String := "f(x) \x7b x + .5; \x7d; f(7.);"

/-- The program with literals of both kinds has only readable ones. -/
theorem literals_readable_iff_oneSidedLiterals :
    ∃ ts program, tokenize oneSidedLiterals = .ok ts ∧ parse ts = .ok program ∧
      (∃ t ∈ ts, t.kind = .number ∧ t.lexeme = ".5") ∧
      ∀ e ∈ program, ∀ text span, (Expr.number text span).IsNodeOf e → readNumber? text ≠ none := by
  obtain ⟨ts, program, htokens, hparse, hhalf, hlexemes⟩ : ∃ ts program,
      tokenize oneSidedLiterals = .ok ts ∧ parse ts = .ok program ∧
      (∃ t ∈ ts, t.kind = .number ∧ t.lexeme = ".5") ∧
      ∀ t ∈ ts, t.kind = .number → t.lexeme ≠ "." := ⟨_, _, by cbv, by cbv, by decide, by decide⟩
  exact ⟨ts, program, htokens, hparse, hhalf, (literals_readable_iff htokens hparse).2.mpr hlexemes⟩

/-- Not every literal denotes a number: the text of a single point is a program. -/
theorem not_literals_readable :
    ¬ ∀ source ts program, tokenize source = .ok ts → parse ts = .ok program →
      ∀ e ∈ program, ∀ text span, (Expr.number text span).IsNodeOf e → readNumber? text ≠ none := by
  intro hreadable
  have htokens : tokenize ". ;" = .ok [⟨.number, ".", ⟨⟨1, 1⟩, ⟨1, 2⟩⟩⟩,
      ⟨.semicolon, ";", ⟨⟨1, 3⟩, ⟨1, 4⟩⟩⟩] := by cbv
  have hparse : parse [⟨.number, ".", ⟨⟨1, 1⟩, ⟨1, 2⟩⟩⟩, ⟨.semicolon, ";", ⟨⟨1, 3⟩, ⟨1, 4⟩⟩⟩] =
      .ok [.number "." ⟨⟨1, 1⟩, ⟨1, 2⟩⟩] := rfl
  exact hreadable _ _ _ htokens hparse _ List.mem_cons_self _ _ .refl rfl

end ScopeScript
