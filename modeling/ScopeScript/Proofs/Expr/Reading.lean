import Mathlib.Order.MinMax
import ScopeScript.Proofs.Expr.Grammar

/-!
# Reading what is spelled

The parser reads every spelling of an expression to its end. Depth is kept apart: `readAll`
reads tokens however deep they are nested, and `peak` is the greatest depth that the parser
passes through on the way. Both are known for a spelling, and the peak is the nesting of the
expression on top of the depth it starts at. A spelling is thus accepted if its nesting is
allowed, and otherwise refused for that and no other reason.
-/

namespace ScopeScript.Parser

open ScopeScript.Expr

/-- Read tokens one after the other, however deep. -/
def readAll : State → List Token → Except ParseError State
  | s, [] => .ok s
  | s, t :: rest =>
    match read s t with
    | .error e => .error e
    | .ok s' => readAll s' rest

/-- The greatest depth before and behind the tokens that can be read. -/
def peak : State → List Token → Nat
  | s, [] => s.depth
  | s, t :: rest =>
    match read s t with
    | .error _ => s.depth
    | .ok s' => max s.depth (peak s' rest)

variable {s s' : State} {t : Token} {ts ts' : List Token}

/-- Tokens are read the first one first. -/
theorem readAll_cons (h : read s t = .ok s') (ts : List Token) :
    readAll s (t :: ts) = readAll s' ts := by
  rw [readAll, h]

/-- The greatest depth is that at the start or that of the rest. -/
theorem peak_cons (h : read s t = .ok s') (ts : List Token) :
    peak s (t :: ts) = max s.depth (peak s' ts) := by
  rw [peak, h]

/-- Tokens that can be read are read before those behind them. -/
theorem readAll_append (h : readAll s ts = .ok s') (ts' : List Token) :
    readAll s (ts ++ ts') = readAll s' ts' := by
  induction ts generalizing s with
  | nil =>
    cases h
    rfl
  | cons t rest ih =>
    cases hread : read s t with
    | error e => simp [readAll, hread] at h
    | ok s₁ =>
      rw [readAll_cons hread] at h
      rw [List.cons_append, readAll_cons hread, ih h]

/-- No depth is greater than the greatest. -/
theorem depth_le_peak (s : State) (ts : List Token) : s.depth ≤ peak s ts := by
  cases ts with
  | nil => exact le_refl _
  | cons t rest =>
    rw [peak]
    split
    · exact le_refl _
    · exact le_max_left _ _

/-- The greatest depth of tokens one behind the other. -/
theorem peak_append (h : readAll s ts = .ok s') (ts' : List Token) :
    peak s (ts ++ ts') = max (peak s ts) (peak s' ts') := by
  induction ts generalizing s with
  | nil =>
    cases h
    exact (max_eq_right (depth_le_peak _ ts')).symm
  | cons t rest ih =>
    cases hread : read s t with
    | error e => simp [readAll, hread] at h
    | ok s₁ =>
      rw [readAll_cons hread] at h
      rw [List.cons_append, peak_cons hread, peak_cons hread, ih h, max_assoc]

/-- The depth behind the last token counts. -/
theorem depth_le_peak_of_readAll (h : readAll s ts = .ok s') : s'.depth ≤ peak s ts := by
  have hmax := peak_append h []
  rw [List.append_nil, peak] at hmax
  exact hmax ▸ le_max_right _ _

/-! ## Depth -/

/-- Reading within the allowed depth is parsing. -/
theorem steps_of_peak_le (h : readAll s ts = .ok s') (hpeak : peak s ts ≤ maxNesting) :
    steps s ts = .ok s' := by
  induction ts generalizing s with
  | nil => exact h
  | cons t rest ih =>
    have hdepth := (depth_le_peak s (t :: rest)).trans hpeak
    cases hread : read s t with
    | error e => simp [readAll, hread] at h
    | ok s₁ =>
      rw [readAll_cons hread] at h
      rw [peak_cons hread] at hpeak
      rw [steps, step, if_neg (Nat.not_lt.mpr hdepth), hread]
      exact ih h ((le_max_right _ _).trans hpeak)

/-- Tokens nested too deep are refused for that reason, at the latest behind the last one. -/
theorem steps_of_lt_peak (h : readAll s ts = .ok s') (hpeak : maxNesting < peak s ts) :
    (∃ span, steps s ts = .error (.nestingTooDeep maxNesting span)) ∨
      steps s ts = .ok s' ∧ maxNesting < s'.depth := by
  induction ts generalizing s with
  | nil =>
    cases h
    exact .inr ⟨rfl, hpeak⟩
  | cons t rest ih =>
    by_cases hdepth : s.depth > maxNesting
    · exact .inl ⟨t.span, by rw [steps, step, if_pos hdepth]⟩
    · cases hread : read s t with
      | error e => simp [readAll, hread] at h
      | ok s₁ =>
        rw [readAll_cons hread] at h
        rw [peak_cons hread] at hpeak
        rw [steps, step, if_neg hdepth, hread]
        exact ih h ((lt_max_iff.mp hpeak).resolve_left hdepth)

/-- Parsing is reading within the allowed depth. -/
theorem readAll_of_steps (h : steps s ts = .ok s') (hdepth : s'.depth ≤ maxNesting) :
    readAll s ts = .ok s' ∧ peak s ts ≤ maxNesting := by
  induction ts generalizing s with
  | nil =>
    cases h
    exact ⟨rfl, hdepth⟩
  | cons t rest ih =>
    rw [steps, step] at h
    by_cases hdeep : s.depth > maxNesting
    · simp [hdeep] at h
    · rw [if_neg hdeep] at h
      cases hread : read s t with
      | error e => simp [hread] at h
      | ok s₁ =>
        rw [hread] at h
        obtain ⟨hrest, hpeak⟩ := ih h
        rw [readAll_cons hread, peak_cons hread]
        exact ⟨hrest, max_le (Nat.not_lt.mp hdeep) hpeak⟩

namespace State

/-- Only the last current expression stays. -/
@[simp] theorem withCurrent_withCurrent (s : State) (e e' : Expr) :
    (s.withCurrent e).withCurrent e' = s.withCurrent e' := rfl

/-- A current expression does not count for the depth. -/
@[simp] theorem depth_withCurrent (s : State) (e : Expr) : (s.withCurrent e).depth = s.depth := rfl

/-- The depth of the layers is added to what is below them. -/
theorem foldl_depth (layers : List Layer) (n k : Nat) :
    layers.foldl (fun n l => n + l.pending.length + 1) (n + k) =
      layers.foldl (fun n l => n + l.pending.length + 1) n + k := by
  induction layers generalizing n with
  | nil => rfl
  | cons l rest ih =>
    have hshift : n + k + l.pending.length + 1 = n + l.pending.length + 1 + k := by omega
    rw [List.foldl_cons, List.foldl_cons, hshift, ih]

/-- An operator that waits for its operand is one level. -/
@[simp] theorem depth_await (s : State) (p : Pending) : (s.await p).depth = s.depth + 1 :=
  foldl_depth s.layers s.pending.length 1

/-- A list that is opened is one level. -/
@[simp] theorem depth_openList (s : State) (o : Opener) : (s.openList o).depth = s.depth + 1 := by
  have hzero : 0 + s.pending.length + 1 = s.pending.length + 1 := by omega
  have hfold := foldl_depth s.layers s.pending.length 1
  simpa only [depth, openList, List.foldl_cons, List.length_nil, hzero] using hfold

/-- The token that separates the items of the innermost list. -/
def divider (s : State) : TokenKind :=
  match s.layers with
  | [] => .semicolon
  | l :: _ => l.opener.divider

end State

/-! ## Single tokens -/

/-- A token that never ends an item continues the current one. -/
theorem read_of_continues (ht : t.kind ≠ .comma ∧ t.kind ≠ .semicolon ∧ t.kind ≠ .rightParen ∧
    t.kind ≠ .rightBrace) (s : State) : read s t = extend s t := by
  have hstops : s.stopsAt t.kind = false := by
    obtain ⟨layers, items, pending, current⟩ := s
    cases layers with
    | nil => simp [State.stopsAt, ht]
    | cons l rest =>
      cases ho : l.opener <;> simp [State.stopsAt, Opener.divider, Opener.closer, ho, ht]
  rw [read, hstops]
  rfl

/-- A name starts an item. -/
theorem read_name (hs : s.current = none) (text : String) (span : Span) :
    read s ⟨.name, text, span⟩ = .ok (s.withCurrent (.symbol text span)) := by
  rw [read_of_continues (by simp), extend, hs]

/-- A parenthesis behind an expression opens its argument list. -/
theorem read_leftParen (ht : t.kind = .leftParen) (s : State) (callee : Expr) :
    read (s.withCurrent callee) t =
      .ok ((s.withCurrent callee).openList (.arguments callee)) := by
  rw [read_of_continues (by simp [ht]), extend, ht]
  rfl

/-- A divider ends the current item. -/
theorem read_divider (ht : t.kind = s.divider) {item : Option Expr} (hitem : s.item? = some item) :
    read s t = .ok ⟨s.layers, item.toList ++ s.items, [], none⟩ := by
  obtain ⟨layers, items, pending, current⟩ := s
  cases layers with
  | nil =>
    have hkind : t.kind = .semicolon := ht
    simp [read, State.stopsAt, endItem, hkind, hitem]
  | cons l rest =>
    have hkind : t.kind = l.opener.divider := ht
    have hopen : (l.opener.divider == l.opener.closer) = false := by cases l.opener <;> rfl
    simp [read, State.stopsAt, endItem, hkind, hitem, hopen]

/-- A closer ends the current list. -/
theorem read_closer {l : Layer} {layers : List Layer} (hlayers : s.layers = l :: layers)
    (ht : t.kind = l.opener.closer) {item : Option Expr} (hitem : s.item? = some item) :
    read s t = .ok ⟨layers, l.items, l.pending,
      some (l.opener.complete (item.toList ++ s.items).reverse t.span)⟩ := by
  simp [read, State.stopsAt, endItem, hlayers, ht, hitem]

/-! ## Spellings -/

/-- What an item becomes with all operators that wait in front of it. -/
def completeAll (pending : List Pending) (e : Expr) : Expr :=
  pending.foldl (fun right p => p.complete right) e

/-- The item of a state is its current expression with all that waits completed. -/
theorem item?_some (layers : List Layer) (items : List Expr) (pending : List Pending) (e : Expr) :
    State.item? ⟨layers, items, pending, some e⟩ = some (some (completeAll pending e)) := by
  cases pending <;> rfl

/-- From `s` the tokens `ts` lead to `s'`, through depths up to `n` levels below `s`. -/
structure Reads (s : State) (ts : List Token) (s' : State) (n : Nat) : Prop where
  readAll : readAll s ts = .ok s'
  peak : peak s ts = s.depth + n

/-- From `s` the tokens `ts` lead to `s'`, where the current item has `e` at its end. -/
structure ReadsExpr (s : State) (e : Expr) (ts : List Token) (s' : State) : Prop
    extends Reads s ts s' e.nesting where
  layers : s'.layers = s.layers
  items : s'.items = s.items
  item : s'.item? = some (some (completeAll s.pending e))
  /-- An expression that an operator or an argument list may follow stands alone. -/
  primary : e.isPrimary = true → s' = s.withCurrent e

/-- From `s` the tokens `ts` lead to `s'`, where the items of the innermost list end with `es`. -/
structure ReadsExprs (s : State) (es : List Expr) (ts : List Token) (s' : State) : Prop
    extends Reads s ts s' (nestingAll es) where
  layers : s'.layers = s.layers
  items : ∃ item, s'.item? = some item ∧ item.toList ++ s'.items = es.reverse ++ s.items

namespace Reads

variable {s'' : State} {n n' k : Nat}

/-- No tokens are read to where the reading starts. -/
theorem nil (s : State) : Reads s [] s 0 := ⟨rfl, rfl⟩

/-- One reading after another that starts `k` levels deeper. -/
theorem append (h : Reads s ts s' n) (h' : Reads s' ts' s'' n') (hk : s'.depth = s.depth + k) :
    Reads s (ts ++ ts') s'' (max n (k + n')) where
  readAll := by rw [readAll_append h.readAll, h'.readAll]
  peak := by
    rw [peak_append h.readAll, h.peak, h'.peak, hk]
    omega

/-- A token in front of a reading that starts `k` levels deeper. -/
theorem cons (h : read s t = .ok s') (h' : Reads s' ts s'' n) (hk : s'.depth = s.depth + k) :
    Reads s (t :: ts) s'' (k + n) where
  readAll := by rw [readAll_cons h, h'.readAll]
  peak := by
    rw [peak_cons h, h'.peak, hk]
    omega

/-- A reading in two parts with a token between them that leads back to the depth at the start. -/
theorem next (h : Reads s ts s' n) {s₁ : State} (ht : read s' t = .ok s₁)
    (h' : Reads s₁ ts' s'' n') (hdepth : s₁.depth = s.depth) :
    Reads s (ts ++ t :: ts') s'' (max n n') where
  readAll := by rw [readAll_append h.readAll, readAll_cons ht, h'.readAll]
  peak := by
    have hinner := depth_le_peak_of_readAll h.readAll
    rw [peak_append h.readAll, peak_cons ht, h'.peak, hdepth]
    rw [h.peak] at hinner ⊢
    omega

/-- A single token is read from one state to the next. -/
theorem single (h : read s t = .ok s') (hk : s'.depth = s.depth + k) : Reads s [t] s' k := by
  simpa using cons h (nil s') hk

end Reads

/-- A list from its first item to its closer. -/
theorem ReadsExprs.close {o : Opener} {es : List Expr} (h : ReadsExprs (s.openList o) es ts s')
    (ht : t.kind = o.closer) :
    Reads (s.openList o) (ts ++ [t]) (s.withCurrent (o.complete es t.span)) (nestingAll es) := by
  obtain ⟨item, hitem, hitems⟩ := h.items
  have hread := read_closer h.layers ht hitem
  have hclosed : read s' t = .ok (s.withCurrent (o.complete es t.span)) := by
    simpa [hitems, State.openList, State.withCurrent] using hread
  refine ⟨by rw [readAll_append h.readAll, readAll_cons hclosed, Parser.readAll], ?_⟩
  have hinner := depth_le_peak_of_readAll h.readAll
  rw [peak_append h.readAll, peak_cons hclosed, Parser.peak, State.depth_withCurrent]
  rw [h.peak, State.depth_openList] at hinner ⊢
  omega

/-- What can be read to its end without an operator stands alone. -/
theorem readsExpr_primary {e : Expr} (h : Reads s ts (s.withCurrent e) e.nesting) :
    ReadsExpr s e ts (s.withCurrent e) where
  toReads := h
  layers := rfl
  items := rfl
  item := item?_some _ _ _ e
  primary _ := rfl

/-- A list with the token that opens it. -/
theorem ReadsExprs.enclose {o : Opener} {es : List Expr} {c : Token}
    (h : ReadsExprs (s.openList o) es ts s') (ho : read s t = .ok (s.openList o))
    (hc : c.kind = o.closer) :
    Reads s (t :: (ts ++ [c])) (s.withCurrent (o.complete es c.span)) (nestingAll es + 1) := by
  have hlist := Reads.cons ho (h.close hc) (s.depth_openList o)
  rwa [Nat.add_comm] at hlist

mutual

/-- **Every spelling of an expression is read** to its end. -/
theorem reads_of_spells {e : Expr} {ts : List Token} :
    Spells e ts → ∀ s : State, s.current = none → ∃ s', ReadsExpr s e ts s'
  | .number text span, s, hs => by
    have hread : read s ⟨.number, text, span⟩ = .ok (s.withCurrent (.number text span)) := by
      rw [read_of_continues (by simp), extend, hs]
    exact ⟨_, readsExpr_primary (.single hread rfl)⟩
  | .string text span, s, hs => by
    have hread : read s ⟨.string, text, span⟩ = .ok (s.withCurrent (.string text span)) := by
      rw [read_of_continues (by simp), extend, hs]
    exact ⟨_, readsExpr_primary (.single hread rfl)⟩
  | .symbol name span, s, hs => by
    exact ⟨_, readsExpr_primary (.single (read_name hs name span) rfl)⟩
  | @Spells.operation left right _ _ op span hleft hprimary hright, s, hs => by
    obtain ⟨s₁, h₁⟩ := reads_of_spells hleft s hs
    obtain rfl := h₁.primary hprimary
    have hop : read (s.withCurrent left) ⟨.operator, op, span⟩ =
        .ok ((s.withCurrent left).await (.operand left op span)) := by
      rw [read_of_continues (by simp)]
      rfl
    obtain ⟨s₂, h₂⟩ := reads_of_spells hright ((s.withCurrent left).await _) rfl
    have hrest := Reads.cons hop h₂.toReads (State.depth_await _ _)
    have hall := h₁.toReads.append (k := 0) hrest rfl
    refine ⟨s₂, ⟨?_, h₂.layers, h₂.items, h₂.item, fun h => by cases h⟩⟩
    simpa [Expr.nesting, Nat.add_comm] using hall
  | @Spells.call callee args _ _ o c hcallee hprimary ho hargs hc, s, hs => by
    obtain ⟨s₁, h₁⟩ := reads_of_spells hcallee s hs
    obtain rfl := h₁.primary hprimary
    obtain ⟨s₂, h₂⟩ := readsAll_of_spellsAll hargs (⟨.arguments callee, _, _⟩ :: _) [] rfl
    have hlist := h₂.enclose (read_leftParen ho s callee) hc
    have hall := h₁.toReads.append (k := 0) hlist rfl
    refine ⟨_, readsExpr_primary (e := .call callee args (callee.span.till c.span)) ?_⟩
    simpa [Expr.nesting, Opener.complete] using hall
  | @Spells.definition params body _ _ o c o' c' name ho hparams hc ho' hbody hc', s, hs => by
    let symbol := Expr.symbol name.text name.span
    let callSpan := name.span.till c.span
    have hname : read s ⟨.name, name.text, name.span⟩ = .ok (s.withCurrent symbol) :=
      read_name hs name.text name.span
    obtain ⟨s₂, h₂⟩ := readsAll_of_spellsAll hparams (⟨.arguments symbol, _, _⟩ :: _) [] rfl
    have hopen' : read (s.withCurrent (.call symbol params callSpan)) o' =
        .ok ((s.withCurrent (.call symbol params callSpan)).openList
          (.body name params callSpan)) := by
      rw [read_of_continues (by simp [ho']), extend, ho']
      rfl
    obtain ⟨s₃, h₃⟩ := readsAll_of_spellsAll hbody (⟨.body name params callSpan, _, _⟩ :: _) [] rfl
    have hparams := Reads.cons (k := 0) hname (h₂.enclose (read_leftParen ho s symbol) hc) rfl
    have hall := hparams.append (k := 0) (h₃.enclose hopen' hc') rfl
    refine ⟨_, readsExpr_primary (e := .definition name params body (name.span.till c'.span)) ?_⟩
    simpa [Expr.nesting, Opener.complete, callSpan] using hall
  | @Spells.assignment value _ eq target heq hvalue, s, hs => by
    have hassign : read (s.withCurrent (.symbol target.text target.span)) eq =
        .ok ((s.withCurrent (.symbol target.text target.span)).await (.value target)) := by
      rw [read_of_continues (by simp [heq]), extend, heq]
      rfl
    obtain ⟨s₂, h₂⟩ := reads_of_spells hvalue (State.await _ _) rfl
    have hrest := Reads.cons hassign h₂.toReads (State.depth_await _ _)
    have hall := Reads.cons (k := 0) (read_name hs target.text target.span) hrest rfl
    refine ⟨s₂, ⟨?_, h₂.layers, h₂.items, h₂.item, fun h => by cases h⟩⟩
    simpa [Expr.nesting, Nat.add_comm] using hall

/-- Every spelling of several expressions is read to its end. -/
theorem readsAll_of_spellsAll {divider : TokenKind} {es : List Expr} {ts : List Token} :
    SpellsAll divider es ts → ∀ (layers : List Layer) (items : List Expr),
      (⟨layers, items, [], none⟩ : State).divider = divider →
        ∃ s', ReadsExprs ⟨layers, items, [], none⟩ es ts s'
  | .nil, layers, items, _ => ⟨_, .nil _, rfl, none, rfl, rfl⟩
  | @SpellsAll.skip _ _ _ d hd hes, layers, items, hs => by
    have hskip : read ⟨layers, items, [], none⟩ d = .ok ⟨layers, items, [], none⟩ :=
      read_divider (hd.trans hs.symm) rfl
    obtain ⟨s', h'⟩ := readsAll_of_spellsAll hes layers items hs
    refine ⟨s', ?_, h'.layers, h'.items⟩
    simpa using Reads.cons (k := 0) hskip h'.toReads rfl
  | @SpellsAll.last _ e _ he, layers, items, _ => by
    obtain ⟨s', h'⟩ := reads_of_spells he ⟨layers, items, [], none⟩ rfl
    refine ⟨s', ?_, h'.layers, some e, h'.item, by simp [h'.items]⟩
    simpa [nestingAll] using h'.toReads
  | @SpellsAll.cons _ e _ _ _ d he hd hes, layers, items, hs => by
    obtain ⟨s₁, h₁⟩ := reads_of_spells he ⟨layers, items, [], none⟩ rfl
    have hdivider : d.kind = s₁.divider := by
      rw [hd, ← hs, State.divider, State.divider, h₁.layers]
    have hnext : read s₁ d = .ok ⟨layers, e :: items, [], none⟩ := by
      simpa [h₁.layers, h₁.items, completeAll] using read_divider hdivider h₁.item
    obtain ⟨s', h'⟩ := readsAll_of_spellsAll hes layers (e :: items) hs
    obtain ⟨item, hitem, hitems⟩ := h'.items
    refine ⟨s', h₁.toReads.next hnext h'.toReads rfl, h'.layers, item, hitem, ?_⟩
    simpa using hitems

end

variable {p : List Expr}

/-- Behind a spelling of a program the parser may finish. -/
theorem finish_of_reads (h : ReadsExprs .start p ts s') (hdepth : s'.depth ≤ maxNesting) :
    finish s' = .ok p := by
  obtain ⟨item, hitem, hitems⟩ := h.items
  have hlayers : s'.layers = [] := h.layers
  rw [finish, if_neg (Nat.not_lt.mpr hdepth), hitem, hlayers]
  simp [hitems, State.start]

/-- A spelling of a program is read from the start, down to the nesting of the program. -/
theorem readsExprs_start (h : SpellsAll .semicolon p ts) :
    ∃ s', ReadsExprs .start p ts s' ∧ peak .start ts = nestingAll p := by
  obtain ⟨s', h'⟩ : ∃ s', ReadsExprs .start p ts s' := readsAll_of_spellsAll h [] [] rfl
  have hstart : State.start.depth = 0 := rfl
  exact ⟨s', h', by rw [h'.peak, hstart, Nat.zero_add]⟩

/-- **A spelling is accepted** if it is not nested too deep. -/
theorem parse_of_spellsAll (h : SpellsAll .semicolon p ts) (hnesting : nestingAll p ≤ maxNesting) :
    parse ts = .ok p := by
  obtain ⟨s', h', hpeak⟩ := readsExprs_start h
  have hle := hpeak ▸ hnesting
  have hdepth := (depth_le_peak_of_readAll h'.readAll).trans hle
  rw [parse, steps_of_peak_le h'.readAll hle]
  exact finish_of_reads h' hdepth

/-- A spelling that is nested too deep is refused for that. -/
theorem parse_of_spellsAll_of_lt (h : SpellsAll .semicolon p ts)
    (hnesting : maxNesting < nestingAll p) :
    ∃ span, parse ts = .error (.nestingTooDeep maxNesting span) := by
  obtain ⟨s', h', hpeak⟩ := readsExprs_start h
  obtain ⟨span, hsteps⟩ | ⟨hsteps, hdeep⟩ := steps_of_lt_peak h'.readAll (hpeak ▸ hnesting)
  · exact ⟨span, by rw [parse, hsteps]⟩
  · refine ⟨.none, ?_⟩
    rw [parse, hsteps]
    exact if_pos hdeep

end ScopeScript.Parser
