import ScopeScript.Proofs.Expr.Join
import ScopeScript.Proofs.Expr.Node

/-!
# The tokens of a node

Every node of a program was read from neighbouring tokens, and its span reaches from the start of
the first of them to the end of the last. The ranges of the nodes right below it lie one behind
the other within its own, and what is between them is what the node itself is made of: its name or
text, its operator, parentheses and braces, and the dividers of its lists.

A node keeps no positions of tokens, so the ranges are found along the grammar: the tokens that
spell a node stand at some position, and those of its parts stand behind one another there.
-/

namespace ScopeScript

open ScopeScript.Expr

/-- Neighbouring tokens of a list, by position: from `first` up to the one before `stop`. -/
structure TokenRange where
  first : Nat
  stop : Nat
  deriving Repr, DecidableEq

namespace TokenRange

/-- The tokens of a range. -/
def tokens (ts : List Token) (r : TokenRange) : List Token := ts.extract r.first r.stop

/-- The ranges lie one behind the other between two positions, and none is empty. -/
def InOrder : (i : Nat) → List TokenRange → (j : Nat) → Prop
  | i, [], j => i ≤ j
  | i, r :: rs, j => i ≤ r.first ∧ r.first < r.stop ∧ InOrder r.stop rs j

/-- The tokens between two positions that are in none of the ranges. -/
def outside (ts : List Token) : (i : Nat) → List TokenRange → (j : Nat) → List Token
  | i, [], j => ts.extract i j
  | i, r :: rs, j => ts.extract i r.first ++ outside ts r.stop rs j

end TokenRange

open ScopeScript.TokenRange

namespace Expr

/-- The words that belong to a node and to none of its parts, but for dividers. -/
def ownWords : Expr → List Word
  | number text _ => [⟨.number, text⟩]
  | string text _ => [⟨.string, text⟩]
  | symbol name _ => [⟨.name, name⟩]
  | operation op _ _ _ => [⟨.operator, op⟩]
  | call _ _ _ => [mark .leftParen, mark .rightParen]
  | definition name _ _ _ =>
    [⟨.name, name.text⟩, mark .leftParen, mark .rightParen, mark .leftBrace, mark .rightBrace]
  | assignment target _ _ => [⟨.name, target.text⟩, mark .equal]

/-- The kind of token that closes a node, if there is one. -/
def closer? : Expr → Option TokenKind
  | call _ _ _ => some .rightParen
  | definition _ _ _ _ => some .rightBrace
  | _ => none

end Expr

/-- The operator of an operation stands between its operands, where the node says. -/
def OperatorBetween (ts : List Token) : Expr → List TokenRange → Prop
  | .operation op _ _ s, [left, right] =>
    ∃ k, left.stop ≤ k ∧ k < right.first ∧ ts[k]? = some ⟨.operator, op, s⟩
  | .operation _ _ _ _, _ => False
  | _, _ => True

/-- A range holds the tokens of a node, and among them ranges for its parts. -/
structure Covers (ts : List Token) (e : Expr) (r : TokenRange) (parts : List TokenRange) :
    Prop where
  nonempty : r.first < r.stop
  le_length : r.stop ≤ ts.length
  spells : Spells e (r.tokens ts)
  /-- The span is that of the tokens, and the last of them closes what is to be closed. -/
  ends : ∃ first ∈ (r.tokens ts).head?, ∃ last ∈ (r.tokens ts).getLast?,
    e.span = first.span.till last.span ∧ ∀ kind ∈ e.closer?, last.kind = kind
  inOrder : InOrder r.first parts r.stop
  /-- All other tokens are the node's own. -/
  own : ((outside ts r.first parts r.stop).map Token.word).filter (!·.isDivider) = e.ownWords
  operator : OperatorBetween ts e parts

/-- The range holds the tokens of the node, and so on for all nodes below. -/
inductive Covered (ts : List Token) : Expr → TokenRange → Prop
  | node {e r parts} :
    Covers ts e r parts → List.Forall₂ (Covered ts) e.children parts → Covered ts e r

/-! ## Tokens at a position -/

variable {ts us vs own own' : List Token} {t : Token} {e : Expr} {i j k : Nat}
  {rs rs' : List TokenRange}

/-- The tokens `us` stand at a position. -/
def StandAt (ts : List Token) (i : Nat) (us : List Token) : Prop := us <+: ts.drop i

namespace StandAt

/-- The first part of what stands at a position stands there. -/
theorem left (h : StandAt ts i (us ++ vs)) : StandAt ts i us :=
  (List.prefix_append us vs).trans h

/-- The second part stands behind the first one. -/
theorem right (h : StandAt ts i (us ++ vs)) : StandAt ts (i + us.length) vs := by
  obtain ⟨rest, hrest⟩ := h
  refine ⟨rest, ?_⟩
  rw [← List.drop_drop, ← hrest, List.append_assoc, List.drop_left]

/-- The first token stands at the position. -/
theorem head (h : StandAt ts i (t :: us)) : StandAt ts i [t] :=
  @left ts [t] us i h

/-- The other tokens stand one further. -/
theorem tail (h : StandAt ts i (t :: us)) : StandAt ts (i + 1) us :=
  @right ts [t] us i h

/-- The token that stands at a position. -/
theorem getElem? (h : StandAt ts i [t]) : ts[i]? = some t := by
  obtain ⟨rest, hrest⟩ := h
  rw [← List.head?_drop, ← hrest]
  rfl

/-- The tokens from a position on are those that stand there. -/
theorem extract (h : StandAt ts i us) : ts.extract i (i + us.length) = us := by
  rw [List.extract_eq_take_drop, Nat.add_sub_cancel_left]
  exact (List.prefix_iff_eq_take.mp h).symm

/-- What stands at a position ends within the text. -/
theorem le_length (h : StandAt ts i us) (hus : us ≠ []) : i + us.length ≤ ts.length := by
  have hlength := h.length_le
  have hpos := List.length_pos_iff.mpr hus
  rw [List.length_drop] at hlength
  omega

end StandAt

/-! ## Ranges behind one another -/

/-- Ranges one behind the other are in order. -/
theorem TokenRange.InOrder.append (h : InOrder i rs k) (h' : InOrder k rs' j) :
    InOrder i (rs ++ rs') j := by
  induction rs generalizing i with
  | nil =>
    cases rs' with
    | nil => exact Nat.le_trans h h'
    | cons r rest => exact ⟨Nat.le_trans h h'.1, h'.2⟩
  | cons r rest ih => exact ⟨h.1, h.2.1, ih h.2.2⟩

/-- Tokens from a place to another and on to a third. -/
theorem extract_append_extract (h : i ≤ k) (h' : k ≤ j) :
    ts.extract i k ++ ts.extract k j = ts.extract i j := by
  have hlength : j - i = k - i + (j - k) := by omega
  have hdrop : k = i + (k - i) := by omega
  rw [List.extract_eq_take_drop, List.extract_eq_take_drop, List.extract_eq_take_drop, hlength,
    List.take_add, List.drop_drop, ← hdrop]

/-- What is outside of ranges one behind the other. -/
theorem outside_append (h : InOrder i rs k) (h' : InOrder k rs' j) :
    outside ts i (rs ++ rs') j = outside ts i rs k ++ outside ts k rs' j := by
  induction rs generalizing i with
  | nil =>
    cases rs' with
    | nil => exact (extract_append_extract h h').symm
    | cons r rest =>
      rw [List.nil_append, outside, outside, outside, ← List.append_assoc,
        extract_append_extract h h'.1]
  | cons r rest ih =>
    rw [List.cons_append, outside, outside, ih h.2.2, List.append_assoc]

/-- The tokens `us` stand at a position, and leave `own` outside of some ranges among them. -/
structure Leaves (ts : List Token) (i : Nat) (us : List Token) (rs : List TokenRange)
    (own : List Token) : Prop where
  standAt : StandAt ts i us
  inOrder : InOrder i rs (i + us.length)
  outside_eq : outside ts i rs (i + us.length) = own

namespace Leaves

/-- Without ranges all tokens are outside. -/
theorem all (h : StandAt ts i us) : Leaves ts i us [] us := ⟨h, Nat.le_add_right _ _, h.extract⟩

/-- A range of all tokens leaves none. -/
theorem none (h : StandAt ts i us) (hus : us ≠ []) : Leaves ts i us [⟨i, i + us.length⟩] [] where
  standAt := h
  inOrder := ⟨Nat.le_refl _, Nat.lt_add_of_pos_right (List.length_pos_iff.mpr hus), Nat.le_refl _⟩
  outside_eq := by simp [outside]

/-- Tokens one behind the other leave what each of them leaves. -/
theorem append (h : Leaves ts i us rs own) (h' : Leaves ts (i + us.length) vs rs' own')
    (hstand : StandAt ts i (us ++ vs)) :
    Leaves ts i (us ++ vs) (rs ++ rs') (own ++ own') where
  standAt := hstand
  inOrder := by
    rw [List.length_append, ← Nat.add_assoc]
    exact h.inOrder.append h'.inOrder
  outside_eq := by
    rw [List.length_append, ← Nat.add_assoc, outside_append h.inOrder h'.inOrder, h.outside_eq,
      h'.outside_eq]

end Leaves

/-! ## From the grammar to ranges -/

/-- The span of what is spelled reaches from its first token to its last one, which closes it. -/
theorem Spells.exists_ends {e : Expr} {us : List Token} (h : Spells e us) :
    ∃ first ∈ us.head?, ∃ last ∈ us.getLast?,
      e.span = first.span.till last.span ∧ ∀ kind ∈ e.closer?, last.kind = kind := by
  cases h with
  | number text s => exact ⟨_, rfl, _, rfl, rfl, by simp [closer?]⟩
  | string text s => exact ⟨_, rfl, _, rfl, rfl, by simp [closer?]⟩
  | symbol name s => exact ⟨_, rfl, _, rfl, rfl, by simp [closer?]⟩
  | operation op s hleft hprimary hright =>
    obtain ⟨first, hfirst, _, _, hspan, -⟩ := hleft.exists_ends
    obtain ⟨_, _, last, hlast, hspan', -⟩ := hright.exists_ends
    refine ⟨first, List.mem_head?_append_of_mem_head? hfirst, last, ?_, ?_, by simp [closer?]⟩
    · exact mem_getLast?_append (mem_getLast?_append hlast [_]) _
    · rw [Expr.span, hspan, hspan']
      rfl
  | @call _ _ us us' o c hcallee _ _ _ hc =>
    obtain ⟨first, hfirst, _, _, hspan, -⟩ := hcallee.exists_ends
    have hlast : c ∈ (o :: us' ++ [c]).getLast? := mem_getLast?_append rfl _
    refine ⟨first, List.mem_head?_append_of_mem_head? hfirst, c, mem_getLast?_append hlast us, ?_,
      by simp [closer?, hc]⟩
    rw [Expr.span, hspan]
    rfl
  | @definition _ _ us us' o c o' c' name _ _ _ _ _ hc' =>
    have hlast : c' ∈ (c :: o' :: us' ++ [c']).getLast? := mem_getLast?_append rfl _
    refine ⟨⟨.name, name.text, name.span⟩, rfl, c', ?_, rfl, by simp [closer?, hc']⟩
    exact mem_getLast?_append hlast (⟨.name, name.text, name.span⟩ :: o :: us)
  | assignment target _ hvalue =>
    obtain ⟨_, _, last, hlast, hspan, -⟩ := hvalue.exists_ends
    refine ⟨⟨.name, target.text, target.span⟩, rfl, last, ?_, ?_, by simp [closer?]⟩
    · exact mem_getLast?_append hlast [_, _]
    · rw [Expr.span, hspan]
      rfl
termination_by sizeOf e

/-- No expression is spelled by no tokens. -/
theorem Spells.ne_nil (h : Spells e us) : us ≠ [] := by
  obtain ⟨first, hfirst, -⟩ := h.exists_ends
  rintro rfl
  cases hfirst

/-- Tokens that spell a node, with ranges for its parts among them. -/
theorem Spells.covers (h : Spells e us) (hleaves : Leaves ts i us rs own)
    (hown : (own.map Token.word).filter (!·.isDivider) = e.ownWords)
    (hoperator : OperatorBetween ts e rs) : Covers ts e ⟨i, i + us.length⟩ rs := by
  have htokens : TokenRange.tokens ts ⟨i, i + us.length⟩ = us := hleaves.standAt.extract
  exact {
    nonempty := Nat.lt_add_of_pos_right (List.length_pos_iff.mpr h.ne_nil)
    le_length := hleaves.standAt.le_length h.ne_nil
    spells := htokens.symm ▸ h
    ends := htokens.symm ▸ h.exists_ends
    inOrder := hleaves.inOrder
    own := hleaves.outside_eq.symm ▸ hown
    operator := hoperator }

variable {o c : Token} {divider : TokenKind}

/-- The tokens of a list, with the token that opens it and the one that closes it. -/
theorem Leaves.enclose (h : Leaves ts (i + 1) us rs own)
    (hstand : StandAt ts i (o :: (us ++ [c]))) :
    Leaves ts i (o :: (us ++ [c])) rs (o :: (own ++ [c])) := by
  have hlist := h.append (Leaves.all hstand.tail.right) hstand.tail
  rw [List.append_nil] at hlist
  exact (Leaves.all hstand.head).append hlist hstand

/-- Of the words of a list, only the dividers are left out. -/
theorem filter_words_enclosed {ds : List Token} {kind kind' : TokenKind}
    (hds : ∀ d ∈ ds, d.kind = divider) (hdivider : (mark divider).isDivider = true)
    (ho : o.word = mark kind) (hc : c.word = mark kind')
    (hkind : (mark kind).isDivider = false ∧ (mark kind').isDivider = false) :
    ((o :: (ds ++ [c])).map Token.word).filter (!·.isDivider) = [mark kind, mark kind'] := by
  have hnone : (ds.map Token.word).filter (!·.isDivider) = [] := by
    refine List.filter_eq_nil_iff.mpr fun w hw => ?_
    obtain ⟨d, hd, rfl⟩ := List.mem_map.mp hw
    simp [Token.word_of_isDivider (hds d hd) hdivider, hdivider]
  simp only [List.map_cons, List.map_append, List.map_nil, ho, hc, List.filter_cons,
    List.filter_append, hnone, hkind]
  rfl

mutual

/-- **What is spelled is covered** by the range where its tokens stand. -/
theorem Spells.covered {e : Expr} {us : List Token} {i : Nat} :
    Spells e us → StandAt ts i us → Covered ts e ⟨i, i + us.length⟩
  | .number text s, h => .node ((Spells.number text s).covers (.all h) rfl trivial) .nil
  | .string text s, h => .node ((Spells.string text s).covers (.all h) rfl trivial) .nil
  | .symbol name s, h => .node ((Spells.symbol name s).covers (.all h) rfl trivial) .nil
  | @Spells.operation left right us us' op s hleft hprimary hright, h => by
    have hleaves := (Leaves.none h.left hleft.ne_nil).append
      ((Leaves.all h.right.head).append (Leaves.none h.right.tail hright.ne_nil) h.right) h
    refine .node ((Spells.operation op s hleft hprimary hright).covers hleaves rfl ?_) ?_
    · exact ⟨i + us.length, Nat.le_refl _, Nat.lt_succ_self _, h.right.head.getElem?⟩
    · exact .cons (hleft.covered h.left) (.cons (hright.covered h.right.tail) .nil)
  | @Spells.call callee args us us' o c hcallee hprimary ho hargs hc, h => by
    obtain ⟨rs, hrs, ds, hds, hlist⟩ := hargs.covered h.right.tail.left
    have hleaves := (Leaves.none h.left hcallee.ne_nil).append (hlist.enclose h.right) h
    refine .node ((Spells.call hcallee hprimary ho hargs hc).covers hleaves ?_ trivial) ?_
    · exact filter_words_enclosed hds rfl (Token.word_eq_mark ho (by simp))
        (Token.word_eq_mark hc (by simp)) ⟨rfl, rfl⟩
    · exact .cons (hcallee.covered h.left) hrs
  | @Spells.definition params body us us' o c o' c' name ho hparams hc ho' hbody hc', h => by
    have hwhole : o :: (us ++ c :: o' :: (us' ++ [c'])) =
      (o :: (us ++ [c])) ++ (o' :: (us' ++ [c'])) := by simp
    have h' := hwhole ▸ h.tail
    obtain ⟨rs, hrs, ds, hds, hlist⟩ := hparams.covered h'.left.tail.left
    obtain ⟨rs', hrs', ds', hds', hlist'⟩ := hbody.covered h'.right.tail.left
    have hleaves := (Leaves.all h.head).append
      (hwhole ▸ (hlist.enclose h'.left).append (hlist'.enclose h'.right) h') h
    refine .node ((Spells.definition name ho hparams hc ho' hbody hc').covers hleaves ?_ trivial) ?_
    · have hparams' := filter_words_enclosed hds rfl (Token.word_eq_mark ho (by simp))
        (Token.word_eq_mark hc (by simp)) ⟨rfl, rfl⟩
      have hbody' := filter_words_enclosed hds' rfl (Token.word_eq_mark ho' (by simp))
        (Token.word_eq_mark hc' (by simp)) ⟨rfl, rfl⟩
      rw [List.map_append, List.filter_append, List.map_append, List.filter_append, hparams',
        hbody']
      rfl
    · exact List.rel_append hrs hrs'
  | @Spells.assignment value us eq target heq hvalue, h => by
    have hleaves := (Leaves.all h.head).append
      ((Leaves.all h.tail.head).append (Leaves.none h.tail.tail hvalue.ne_nil) h.tail) h
    refine .node ((Spells.assignment target heq hvalue).covers hleaves ?_ trivial) ?_
    · rw [List.append_nil, List.map_append, List.map_cons, List.map_cons,
        Token.word_eq_mark heq (by simp)]
      rfl
    · exact .cons (hvalue.covered h.tail.tail) .nil

/-- What is spelled as a list is covered, and only its dividers are outside. -/
theorem SpellsAll.covered {divider : TokenKind} {es : List Expr} {us : List Token} {i : Nat} :
    SpellsAll divider es us → StandAt ts i us →
      ∃ rs, List.Forall₂ (Covered ts) es rs ∧
        ∃ ds, (∀ d ∈ ds, d.kind = divider) ∧ Leaves ts i us rs ds
  | .nil, h => ⟨[], .nil, [], by simp, .all h⟩
  | .skip hd hes, h => by
    obtain ⟨rs, hrs, ds, hds, hleaves⟩ := hes.covered h.tail
    exact ⟨rs, hrs, _, List.forall_mem_cons.mpr ⟨hd, hds⟩, (Leaves.all h.head).append hleaves h⟩
  | .last he, h => ⟨[_], .cons (he.covered h) .nil, [], by simp, .none h he.ne_nil⟩
  | .cons he hd hes, h => by
    obtain ⟨rs, hrs, ds, hds, hleaves⟩ := hes.covered h.right.tail
    refine ⟨_, .cons (he.covered h.left) hrs, _, List.forall_mem_cons.mpr ⟨hd, hds⟩, ?_⟩
    exact (Leaves.none h.left he.ne_nil).append
      ((Leaves.all h.right.head).append hleaves h.right) h

end

/-- **Every node covers its tokens.** The statements of a program were read from ranges of its
tokens that lie one behind the other, with nothing but dividers between them, and so were the parts
of every node, with nothing but its own tokens and dividers between them. The span of each node
reaches from the first token of its range to the last. -/
theorem parse_covered {ts : List Token} {p : List Expr} (h : parse ts = .ok p) :
    ∃ rs, InOrder 0 rs ts.length ∧ List.Forall₂ (Covered ts) p rs ∧
      ∀ t ∈ outside ts 0 rs ts.length, t.kind = .semicolon := by
  have hstand : StandAt ts 0 ts := List.prefix_rfl
  obtain ⟨rs, hrs, ds, hds, hleaves⟩ := (spellsAll_of_parse h).covered hstand
  have hinOrder := hleaves.inOrder
  have houtside := hleaves.outside_eq
  rw [Nat.zero_add] at hinOrder houtside
  exact ⟨rs, hinOrder, hrs, houtside ▸ hds⟩

/-- A definition over two lines, with a call in an operation in an assignment. -/
def twoLineDefinition : String := ";f(a, b)\x7b\n x = a + g(b)(); \x7d;"

/-- The one statement has one range of tokens, and its span ends on the second line. -/
theorem parse_covered_twoLineDefinition :
    ∃ ts e, tokenize twoLineDefinition = .ok ts ∧ parse ts = .ok [e] ∧
      e.span = ⟨⟨1, 2⟩, ⟨2, 19⟩⟩ ∧
      ∃ r, InOrder 0 [r] ts.length ∧ Covered ts e r ∧
        ∀ t ∈ outside ts 0 [r] ts.length, t.kind = .semicolon := by
  obtain ⟨ts, e, hts, hparse, hspan⟩ : ∃ ts e, tokenize twoLineDefinition = .ok ts ∧
      parse ts = .ok [e] ∧ e.span = ⟨⟨1, 2⟩, ⟨2, 19⟩⟩ := ⟨_, _, by cbv, by cbv, by decide⟩
  obtain ⟨rs, hinOrder, hrs, houtside⟩ := parse_covered hparse
  obtain ⟨r, rs, hr, hnil, rfl⟩ := List.forall₂_cons_left_iff.mp hrs
  obtain rfl := List.forall₂_nil_left_iff.mp hnil
  exact ⟨ts, e, hts, hparse, hspan, r, hinOrder, hr, houtside⟩

end ScopeScript
