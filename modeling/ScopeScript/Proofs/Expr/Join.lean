import ScopeScript.Proofs.Expr.Accept
import ScopeScript.Proofs.Token.Append

/-!
# Programs of joined texts

A program that ends with a divider, or has no tokens at all, may be followed by another one: the
statements of the two come one after the other. Tokens at other places spell the same program at
other places. Together with the tokens of joined texts this gives the program of joined texts.
-/

namespace ScopeScript

open ScopeScript.Expr

mutual

/-- Moved tokens spell the moved expression. -/
theorem Spells.relocate (g : Location → Location) {e : Expr} {ts : List Token} :
    Spells e ts → Spells (e.relocate g) (ts.map (Token.relocate g))
  | .number text s => .number text _
  | .string text s => .string text _
  | .symbol name s => .symbol name _
  | .operation op s hleft hprimary hright => by
    rw [List.map_append, List.map_cons]
    refine .operation op _ (hleft.relocate g) ?_ (hright.relocate g)
    rwa [isPrimary_relocate]
  | @Spells.call callee args ts ts' o c hcallee hprimary ho hargs hc => by
    have hprimary' : (callee.relocate g).isPrimary = true := by rwa [isPrimary_relocate]
    have ho' : (o.relocate g).kind = .leftParen := ho
    have hc' : (c.relocate g).kind = .rightParen := hc
    have hcall := Spells.call (hcallee.relocate g) hprimary' ho' (hargs.relocate g) hc'
    rw [span_relocate] at hcall
    simpa [Expr.relocate] using hcall
  | @Spells.definition params body ts ts' o c o' c' name ho hparams hc ho' hbody hc' => by
    have hopen : (o.relocate g).kind = .leftParen := ho
    have hclose : (c.relocate g).kind = .rightParen := hc
    have hopen' : (o'.relocate g).kind = .leftBrace := ho'
    have hclose' : (c'.relocate g).kind = .rightBrace := hc'
    have hdefinition := Spells.definition (name.relocate g) hopen (hparams.relocate g) hclose
      hopen' (hbody.relocate g) hclose'
    simpa [Expr.relocate, Name.relocate, Token.relocate] using hdefinition
  | @Spells.assignment value ts eq target heq hvalue => by
    have heq' : (eq.relocate g).kind = .equal := heq
    have hassignment := Spells.assignment (target.relocate g) heq' (hvalue.relocate g)
    rw [span_relocate] at hassignment
    simpa [Expr.relocate, Name.relocate, Token.relocate] using hassignment

/-- Moved tokens spell the moved expressions. -/
theorem SpellsAll.relocate (g : Location → Location) {divider : TokenKind} {es : List Expr}
    {ts : List Token} :
    SpellsAll divider es ts → SpellsAll divider (relocateAll g es) (ts.map (Token.relocate g))
  | .nil => .nil
  | .skip hd hes => .skip hd (hes.relocate g)
  | .last he => .last (he.relocate g)
  | .cons he hd hes => by
    rw [List.map_append, List.map_cons]
    exact .cons (he.relocate g) hd (hes.relocate g)

end

/-! ## One program behind another -/

/-- The last token, if there is one, is of a kind. -/
def EndsWith (kind : TokenKind) (ts : List Token) : Prop := ∀ t ∈ ts.getLast?, t.kind = kind

/-- The last token of a list is that of every list that ends with it. -/
theorem mem_getLast?_append {ts' : List Token} {t : Token} (h : t ∈ ts'.getLast?)
    (ts : List Token) : t ∈ (ts ++ ts').getLast? := by
  rw [Option.mem_def] at h ⊢
  rw [List.getLast?_append, h, Option.some_or]

/-- What tokens end with, their last tokens end with. -/
theorem EndsWith.of_append {kind : TokenKind} {ts ts' : List Token}
    (h : EndsWith kind (ts ++ ts')) :
    EndsWith kind ts' := fun t ht => h t (mem_getLast?_append ht ts)

/-- What ends with a token of a kind does so without its first one. -/
theorem EndsWith.of_cons {kind : TokenKind} {t : Token} {ts : List Token}
    (h : EndsWith kind (t :: ts)) : EndsWith kind ts := fun u hu => h u (mem_getLast?_append hu [t])

/-- Lists that end with tokens of a kind, one behind the other. -/
theorem EndsWith.append {kind : TokenKind} {ts ts' : List Token} (h : EndsWith kind ts)
    (h' : EndsWith kind ts') : EndsWith kind (ts ++ ts') := by
  intro t ht
  rw [Option.mem_def, List.getLast?_append] at ht
  cases hlast : ts'.getLast? with
  | none =>
    rw [hlast, Option.none_or] at ht
    exact h t ht
  | some u =>
    rw [hlast, Option.some_or] at ht
    exact h' t (hlast.trans ht)

/-- No expression is empty, and none ends with a divider. -/
theorem Spells.exists_getLast? {e : Expr} {ts : List Token} :
    Spells e ts → ∃ t ∈ ts.getLast?, t.kind ≠ .comma ∧ t.kind ≠ .semicolon
  | .number text s => ⟨_, rfl, by simp⟩
  | .string text s => ⟨_, rfl, by simp⟩
  | .symbol name s => ⟨_, rfl, by simp⟩
  | .operation op s _ _ hright => by
    obtain ⟨t, ht, hkind⟩ := hright.exists_getLast?
    exact ⟨t, mem_getLast?_append (mem_getLast?_append ht [_]) _, hkind⟩
  | @Spells.call _ _ ts ts' o c _ _ _ _ hc => by
    have hlast : c ∈ [c].getLast? := rfl
    exact ⟨c, mem_getLast?_append (mem_getLast?_append hlast (o :: ts')) ts, by simp [hc]⟩
  | @Spells.definition _ _ ts ts' o c o' c' name _ _ _ _ _ hc => by
    have hlast : c' ∈ [c'].getLast? := rfl
    have hbody := mem_getLast?_append hlast (c :: o' :: ts')
    exact ⟨c', mem_getLast?_append hbody (⟨.name, name.text, name.span⟩ :: o :: ts), by simp [hc]⟩
  | .assignment target _ hvalue => by
    obtain ⟨t, ht, hkind⟩ := hvalue.exists_getLast?
    exact ⟨t, mem_getLast?_append ht [_, _], hkind⟩

/-- Expressions that end with a divider may be followed by others. -/
theorem SpellsAll.append {divider : TokenKind} {es' : List Expr} {ts' : List Token}
    (hdivider : divider = .comma ∨ divider = .semicolon) (hes' : SpellsAll divider es' ts') :
    ∀ {es : List Expr} {ts : List Token}, SpellsAll divider es ts → EndsWith divider ts →
      SpellsAll divider (es ++ es') (ts ++ ts')
  | _, _, .nil, _ => hes'
  | _, _, .skip hd hes, hends => .skip hd (append hdivider hes' hes hends.of_cons)
  | _, _, .last he, hends => by
    obtain ⟨t, ht, hcomma, hsemicolon⟩ := he.exists_getLast?
    have hkind := hends t ht
    obtain rfl | rfl := hdivider
    · exact absurd hkind hcomma
    · exact absurd hkind hsemicolon
  | _, _, .cons he hd hes, hends => by
    rw [List.append_assoc]
    exact .cons he hd (append hdivider hes' hes hends.of_append.of_cons)

/-- The nesting of lists one behind the other. -/
theorem nestingAll_append (es es' : List Expr) :
    nestingAll (es ++ es') = max (nestingAll es) (nestingAll es') := by
  induction es with
  | nil => exact (Nat.zero_max _).symm
  | cons e rest ih => rw [List.cons_append, nestingAll, nestingAll, ih, Nat.max_assoc]

/-- **The program of joined tokens**: the statements of the first tokens, if these end with a
divider, and those of the others. -/
theorem parse_append {ts ts' : List Token} {p p' : List Expr} (h : parse ts = .ok p)
    (hends : EndsWith .semicolon ts) (h' : parse ts' = .ok p') (g : Location → Location) :
    parse (ts ++ ts'.map (Token.relocate g)) = .ok (p ++ relocateAll g p') := by
  rw [parse_eq_ok_iff] at h h' ⊢
  refine ⟨SpellsAll.append (.inr rfl) (h'.1.relocate g) h.1 hends, ?_⟩
  rw [nestingAll_append, nestingAll_relocateAll]
  exact max_le h.2 h'.2

end ScopeScript
