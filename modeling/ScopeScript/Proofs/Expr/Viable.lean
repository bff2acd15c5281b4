import Mathlib.Order.Bounds.Defs
import ScopeScript.Proofs.Expr.Reading

/-!
# Viable prefixes

Tokens that the parser has read so far are viable if more tokens can follow that make them a
program. Whatever lists are open and whatever operators wait, an operand and the closers of the
lists do, so all that matters is that the depth is allowed. Each error then says whether the
tokens are viable: at the end of the input the parser only misses tokens, and anywhere else it
stops at the first token that nothing can follow.
-/

namespace ScopeScript

/-- The tokens spell a program that is not nested too deep. -/
def Accepted (ts : List Token) : Prop := ∃ p, parse ts = .ok p

/-- The tokens are the beginning of accepted ones. -/
def Viable (ts : List Token) : Prop := ∃ us, Accepted (ts ++ us)

/-- The front of a beginning is one. -/
theorem Viable.of_append {ts us : List Token} (h : Viable (ts ++ us)) : Viable ts := by
  obtain ⟨vs, hvs⟩ := h
  exact ⟨us ++ vs, by rwa [← List.append_assoc]⟩

namespace Parser

variable {s s' : State} {t : Token} {ts us : List Token} {e : ParseError}

/-! ## Reading on -/

/-- Tokens that can be read are read before those behind them. -/
theorem steps_append (h : steps s ts = .ok s') (us : List Token) :
    steps s (ts ++ us) = steps s' us := by
  induction ts generalizing s with
  | nil =>
    cases h
    rfl
  | cons t rest ih =>
    rw [steps] at h
    rw [List.cons_append, steps]
    cases hstep : step s t with
    | error e => simp [hstep] at h
    | ok s₁ =>
      rw [hstep] at h
      exact ih h

/-- An error stays, whatever follows. -/
theorem steps_append_of_error (h : steps s ts = .error e) (us : List Token) :
    steps s (ts ++ us) = .error e := by
  induction ts generalizing s with
  | nil => cases h
  | cons t rest ih =>
    rw [steps] at h
    rw [List.cons_append, steps]
    cases hstep : step s t with
    | error e' => simpa [hstep] using h
    | ok s₁ =>
      rw [hstep] at h
      exact ih h

/-- An error is that of one token, all before which can be read. -/
theorem exists_step_of_steps_error (h : steps s ts = .error e) :
    ∃ before t after s', ts = before ++ t :: after ∧ steps s before = .ok s' ∧
      step s' t = .error e := by
  induction ts generalizing s with
  | nil => cases h
  | cons t rest ih =>
    rw [steps] at h
    cases hstep : step s t with
    | error e' =>
      rw [hstep] at h
      cases h
      exact ⟨[], t, rest, s, rfl, rfl, hstep⟩
    | ok s₁ =>
      rw [hstep] at h
      obtain ⟨before, t', after, s', rfl, hbefore, herror⟩ := ih h
      exact ⟨t :: before, t', after, s', rfl, by rw [steps, hstep]; exact hbefore, herror⟩

/-! ## The faults of single tokens -/

/-- A token is refused because nothing allows it or because it cannot be assigned to. -/
theorem read_error (h : read s t = .error e) :
    e = unexpected t ∨ ∃ text span, e = .invalidAssignmentTarget text span := by
  rw [read] at h
  split at h
  · rw [endItem] at h
    split at h
    · cases h
      exact .inl rfl
    · dsimp only at h
      split at h
      · cases h
      · split at h <;> cases h
  · rw [extend] at h
    split at h <;> cases h
    · exact .inr ⟨_, _, rfl⟩
    · exact .inl rfl

/-- A token is refused because of the nesting, because it is unexpected or because of what is
assigned to. -/
theorem step_error (h : step s t = .error e) :
    (maxNesting < s.depth ∧ ∃ span, e = .nestingTooDeep maxNesting span) ∨
      s.depth ≤ maxNesting ∧
        (e = unexpected t ∨ ∃ text span, e = .invalidAssignmentTarget text span) := by
  rw [step] at h
  split at h
  · next hdeep =>
    cases h
    exact .inl ⟨hdeep, _, rfl⟩
  · next hdeep => exact .inr ⟨Nat.not_lt.mp hdeep, read_error h⟩

/-- At the end of the input the depth is not allowed or tokens are missing. -/
theorem finish_error (h : finish s = .error e) :
    (maxNesting < s.depth ∧ ∃ span, e = .nestingTooDeep maxNesting span) ∨
      s.depth ≤ maxNesting ∧ ∃ expected, e = .unexpectedEndOfInput expected := by
  rw [finish] at h
  split at h
  · next hdeep =>
    cases h
    exact .inl ⟨hdeep, _, rfl⟩
  · next hdeep =>
    refine .inr ⟨Nat.not_lt.mp hdeep, ?_⟩
    split at h <;> cases h <;> exact ⟨_, rfl⟩

/-! ## Completing what is open -/

/-- A list that is closed was deeper than what is around it. -/
theorem depth_closed_lt (l : Layer) (layers : List Layer) (items items' : List Expr)
    (pending : List Pending) (current current' : Option Expr) :
    State.depth ⟨layers, items', l.pending, current'⟩ <
      State.depth ⟨l :: layers, items, pending, current⟩ := by
  have hsum : pending.length + l.pending.length + 1 = l.pending.length + (pending.length + 1) := by
    omega
  simp only [State.depth, List.foldl_cons, hsum, State.foldl_depth]
  omega

/-- The tokens that end a program in a state where they are allowed. -/
def Completes (s : State) (us : List Token) : Prop :=
  ∃ s' p, steps s us = .ok s' ∧ finish s' = .ok p

/-- A token that can be read in front of those that end a program. -/
theorem Completes.cons (hdepth : s.depth ≤ maxNesting) (hread : read s t = .ok s')
    (h : Completes s' us) : Completes s (t :: us) := by
  obtain ⟨s'', p, hsteps, hfinish⟩ := h
  refine ⟨s'', p, ?_, hfinish⟩
  rw [steps, step, if_neg (Nat.not_lt.mpr hdepth), hread]
  exact hsteps

/-- **Behind a whole item** the closers of the open lists end the program. -/
theorem exists_completes_of_item {layers : List Layer} {items : List Expr} {pending : List Pending}
    {current item : Option Expr} (hitem : State.item? ⟨layers, items, pending, current⟩ = some item)
    (hdepth : State.depth ⟨layers, items, pending, current⟩ ≤ maxNesting) :
    ∃ us, Completes ⟨layers, items, pending, current⟩ us := by
  induction layers generalizing items pending current item with
  | nil =>
    refine ⟨[], _, (item.toList ++ items).reverse, rfl, ?_⟩
    rw [finish, if_neg (Nat.not_lt.mpr hdepth), hitem]
  | cons l layers ih =>
    have hclosed := depth_closed_lt l layers items l.items pending current
    obtain ⟨us, hus⟩ := ih (item?_some layers l.items l.pending _) ((hclosed _).le.trans hdepth)
    exact ⟨⟨l.opener.closer, "", .none⟩ :: us, .cons hdepth (read_closer rfl rfl hitem) hus⟩

/-- **Every state can be completed** whose depth is allowed: an operator that waits for its right
side takes a number. -/
theorem exists_completes (hdepth : s.depth ≤ maxNesting) : ∃ us, Completes s us := by
  obtain ⟨layers, items, pending, current⟩ := s
  cases hitem : State.item? ⟨layers, items, pending, current⟩ with
  | some item => exact exists_completes_of_item hitem hdepth
  | none =>
    cases current with
    | some e => simp [item?_some] at hitem
    | none =>
      have hread : read ⟨layers, items, pending, none⟩ ⟨.number, "0", .none⟩ =
          .ok ⟨layers, items, pending, some (.number "0" .none)⟩ :=
        read_of_continues (by simp) _
      obtain ⟨us, hus⟩ := exists_completes_of_item (item?_some layers items pending _) hdepth
      exact ⟨_, .cons hdepth hread hus⟩

/-- What can be read within the allowed depth is viable. -/
theorem viable_of_steps (h : steps .start ts = .ok s) (hdepth : s.depth ≤ maxNesting) :
    Viable ts := by
  obtain ⟨us, s', p, hsteps, hfinish⟩ := exists_completes hdepth
  refine ⟨us, p, ?_⟩
  rw [parse, steps_append h, hsteps]
  exact hfinish

/-- What cannot be read is not viable. -/
theorem not_viable_of_steps_error (h : steps .start ts = .error e) : ¬ Viable ts := by
  rintro ⟨us, p, hp⟩
  rw [parse, steps_append_of_error h] at hp
  cases hp

/-- What leads too deep is not viable. -/
theorem not_viable_of_lt_depth (h : steps .start ts = .ok s) (hdepth : maxNesting < s.depth) :
    ¬ Viable ts := by
  rintro ⟨us, p, hp⟩
  rw [parse, steps_append h] at hp
  cases us with
  | nil => simp [steps, finish, hdepth] at hp
  | cons t us => simp [steps, step, hdepth] at hp

/-- The first token that cannot be read is the first one with which the tokens are not viable. -/
theorem isLeast_viable (hbefore : steps .start ts = .ok s) (hdepth : s.depth ≤ maxNesting)
    (herror : step s t = .error e) (after : List Token) :
    IsLeast {i | ¬ Viable ((ts ++ t :: after).take (i + 1))} ts.length := by
  constructor
  · have hsteps : steps .start (ts ++ [t]) = .error e := by
      rw [steps_append hbefore, steps, herror]
    have htake : (ts ++ t :: after).take (ts.length + 1) = ts ++ [t] := by
      rw [List.take_length_add_append]
      rfl
    change ¬ Viable ((ts ++ t :: after).take (ts.length + 1))
    rw [htake]
    exact not_viable_of_steps_error hsteps
  · intro i hi
    by_contra hlt
    have htake : (ts ++ t :: after).take (i + 1) = ts.take (i + 1) :=
      List.take_append_of_le_length (by omega)
    have hviable : Viable (ts.take (i + 1) ++ ts.drop (i + 1)) := by
      rw [List.take_append_drop]
      exact viable_of_steps hbefore hdepth
    exact hi (htake ▸ hviable.of_append)

/-- A refused program has a token that cannot be read, or it cannot end where it does. -/
theorem parse_error_cases (h : parse ts = .error e) :
    (∃ before t after s, ts = before ++ t :: after ∧ steps .start before = .ok s ∧
      step s t = .error e) ∨
    ∃ s, steps .start ts = .ok s ∧ finish s = .error e := by
  rw [parse] at h
  cases hsteps : steps .start ts with
  | error e' =>
    rw [hsteps] at h
    cases h
    exact .inl (exists_step_of_steps_error hsteps)
  | ok s =>
    rw [hsteps] at h
    exact .inr ⟨s, rfl, h⟩

/-- Of all errors, only the end of the input leaves the tokens viable. -/
theorem viable_iff_of_parse_error (h : parse ts = .error e) :
    Viable ts ↔ ∃ expected, e = .unexpectedEndOfInput expected := by
  obtain ⟨before, t, after, s, rfl, hbefore, hstep⟩ | ⟨s, hsteps, hfinish⟩ := parse_error_cases h
  · have herror : steps .start (before ++ t :: after) = .error e := by
      rw [steps_append hbefore, steps, hstep]
    refine ⟨fun hviable => absurd hviable (not_viable_of_steps_error herror), ?_⟩
    rintro ⟨expected, rfl⟩
    obtain ⟨-, span, he⟩ | ⟨-, he | ⟨text, span, he⟩⟩ := step_error hstep <;> cases he
  · obtain ⟨hdeep, span, rfl⟩ | ⟨hdepth, expected, rfl⟩ := finish_error hfinish
    · refine ⟨fun hviable => absurd hviable (not_viable_of_lt_depth hsteps hdeep), ?_⟩
      rintro ⟨expected, he⟩
      cases he
    · exact ⟨fun _ => ⟨expected, rfl⟩, fun _ => viable_of_steps hsteps hdepth⟩

/-- An unexpected token is one that cannot be read at an allowed depth. -/
theorem exists_unexpected {text : String} {span : Span}
    (h : parse ts = .error (.unexpectedToken text span)) :
    ∃ before t after s, ts = before ++ t :: after ∧ steps .start before = .ok s ∧
      s.depth ≤ maxNesting ∧ step s t = .error (.unexpectedToken text span) ∧
      t.quoted = text ∧ t.span = span := by
  obtain ⟨before, t, after, s, rfl, hbefore, hstep⟩ | ⟨s, hsteps, hfinish⟩ := parse_error_cases h
  · obtain ⟨-, span', he⟩ | ⟨hdepth, he | ⟨text', span', he⟩⟩ := step_error hstep
    · cases he
    · obtain ⟨htext, hspan⟩ : text = t.quoted ∧ span = t.span := by simpa [unexpected] using he
      exact ⟨before, t, after, s, rfl, hbefore, hdepth, hstep, htext.symm, hspan.symm⟩
    · cases he
  · obtain ⟨-, span', he⟩ | ⟨-, expected, he⟩ := finish_error hfinish <;> cases he

end Parser

open ScopeScript.Parser

/-- **Errors classify prefixes.** The end of the input is unexpected exactly where tokens that are
not accepted are viable. No other error leaves them viable, and an unexpected token is the first
one that makes them so. -/
theorem parse_error_viable (ts : List Token) :
    ((∃ expected, parse ts = .error (.unexpectedEndOfInput expected)) ↔
      ¬ Accepted ts ∧ Viable ts) ∧
    (∀ e, parse ts = .error e → (∀ expected, e ≠ .unexpectedEndOfInput expected) → ¬ Viable ts) ∧
    ∀ text span, parse ts = .error (.unexpectedToken text span) →
      ∃ (i : Nat) (hi : i < ts.length), ts[i].quoted = text ∧ ts[i].span = span ∧
        IsLeast {i | ¬ Viable (ts.take (i + 1))} i ∧ Viable (ts.take i) := by
  refine ⟨⟨?_, ?_⟩, ?_, ?_⟩
  · rintro ⟨expected, h⟩
    refine ⟨?_, (viable_iff_of_parse_error h).mpr ⟨expected, rfl⟩⟩
    rintro ⟨p, hp⟩
    cases h.symm.trans hp
  · rintro ⟨hrefused, hviable⟩
    cases h : parse ts with
    | ok p => exact absurd ⟨p, h⟩ hrefused
    | error e =>
      obtain ⟨expected, rfl⟩ := (viable_iff_of_parse_error h).mp hviable
      exact ⟨expected, rfl⟩
  · intro e h he hviable
    obtain ⟨expected, rfl⟩ := (viable_iff_of_parse_error h).mp hviable
    exact he expected rfl
  · intro text span h
    obtain ⟨before, t, after, s, rfl, hbefore, hdepth, hstep, htext, hspan⟩ := exists_unexpected h
    refine ⟨before.length, by simp, by simpa using htext, by simpa using hspan, ?_, ?_⟩
    · exact isLeast_viable hbefore hdepth hstep after
    · rw [List.take_left]
      exact viable_of_steps hbefore hdepth

/-- The tokens of `f(1 +` without places. -/
def openCall : List Token :=
  [⟨.name, "f", .none⟩, ⟨.leftParen, "(", .none⟩, ⟨.number, "1", .none⟩, ⟨.operator, "+", .none⟩]

/-- The same tokens with a semicolon behind them. -/
def brokenCall : List Token := openCall ++ [⟨.semicolon, ";", .none⟩]

/-- The open call is viable and lacks an expression. The semicolon is the first token that nothing
can follow. -/
theorem parse_error_viable_openCall :
    (parse openCall = .error (.unexpectedEndOfInput "expression") ∧ ¬ Accepted openCall ∧
      Viable openCall) ∧
    (parse brokenCall = .error (.unexpectedToken ";" .none) ∧ ¬ Viable brokenCall) ∧
    ∃ (i : Nat) (hi : i < brokenCall.length), brokenCall[i].quoted = ";" ∧
      brokenCall[i].span = .none ∧ IsLeast {i | ¬ Viable (brokenCall.take (i + 1))} i ∧
      Viable (brokenCall.take i) := by
  have hopen : parse openCall = .error (.unexpectedEndOfInput "expression") := rfl
  have hbroken : parse brokenCall = .error (.unexpectedToken ";" .none) := rfl
  refine ⟨⟨hopen, (parse_error_viable openCall).1.mp ⟨_, hopen⟩⟩, ⟨hbroken, ?_⟩, ?_⟩
  · exact (parse_error_viable brokenCall).2.1 _ hbroken (by simp)
  · exact (parse_error_viable brokenCall).2.2 _ _ hbroken

end ScopeScript
