import ScopeScript.Expr.Parser
import ScopeScript.Proofs.Expr.Relocate
import ScopeScript.Proofs.Token.Append
import ScopeScript.Proofs.Value.Lift

/-!
# Reading tokens at other places

The parser passes places on and never looks at them. A step on a token at another place makes the
same state at other places, or fails with the same error at another place. So tokens of the same
kinds and lexemes have trees that are equal once places are forgotten, or errors that are.
-/

namespace ScopeScript

open ScopeScript.Expr

/-! ## Moving the state of the parser -/

/-- An error that points at another place. -/
def ParseError.relocate (g : Location → Location) : ParseError → ParseError
  | unexpectedToken text s => .unexpectedToken text (s.relocate g)
  | invalidAssignmentTarget text s => .invalidAssignmentTarget text (s.relocate g)
  | unexpectedEndOfInput expected => .unexpectedEndOfInput expected
  | nestingTooDeep limit s => .nestingTooDeep limit (s.relocate g)

/-- Results of which the second is the first one moved. -/
def Relocated {α : Type} (g : Location → Location) (move : α → α) :
    Except ParseError α → Except ParseError α → Prop :=
  ExceptRel (fun e e' => e' = e.relocate g) (fun a a' => a' = move a)

namespace Parser

variable (g : Location → Location)

/-- A waiting operator at another place. -/
def Pending.relocate : Pending → Pending
  | operand left op s => .operand (left.relocate g) op (s.relocate g)
  | value target => .value (target.relocate g)

/-- The opening of a list at another place. -/
def Opener.relocate : Opener → Opener
  | arguments callee => .arguments (callee.relocate g)
  | body name params s => .body (name.relocate g) (relocateAll g params) (s.relocate g)

/-- An open list at another place. -/
def Layer.relocate (l : Layer) : Layer :=
  ⟨l.opener.relocate g, relocateAll g l.items, l.pending.map (Pending.relocate g)⟩

/-- The open part of a program at other places. -/
def State.relocate (s : State) : State where
  layers := s.layers.map (Layer.relocate g)
  items := relocateAll g s.items
  pending := s.pending.map (Pending.relocate g)
  current := s.current.map (Expr.relocate g)

/-- Moving a state keeps its depth. -/
theorem depth_relocate (s : State) : (s.relocate g).depth = s.depth := by
  simp [State.depth, State.relocate, Layer.relocate, List.foldl_map]

/-- A state stops at the same tokens after it is moved. -/
theorem stopsAt_relocate (s : State) (kind : TokenKind) :
    (s.relocate g).stopsAt kind = s.stopsAt kind := by
  obtain ⟨_ | ⟨⟨opener, items, pending⟩, layers⟩, _, _, _⟩ := s
  · rfl
  · cases opener <;> rfl

/-- What waits for an operand is completed the same way elsewhere. -/
theorem complete_relocate (p : Pending) (e : Expr) :
    (p.relocate g).complete (e.relocate g) = (p.complete e).relocate g := by
  cases p with
  | operand => rfl
  | value target =>
    rw [Pending.complete, Pending.relocate, Pending.complete, Expr.relocate, Span.relocate_till,
      span_relocate]
    rfl

/-- Everything that waits is completed the same way elsewhere. -/
theorem foldl_complete_relocate (pending : List Pending) (e : Expr) :
    (pending.map (Pending.relocate g)).foldl (fun right p => p.complete right) (e.relocate g) =
      (pending.foldl (fun right p => p.complete right) e).relocate g := by
  induction pending generalizing e with
  | nil => rfl
  | cons p rest ih => rw [List.map_cons, List.foldl_cons, complete_relocate, ih, List.foldl_cons]

/-- The item of a state that is moved is the item moved. -/
theorem item?_relocate (s : State) :
    (s.relocate g).item? = s.item?.map (Option.map (Expr.relocate g)) := by
  obtain ⟨_, _, pending, current⟩ := s
  cases pending with
  | nil => rfl
  | cons p rest =>
    cases current with
    | none => rfl
    | some e => exact congrArg (some ∘ some) (foldl_complete_relocate g (p :: rest) e)

/-- Trees one behind the other are moved each. -/
theorem relocateAll_append (es es' : List Expr) :
    relocateAll g (es ++ es') = relocateAll g es ++ relocateAll g es' := by
  induction es with
  | nil => rfl
  | cons e rest ih => exact congrArg (e.relocate g :: ·) ih

/-- Trees in reverse order are moved each. -/
theorem relocateAll_reverse (es : List Expr) :
    relocateAll g es.reverse = (relocateAll g es).reverse := by
  induction es with
  | nil => rfl
  | cons e rest ih =>
    rw [List.reverse_cons, relocateAll_append, ih]
    exact List.reverse_cons.symm

/-- The finished items of a list and the current one move together. -/
theorem relocateAll_toList_append (item : Option Expr) (items : List Expr) :
    relocateAll g (item.toList ++ items) =
      (item.map (Expr.relocate g)).toList ++ relocateAll g items := by
  cases item <;> rfl

/-- A list that is closed elsewhere is the closed list moved. -/
theorem complete_opener_relocate (o : Opener) (items : List Expr) (close : Span) :
    (o.relocate g).complete (relocateAll g items) (close.relocate g) =
      (o.complete items close).relocate g := by
  cases o with
  | arguments callee =>
    rw [Opener.complete, Opener.relocate, Opener.complete, Expr.relocate, Span.relocate_till,
      span_relocate]
  | body => rfl

/-- A token that is unexpected is so elsewhere. -/
theorem unexpected_relocate (t : Token) :
    unexpected (t.relocate g) = (unexpected t).relocate g := by
  obtain ⟨kind, lexeme, span⟩ := t
  cases kind <;> rfl

/-! ## Moving tokens -/

/-- Extending an expression by a token that is moved too. -/
theorem extend_relocated (s : State) (t : Token) :
    Relocated g (State.relocate g) (extend s t) (extend (s.relocate g) (t.relocate g)) := by
  have hunexpected : ∀ t : Token, Relocated g (State.relocate g) (.error (unexpected t))
      (.error (unexpected (t.relocate g))) := fun t => .error (unexpected_relocate g t)
  obtain ⟨layers, items, pending, current⟩ := s
  obtain ⟨kind, lexeme, span⟩ := t
  cases current with
  | none =>
    cases kind with
    | number | string | name => exact .ok rfl
    | _ => exact hunexpected _
  | some e =>
    cases kind with
    | operator | leftParen => exact .ok rfl
    | leftBrace =>
      cases e with
      | call callee params callSpan =>
        cases callee with
        | symbol => exact .ok rfl
        | _ => exact hunexpected _
      | _ => exact hunexpected _
    | equal =>
      cases e with
      | symbol => exact .ok rfl
      | operation op left right s =>
        refine .error ?_
        rw [ParseError.relocate, ← span_relocate]
        rfl
      | _ => exact .error rfl
    | _ => exact hunexpected _

/-- Ending an item at a token that is moved too. -/
theorem endItem_relocated (s : State) (t : Token) :
    Relocated g (State.relocate g) (endItem s t) (endItem (s.relocate g) (t.relocate g)) := by
  rw [endItem, endItem, item?_relocate]
  cases s.item? with
  | none => exact .error (unexpected_relocate g t)
  | some item =>
    obtain ⟨layers, items, pending, current⟩ := s
    have hitems := relocateAll_toList_append g item items
    cases layers with
    | nil => exact .ok (by simp [State.relocate, hitems])
    | cons l layers =>
      obtain ⟨opener, around, waiting⟩ := l
      have hcloser : (opener.relocate g).closer = opener.closer := by cases opener <;> rfl
      simp only [Option.map_some, State.relocate, List.map_cons, Layer.relocate, hcloser, ← hitems,
        ← relocateAll_reverse, Token.span_relocate, complete_opener_relocate]
      change Relocated g _ (if t.kind == opener.closer then _ else _)
        (if t.kind == opener.closer then _ else _)
      split
      · exact .ok rfl
      · exact .ok rfl

/-- **One step does not look at places.** -/
theorem step_relocated (s : State) (t : Token) :
    Relocated g (State.relocate g) (step s t) (step (s.relocate g) (t.relocate g)) := by
  rw [step, step, depth_relocate, read, read, stopsAt_relocate]
  change Relocated g _ _ (if s.depth > maxNesting then _ else if s.stopsAt t.kind then _ else _)
  split
  · exact .error rfl
  · split
    · exact endItem_relocated g s t
    · exact extend_relocated g s t

/-- Reading tokens that are moved too. -/
theorem steps_relocated (s : State) (ts : List Token) :
    Relocated g (State.relocate g) (steps s ts)
      (steps (s.relocate g) (ts.map (Token.relocate g))) := by
  induction ts generalizing s with
  | nil => exact .ok rfl
  | cons t rest ih =>
    have hstep := step_relocated g s t
    rw [List.map_cons, steps, steps]
    generalize step s t = x at hstep
    generalize step (s.relocate g) (t.relocate g) = y at hstep
    cases hstep with
    | error he => exact .error he
    | ok hs =>
      subst hs
      exact ih _

/-- The end of the tokens has no place, so it must stay where it is. -/
theorem finish_relocated (hg : Span.none.relocate g = .none) (s : State) :
    Relocated g (relocateAll g) (finish s) (finish (s.relocate g)) := by
  rw [finish, finish, depth_relocate, item?_relocate]
  split
  · exact .error (by rw [ParseError.relocate, hg])
  · obtain ⟨layers, items, pending, current⟩ := s
    cases State.item? _ with
    | none => exact .error rfl
    | some item =>
      cases layers with
      | nil =>
        refine .ok ?_
        rw [relocateAll_reverse, relocateAll_toList_append]
        rfl
      | cons l layers =>
        obtain ⟨opener, around, waiting⟩ := l
        cases opener <;> exact .error rfl

end Parser

/-- **Parsing does not look at places.** -/
theorem parse_relocated {g : Location → Location} (hg : Span.none.relocate g = .none)
    (ts : List Token) :
    Relocated g (relocateAll g) (parse ts) (parse (ts.map (Token.relocate g))) := by
  have hsteps := Parser.steps_relocated g .start ts
  have hstart : Parser.State.start.relocate g = .start := rfl
  rw [hstart] at hsteps
  rw [parse, parse]
  generalize Parser.steps .start ts = x at hsteps
  generalize Parser.steps .start (ts.map (Token.relocate g)) = y at hsteps
  cases hsteps with
  | error he => exact .error he
  | ok hs =>
    subst hs
    exact Parser.finish_relocated g hg _

/-! ## Forgetting places -/

/-- What tokens are, wherever they stand. -/
def spelling (ts : List Token) : List (TokenKind × String) := ts.map fun t => (t.kind, t.lexeme)

/-- Expressions that are equal up to their spans. -/
def Expr.Agree (e e' : Expr) : Prop := e.erase = e'.erase

/-- Errors that are equal up to their spans. -/
def ParseError.Agree (e e' : ParseError) : Prop :=
  e.relocate (fun _ => ⟨0, 0⟩) = e'.relocate fun _ => ⟨0, 0⟩

/-- Lists that are equal without places agree one by one. -/
theorem forall₂_agree_of_eraseAll {es es' : List Expr} (h : eraseAll es = eraseAll es') :
    List.Forall₂ Expr.Agree es es' := by
  induction es generalizing es' with
  | nil =>
    cases es' with
    | nil => exact .nil
    | cons => cases h
  | cons e rest ih =>
    cases es' with
    | nil => cases h
    | cons e' rest' =>
      obtain ⟨he, hrest⟩ := List.cons.inj h
      exact .cons he (ih hrest)

/-- Tokens moved to one place are known by their spelling. -/
theorem map_relocate_of_spelling (ts : List Token) :
    ts.map (Token.relocate fun _ => ⟨0, 0⟩) =
      (spelling ts).map fun p => ⟨p.1, p.2, .none⟩ := by
  rw [spelling, List.map_map]
  rfl

/-- **Tokens of one spelling** have equal trees up to spans, or equal errors up to spans. -/
theorem parse_agree {ts ts' : List Token} (h : spelling ts = spelling ts') :
    ExceptRel ParseError.Agree (List.Forall₂ Expr.Agree) (parse ts) (parse ts') := by
  have hparse := parse_relocated (g := fun _ => ⟨0, 0⟩) rfl ts
  have hparse' := parse_relocated (g := fun _ => ⟨0, 0⟩) rfl ts'
  rw [map_relocate_of_spelling, h, ← map_relocate_of_spelling] at hparse
  generalize parse (ts'.map _) = z at hparse hparse'
  generalize parse ts = x at hparse
  generalize parse ts' = y at hparse'
  cases hparse with
  | error he =>
    cases hparse' with
    | error he' => exact .error (he.symm.trans he')
  | ok hp =>
    cases hparse' with
    | ok hp' => exact .ok (forall₂_agree_of_eraseAll (hp.symm.trans hp'))

end ScopeScript
