import ScopeScript.Expr.Basic
import ScopeScript.Token.Basic

/-!
# From tokens to expressions

One rule serves statements, arguments and bodies; only the tokens that separate and end their
items differ. Within an item an operator or `=` takes everything up to the end of the item as
its right side, so trees lean to the right and no operator binds tighter than another. An
argument list turns what precedes it into a call, and a body turns a call of a name into a
definition. Items that hold nothing are dropped.

The parser reads one token at a time. Its state is the part of the tree that is still open:
the lists around the current item, the operators of that item that wait for their right side,
and the expression read since the last of them. Every open list and every waiting operator
nests one level deeper; a token deeper than `Parser.maxNesting` is refused.
-/

namespace ScopeScript

/-- Why a list of tokens is no program. -/
inductive ParseError where
  | unexpectedToken (text : String) (span : Span)
  | invalidAssignmentTarget (text : String) (span : Span)
  | unexpectedEndOfInput (expected : String)
  | nestingTooDeep (limit : Nat) (span : Span)
  deriving Repr, DecidableEq

namespace ParseError

/-- The error in words. -/
def message : ParseError → String
  | unexpectedToken text span => s!"unexpected token '{text}' at {span.text}"
  | invalidAssignmentTarget text span => s!"cannot assign to '{text}' at {span.text}"
  | unexpectedEndOfInput expected => s!"unexpected end of input, expected '{expected}'"
  | nestingTooDeep limit span =>
    s!"expression nested more than {limit} levels deep at {span.text}"

/-- The place that an error points at, if it points at one. -/
def span? : ParseError → Option Span
  | unexpectedToken _ span => some span
  | invalidAssignmentTarget _ span => some span
  | unexpectedEndOfInput _ => none
  | nestingTooDeep _ span => some span

end ParseError

namespace Parser

/-- The deepest nesting of an expression. -/
def maxNesting : Nat := 256

/-- What waits for the right side of an operator or of `=`. -/
inductive Pending where
  | operand (left : Expr) (op : String) (opSpan : Span)
  | value (target : Name)
  deriving Repr

/-- Supply the right side. -/
def Pending.complete (right : Expr) : Pending → Expr
  | operand left op opSpan => .operation op left right opSpan
  | value target => .assignment target right (target.span.till right.span)

/-- What an open list becomes once it is closed. -/
inductive Opener where
  | arguments (callee : Expr)
  | body (name : Name) (params : List Expr) (callSpan : Span)
  deriving Repr

namespace Opener

/-- The node of a list that the token at `close` ended. -/
def complete (items : List Expr) (close : Span) : Opener → Expr
  | arguments callee => .call callee items (callee.span.till close)
  | body name params callSpan => .definition name params items (callSpan.till close)

/-- The token that separates the items. -/
def divider : Opener → TokenKind
  | arguments _ => .comma
  | body _ _ _ => .semicolon

/-- The token that ends the list. -/
def closer : Opener → TokenKind
  | arguments _ => .rightParen
  | body _ _ _ => .rightBrace

/-- The spelling of the token that ends the list. -/
def closerText : Opener → String
  | arguments _ => ")"
  | body _ _ _ => "\x7d"

end Opener

/-- An open list, with the item around it up to the opening token. -/
structure Layer where
  opener : Opener
  /-- The finished items of the list around, latest first. -/
  items : List Expr
  /-- The operators around that wait for their right side, innermost first. -/
  pending : List Pending
  deriving Repr

/-- The open part of a program. -/
structure State where
  /-- The open lists, innermost first. -/
  layers : List Layer
  /-- The finished items of the innermost list, latest first. -/
  items : List Expr
  /-- The operators of the current item that wait for their right side, innermost first. -/
  pending : List Pending
  /-- What was read since the last of them. -/
  current : Option Expr
  deriving Repr

namespace State

/-- Before the first token. -/
def start : State := ⟨[], [], [], none⟩

/-- How many lists are open and operators waiting. -/
def depth (s : State) : Nat :=
  s.layers.foldl (fun n l => n + l.pending.length + 1) s.pending.length

/-- Whether a token ends the current item. -/
def stopsAt (s : State) (kind : TokenKind) : Bool :=
  match s.layers with
  | [] => kind == .semicolon
  | l :: _ => kind == l.opener.divider || kind == l.opener.closer

/-- The current item as a whole: `none` if an operator lacks its right side, and
`some none` if there is nothing at all. -/
def item? (s : State) : Option (Option Expr) :=
  match s.pending, s.current with
  | [], current => some current
  | _ :: _, none => none
  | pending, some e => some (some (pending.foldl (fun right p => p.complete right) e))

/-- Continue the current item with an expression that takes in all read of it so far. -/
def withCurrent (s : State) (e : Expr) : State := { s with current := some e }

/-- Wait for a right side. -/
def await (s : State) (p : Pending) : State :=
  { s with pending := p :: s.pending, current := none }

/-- Open a list. -/
def openList (s : State) (o : Opener) : State :=
  { layers := ⟨o, s.items, s.pending⟩ :: s.layers, items := [], pending := [], current := none }

end State

/-- The fault of a token that nothing allows here. -/
def unexpected (t : Token) : ParseError := .unexpectedToken t.quoted t.span

/-- Read a token that does not end the item. -/
def extend (s : State) (t : Token) : Except ParseError State :=
  match t.kind, s.current with
  | .number, none => .ok (s.withCurrent (.number t.lexeme t.span))
  | .string, none => .ok (s.withCurrent (.string t.lexeme t.span))
  | .name, none => .ok (s.withCurrent (.symbol t.lexeme t.span))
  | .operator, some left => .ok (s.await (.operand left t.lexeme t.span))
  | .leftParen, some callee => .ok (s.openList (.arguments callee))
  | .leftBrace, some (.call (.symbol name span) params callSpan) =>
    .ok (s.openList (.body ⟨name, span⟩ params callSpan))
  | .equal, some (.symbol name span) => .ok (s.await (.value ⟨name, span⟩))
  | .equal, some target => .error (.invalidAssignmentTarget target.describe target.span)
  | _, _ => .error (unexpected t)

/-- End the current item, and the list around it if the token does. -/
def endItem (s : State) (t : Token) : Except ParseError State :=
  match s.item? with
  | none => .error (unexpected t)
  | some item =>
    let items := item.toList ++ s.items
    match s.layers with
    | [] => .ok ⟨[], items, [], none⟩
    | l :: layers =>
      if t.kind == l.opener.closer then
        .ok ⟨layers, l.items, l.pending, some (l.opener.complete items.reverse t.span)⟩
      else .ok ⟨l :: layers, items, [], none⟩

/-- Read one token, however deep. -/
def read (s : State) (t : Token) : Except ParseError State :=
  if s.stopsAt t.kind then endItem s t else extend s t

/-- Read one token, unless it is nested too deep. -/
def step (s : State) (t : Token) : Except ParseError State :=
  if s.depth > maxNesting then .error (.nestingTooDeep maxNesting t.span) else read s t

/-- Read tokens one after the other. -/
def steps : State → List Token → Except ParseError State
  | s, [] => .ok s
  | s, t :: rest =>
    match step s t with
    | .error e => .error e
    | .ok s => steps s rest

/-- The program, if the tokens may end here. -/
def finish (s : State) : Except ParseError (List Expr) :=
  if s.depth > maxNesting then .error (.nestingTooDeep maxNesting .none)
  else
    match s.item?, s.layers with
    | none, _ => .error (.unexpectedEndOfInput "expression")
    | _, l :: _ => .error (.unexpectedEndOfInput l.opener.closerText)
    | some item, [] => .ok (item.toList ++ s.items).reverse

end Parser

/-- The statements that a list of tokens spells. -/
def parse (tokens : List Token) : Except ParseError (List Expr) :=
  match Parser.steps .start tokens with
  | .error e => .error e
  | .ok s => Parser.finish s

end ScopeScript
