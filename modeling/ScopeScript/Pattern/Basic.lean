import ScopeScript.Text.CharSet
import ScopeScript.Text.WordChar

/-!
# Search patterns

A pattern matches a piece of text: one character of a set, a position, one pattern after
another, the first of two that applies, or a pattern repeated. Alternatives and repetitions
are ordered: of several ways to match at one place the preferred one wins, which for a
greedy repetition is one more round.
-/

namespace ScopeScript

/-- A condition on a position of the text. -/
inductive Anchor where
  /-- Before the first character. -/
  | textStart
  /-- After the last character. -/
  | textEnd
  /-- At the start or after a line feed. -/
  | lineStart
  /-- At the end or before a line feed. -/
  | lineEnd
  /-- At the start or after a line feed, a carriage return or the pair of both. -/
  | anyLineStart
  /-- At the end or before a line feed, a carriage return or the pair of both. -/
  | anyLineEnd
  /-- Where a word starts or ends. -/
  | wordEdge (ascii : Bool)
  /-- Where no word starts or ends. -/
  | notWordEdge (ascii : Bool)
  /-- Where a word starts. -/
  | wordStart (ascii : Bool)
  /-- Where a word ends. -/
  | wordEnd (ascii : Bool)
  /-- Where no word character stands before. -/
  | wordStartHalf (ascii : Bool)
  /-- Where no word character stands after. -/
  | wordEndHalf (ascii : Bool)
  deriving Repr, DecidableEq

namespace Anchor

/-- Whether a neighbouring character exists and is a word character. -/
def besideWord (ascii : Bool) : Option Char → Bool
  | some c => if ascii then isAsciiWordChar c else isWordChar c
  | none => false

/-- Whether the condition holds between the characters before and after a position. -/
def holds (before after : Option Char) : Anchor → Bool
  | textStart => before.isNone
  | textEnd => after.isNone
  | lineStart => before.isNone || before == some '\n'
  | lineEnd => after.isNone || after == some '\n'
  | anyLineStart =>
    before.isNone || before == some '\n' || (before == some '\r' && after != some '\n')
  | anyLineEnd =>
    after.isNone || after == some '\r' || (after == some '\n' && before != some '\r')
  | wordEdge ascii => besideWord ascii before != besideWord ascii after
  | notWordEdge ascii => besideWord ascii before == besideWord ascii after
  | wordStart ascii => !besideWord ascii before && besideWord ascii after
  | wordEnd ascii => besideWord ascii before && !besideWord ascii after
  | wordStartHalf ascii => !besideWord ascii before
  | wordEndHalf ascii => !besideWord ascii after

end Anchor

/-- A search pattern. -/
inductive Pattern where
  /-- The empty text. -/
  | nothing
  /-- One character of a set. -/
  | one (set : CharSet)
  /-- A position that meets a condition. -/
  | place (anchor : Anchor)
  /-- One pattern directly after another. -/
  | both (first second : Pattern)
  /-- The first pattern, or else the second. -/
  | either (first second : Pattern)
  /-- A pattern at least `least` and at most `most` times, as often as possible if `greedy`. -/
  | repeated (body : Pattern) (least : Nat) (most : Option Nat) (greedy : Bool)
  deriving Repr

namespace Pattern

/-- Whether a pattern may match the empty text, conditions on positions counted as met. -/
def acceptsEmpty : Pattern → Bool
  | nothing => true
  | one set => set.isEmpty
  | place _ => true
  | both first second => first.acceptsEmpty && second.acceptsEmpty
  | either first second => first.acceptsEmpty || second.acceptsEmpty
  | repeated body least _ _ => least == 0 || body.acceptsEmpty

/-- Whether a pattern takes no character at all. -/
def takesNothing : Pattern → Bool
  | nothing => true
  | one _ => false
  | place _ => true
  | both first second => first.takesNothing && second.takesNothing
  | either first second => first.takesNothing && second.takesNothing
  | repeated body _ most _ => most == some 0 || body.takesNothing

/-- A repetition. More than one round of a pattern that takes no character says nothing new. -/
def rounds (body : Pattern) (least : Nat) (most : Option Nat) (greedy : Bool) : Pattern :=
  if body.takesNothing then repeated body (min least 1) (some (min (most.getD 1) 1)) greedy
  else repeated body least most greedy

/-- Patterns one after the other. -/
def ofSequence : List Pattern → Pattern
  | [] => nothing
  | [p] => p
  | p :: rest => both p (ofSequence rest)

/-- The first of the patterns that applies. -/
def ofAlternatives : List Pattern → Pattern
  | [] => nothing
  | [p] => p
  | p :: rest => either p (ofAlternatives rest)

/-- An estimate of the storage of a set, which grows with its ranges beyond ASCII. -/
def setWeight (set : CharSet) : Nat :=
  if set.bound ≤ 0x80 then 32 + 8 * set.ranges.size
  else if set.ranges.size ≤ 1 then 128
  else 300 + 52 * set.ranges.size

/-- An estimate of the storage that the matcher of a pattern takes. -/
def weight : Pattern → Nat
  | nothing => 32
  | one set => setWeight set
  | place _ => 32
  | both first second => first.weight + second.weight
  | either first second => 40 + first.weight + second.weight
  | repeated body least most _ =>
    match most with
    | none => 80 + max least 1 * body.weight
    | some n => 32 + n * (40 + body.weight)

/-- The largest weight of a pattern that is matched. -/
def weightLimit : Nat := 10 * 1024 * 1024

end Pattern

/-- Why a text is not a pattern. -/
inductive PatternError where
  | groupNotClosed
  | groupNotOpened
  | groupName
  | lookAround
  | flags
  | nothingToRepeat
  | repetitionCount
  | escapeSequence
  | property
  | propertyValue
  | propertyNotAllowed
  | classNotClosed
  | classRange
  | classItem
  | beyondAscii
  | tooDeep
  | tooLarge
  deriving Repr, DecidableEq

/-- The error in words. -/
def PatternError.message : PatternError → String
  | groupNotClosed => "unclosed group"
  | groupNotOpened => "unopened group"
  | groupName => "invalid group name"
  | lookAround => "look-around is not supported"
  | flags => "invalid flags"
  | nothingToRepeat => "repetition operator missing expression"
  | repetitionCount => "invalid repetition count"
  | escapeSequence => "invalid escape sequence"
  | property => "Unicode property not found"
  | propertyValue => "Unicode property value not found"
  | propertyNotAllowed => "Unicode not allowed here"
  | classNotClosed => "unclosed character class"
  | classRange => "invalid character class range"
  | classItem => "invalid character class item"
  | beyondAscii => "pattern can match invalid UTF-8"
  | tooDeep => "pattern is nested too deeply"
  | tooLarge => "compiled pattern exceeds the size limit"

end ScopeScript
