import ScopeScript.Pattern.CharClass

/-!
# Reading patterns

The notation of patterns: alternatives, sequences, repetitions, groups, flags, anchors,
classes and escapes. The reader walks the text once with the groups still open on a stack.
Flags set inside a group hold up to its end, alternatives that follow included.

Every bracket, repetition, group, sequence and choice nests what it holds one level deeper;
a pattern nested beyond `Pattern.nestingLimit`, or one whose matcher would be too large, is
refused.
-/

namespace ScopeScript

namespace Pattern

/-- The deepest nesting of a pattern. -/
def nestingLimit : Nat := 250

/-- The largest count of a repetition. -/
def countLimit : Nat := 0xFFFFFFFF

/-- A part of a pattern with its nesting; a setting of flags cannot be repeated. -/
structure Piece where
  pattern : Pattern
  height : Nat := 0
  repeatable : Bool := true

namespace Piece

/-- The pieces of a sequence, latest first, as one. -/
def ofSequence : List Piece → Piece
  | [] => ⟨nothing, 0, true⟩
  | [p] => p
  | pieces =>
    ⟨Pattern.ofSequence (pieces.reverse.map Piece.pattern),
      (pieces.map Piece.height).foldl max 0 + 1, true⟩

/-- The alternatives of a group, latest first, as one. -/
def ofAlternatives : List Piece → Piece
  | [] => ⟨nothing, 0, true⟩
  | [p] => p
  | pieces =>
    ⟨Pattern.ofAlternatives (pieces.reverse.map Piece.pattern),
      (pieces.map Piece.height).foldl max 0 + 1, true⟩

end Piece

/-- What surrounds an open group. -/
structure GroupFrame where
  flags : PatternFlags
  items : List Piece
  alternatives : List Piece

/-- The state of the reader between two items; lists hold the latest first. -/
structure ReaderState where
  flags : PatternFlags := {}
  /-- The items of the current sequence. -/
  items : List Piece := []
  /-- The finished alternatives of the current group. -/
  alternatives : List Piece := []
  /-- The open groups around the current one. -/
  groups : List GroupFrame := []
  /-- The group names in use. -/
  names : List String := []

namespace ReaderState

/-- Add an item to the current sequence. -/
def push (s : ReaderState) (p : Piece) : ReaderState := { s with items := p :: s.items }

/-- The current group as one piece. -/
def close (s : ReaderState) : Piece :=
  Piece.ofAlternatives (Piece.ofSequence s.items :: s.alternatives)

/-- Open a group with flags of its own. -/
def openGroup (s : ReaderState) (flags : PatternFlags) : ReaderState :=
  { s with
    flags, items := [], alternatives := []
    groups := ⟨s.flags, s.items, s.alternatives⟩ :: s.groups }

/-- Close the innermost group. -/
def closeGroup (s : ReaderState) : Except PatternError ReaderState :=
  match s.groups with
  | [] => .error .groupNotOpened
  | frame :: groups =>
    let inner := s.close
    .ok { s with
      flags := frame.flags
      items := ⟨inner.pattern, inner.height + 1, true⟩ :: frame.items
      alternatives := frame.alternatives
      groups }

/-- Start the next alternative of the current group. -/
def nextAlternative (s : ReaderState) : ReaderState :=
  { s with items := [], alternatives := Piece.ofSequence s.items :: s.alternatives }

/-- Repeat the last item. -/
def repeatLast (s : ReaderState) (least : Nat) (most : Option Nat) (marked : Bool) :
    Except PatternError ReaderState :=
  match s.items with
  | [] => .error .nothingToRepeat
  | p :: items =>
    if p.repeatable then
      let greedy := marked == s.flags.swapGreed
      .ok { s with items := ⟨rounds p.pattern least most greedy, p.height + 1, true⟩ :: items }
    else .error .nothingToRepeat

end ReaderState

/-- Set or clear the flag of a letter. -/
def setFlag? (flags : PatternFlags) (value : Bool) : Char → Option PatternFlags
  | 'i' => some { flags with ignoreCase := value }
  | 'm' => some { flags with multiLine := value }
  | 's' => some { flags with dotAll := value }
  | 'U' => some { flags with swapGreed := value }
  | 'u' => some { flags with unicode := value }
  | 'R' => some { flags with anyLineEnding := value }
  | 'x' => some { flags with verbose := value }
  | _ => none

/-- Flag letters up to a colon, which opens a group, or a closing parenthesis. No letter may
repeat, and the hyphen that clears the letters behind it needs one. -/
def readFlags (flags : PatternFlags) (seen : List Char) :
    List Char → Except PatternError (PatternFlags × Bool × List Char)
  | [] => .error .flags
  | c :: rest =>
    if c == ':' then
      if seen.head? == some '-' then .error .flags else .ok (flags, true, rest)
    else if c == ')' then
      if seen.isEmpty || seen.head? == some '-' then .error .flags else .ok (flags, false, rest)
    else if seen.contains c then .error .flags
    else if c == '-' then readFlags flags (c :: seen) rest
    else
      match setFlag? flags (!seen.contains '-') c with
      | some flags => readFlags flags (c :: seen) rest
      | none => .error .flags

/-- Whether a character may stand in the name of a group. -/
def isNameChar (first : Bool) (c : Char) : Bool :=
  if first then c == '_' || isAlphabetic c
  else c == '_' || c == '.' || c == '[' || c == ']' || isAlphanumeric c

/-- The name of a group, up to the closing angle bracket. -/
def readGroupName (name : List Char) : List Char → Except PatternError (String × List Char)
  | [] => .error .groupName
  | c :: rest =>
    if c == '>' then
      if name.isEmpty then .error .groupName else .ok (String.ofList name.reverse, rest)
    else if isNameChar name.isEmpty c then readGroupName (c :: name) rest
    else .error .groupName

/-- A named group, after the angle bracket that opens its name. -/
def readNamedGroup (s : ReaderState) (text : List Char) :
    Except PatternError (ReaderState × List Char) := do
  let (name, rest) ← readGroupName [] text
  if s.names.contains name then throw .groupName
  return ({ s with names := name :: s.names }.openGroup s.flags, rest)

/-- A group or a setting of flags, after its opening parenthesis. -/
def readGroup (s : ReaderState) (text : List Char) :
    Except PatternError (ReaderState × List Char) :=
  match s.flags.skip text with
  | '?' :: '=' :: _ => .error .lookAround
  | '?' :: '!' :: _ => .error .lookAround
  | '?' :: '<' :: '=' :: _ => .error .lookAround
  | '?' :: '<' :: '!' :: _ => .error .lookAround
  | '?' :: 'P' :: '<' :: rest => readNamedGroup s rest
  | '?' :: '<' :: rest => readNamedGroup s rest
  | '?' :: rest => do
    match ← readFlags s.flags [] rest with
    | (flags, true, rest) => return (s.openGroup flags, rest)
    | (flags, false, rest) => return ({ s with flags }.push ⟨nothing, 0, false⟩, rest)
  | rest => .ok (s.openGroup s.flags, rest)

/-- Decimal digits from the front of the text. -/
def readDigits (flags : PatternFlags) :
    (fuel : Nat) → (value : Option Nat) → List Char → Option Nat × List Char
  | 0, value, rest => (value, rest)
  | _, value, [] => (value, [])
  | fuel + 1, value, c :: rest =>
    if '0' ≤ c && c ≤ '9' then
      readDigits flags fuel (some (10 * value.getD 0 + (c.toNat - 0x30))) (flags.skip rest)
    else (value, c :: rest)

/-- A count of a repetition, with blanks around it; it must fit 32 bits. -/
def readCount (flags : PatternFlags) (text : List Char) :
    Except PatternError (Nat × List Char) :=
  let text := text.dropWhile isSpace
  match readDigits flags text.length none text with
  | (some n, rest) =>
    if n ≤ countLimit then .ok (n, flags.skip (rest.dropWhile isSpace))
    else .error .repetitionCount
  | (none, _) => .error .repetitionCount

/-- Whether a question mark follows, and the text behind it. -/
def readMark : List Char → Bool × List Char
  | '?' :: rest => (true, rest)
  | rest => (false, rest)

/-- A counted repetition, after its opening brace. -/
def readCounted (s : ReaderState) (text : List Char) :
    Except PatternError (ReaderState × List Char) := do
  let (least, rest) ← readCount s.flags (s.flags.skip text)
  let (most, rest) ←
    match rest with
    | ',' :: rest =>
      match s.flags.skip rest with
      | '\x7d' :: rest => pure (none, '\x7d' :: rest)
      | rest => do
        let (most, rest) ← readCount s.flags rest
        pure (some most, rest)
    | rest => pure (some least, rest)
  match rest with
  | '\x7d' :: rest =>
    let (marked, rest) := readMark (s.flags.skip rest)
    if (most.all fun n => least ≤ n) then return (← s.repeatLast least most marked, rest)
    else throw .repetitionCount
  | _ => throw .repetitionCount

/-- One character of the text, in either case if the flags say so. -/
def ofChar (flags : PatternFlags) (c : Char) : Pattern := one (flags.fold (.single c))

/-- Any character but the ends of a line. -/
def dot (flags : PatternFlags) : Except PatternError Pattern :=
  if !flags.unicode then .error .beyondAscii
  else if flags.dotAll then .ok (one .all)
  else if flags.anyLineEnding then .ok (one (CharSet.complement ⟨#[(0x0A, 0x0A), (0x0D, 0x0D)]⟩))
  else .ok (one (CharSet.complement (.single '\n')))

/-- What `^` asks of a position. -/
def startAnchor (flags : PatternFlags) : Anchor :=
  if !flags.multiLine then .textStart
  else if flags.anyLineEnding then .anyLineStart else .lineStart

/-- What `$` asks of a position. -/
def endAnchor (flags : PatternFlags) : Anchor :=
  if !flags.multiLine then .textEnd
  else if flags.anyLineEnding then .anyLineEnd else .lineEnd

/-- What an escape sequence stands for, as a pattern. -/
def ofEscape (flags : PatternFlags) : Escape → Except PatternError Pattern
  | .char c => .ok (ofChar flags c)
  | .byte c =>
    if flags.unicode || c.toNat < 0x80 then .ok (ofChar flags c) else .error .beyondAscii
  | .set set => .ok (one set)
  | .anchor anchor => .ok (place anchor)

/-- Read one item, which starts with `c`. -/
def readItem (s : ReaderState) (c : Char) (rest : List Char) :
    Except PatternError (ReaderState × List Char) :=
  match c with
  | '(' => readGroup s rest
  | ')' => do return (← s.closeGroup, rest)
  | '|' => .ok (s.nextAlternative, rest)
  | '[' => do
    let (set, height, rest) ← readClass s.flags rest
    return (s.push ⟨one set, height, true⟩, rest)
  | '?' => do
    let (marked, rest) := readMark rest
    return (← s.repeatLast 0 (some 1) marked, rest)
  | '*' => do
    let (marked, rest) := readMark rest
    return (← s.repeatLast 0 none marked, rest)
  | '+' => do
    let (marked, rest) := readMark rest
    return (← s.repeatLast 1 none marked, rest)
  | '\x7b' => readCounted s rest
  | '\\' => do
    let (escape, rest) ← readEscape s.flags rest
    return (s.push ⟨← ofEscape s.flags escape, 0, true⟩, rest)
  | '.' => do return (s.push ⟨← dot s.flags, 0, true⟩, rest)
  | '^' => .ok (s.push ⟨place (startAnchor s.flags), 0, true⟩, rest)
  | '$' => .ok (s.push ⟨place (endAnchor s.flags), 0, true⟩, rest)
  | c => .ok (s.push ⟨ofChar s.flags c, 0, true⟩, rest)

/-- Read items up to the end of the text. Every item takes a character, so the length of the
text is fuel enough. -/
def readItems : (fuel : Nat) → ReaderState → List Char → Except PatternError ReaderState
  | 0, s, _ => .ok s
  | fuel + 1, s, text => do
    match s.flags.skip text with
    | [] => return s
    | c :: rest =>
      let (s, rest) ← readItem s c rest
      readItems fuel s rest

/-- The pattern that a text denotes. -/
def read (text : String) : Except PatternError Pattern := do
  let chars := text.toList
  let s ← readItems (chars.length + 1) {} chars
  if !s.groups.isEmpty then throw .groupNotClosed
  let whole := s.close
  if whole.height > nestingLimit then throw .tooDeep
  if whole.pattern.weight > weightLimit then throw .tooLarge
  return whole.pattern

end Pattern

end ScopeScript
