import ScopeScript.Pattern.Basic
import ScopeScript.Text.CaseFolding
import ScopeScript.Text.Property

/-!
# Escapes and bracketed classes

The parts of the pattern notation below a whole pattern: the flags in force, escape
sequences, with classes by the names of properties, and bracketed classes with ranges, named
classes, nested classes and the operations `&&`, `--` and `~~`, which join from the left.

A class folds case before it is negated, and so do the operands of an operation. A reader
takes the text from its first character on and returns what is left of it.
-/

namespace ScopeScript

/-- The flags in force at a place of a pattern. -/
structure PatternFlags where
  /-- Letters match in either case. -/
  ignoreCase : Bool := false
  /-- Line anchors match at every line. -/
  multiLine : Bool := false
  /-- The dot matches a line feed too. -/
  dotAll : Bool := false
  /-- Repetitions are lazy, and greedy when marked. -/
  swapGreed : Bool := false
  /-- Classes reach beyond ASCII. -/
  unicode : Bool := true
  /-- A carriage return ends a line too. -/
  anyLineEnding : Bool := false
  /-- Blanks and comments stand for nothing. -/
  verbose : Bool := false
  deriving Repr, DecidableEq

/-- Drop blanks, and comments from a number sign to the end of the line. -/
def skipBlanks (inComment : Bool) : List Char → List Char
  | [] => []
  | c :: rest =>
    if inComment then skipBlanks (c != '\n') rest
    else if isSpace c then skipBlanks false rest
    else if c == '#' then skipBlanks true rest
    else c :: rest

namespace PatternFlags

/-- Drop what stands for nothing under the flags. -/
def skip (flags : PatternFlags) (text : List Char) : List Char :=
  if flags.verbose then skipBlanks false text else text

/-- The folding of case that the flags ask for. -/
def fold (flags : PatternFlags) (set : CharSet) : CharSet :=
  if flags.ignoreCase then
    if flags.unicode then set.foldCase else set.foldAsciiCase
  else set

/-- The complement of a set where it may be taken: within ASCII classes it would reach out. -/
def negate (flags : PatternFlags) (set : CharSet) : Except PatternError CharSet :=
  if flags.unicode then .ok set.complement
  else
    let rest := set.complementUpTo 0xFF
    if rest.bound ≤ 0x80 then .ok rest else .error .beyondAscii

end PatternFlags

namespace Pattern

/-- ASCII digits. -/
def asciiDigits : CharSet := .range 0x30 0x39

/-- ASCII blanks. -/
def asciiBlanks : CharSet := ⟨#[(0x09, 0x0D), (0x20, 0x20)]⟩

/-- ASCII word characters. -/
def asciiWord : CharSet := ⟨#[(0x30, 0x39), (0x41, 0x5A), (0x5F, 0x5F), (0x61, 0x7A)]⟩

/-- The classes that a single letter names. -/
def letterClass? (flags : PatternFlags) (c : Char) : Option (Except PatternError CharSet) :=
  let digits := if flags.unicode then decimalDigits else asciiDigits
  let blanks := if flags.unicode then spaceChars else asciiBlanks
  let word := if flags.unicode then wordChars else asciiWord
  match c with
  | 'd' => some (.ok digits)
  | 'D' => some (flags.negate digits)
  | 's' => some (.ok blanks)
  | 'S' => some (flags.negate blanks)
  | 'w' => some (.ok word)
  | 'W' => some (flags.negate word)
  | _ => none

/-- The ASCII classes that a word between colons names. -/
def namedClass? (name : String) : Option CharSet :=
  match name with
  | "alnum" => some ⟨#[(0x30, 0x39), (0x41, 0x5A), (0x61, 0x7A)]⟩
  | "alpha" => some ⟨#[(0x41, 0x5A), (0x61, 0x7A)]⟩
  | "ascii" => some ⟨#[(0x00, 0x7F)]⟩
  | "blank" => some ⟨#[(0x09, 0x09), (0x20, 0x20)]⟩
  | "cntrl" => some ⟨#[(0x00, 0x1F), (0x7F, 0x7F)]⟩
  | "digit" => some asciiDigits
  | "graph" => some ⟨#[(0x21, 0x7E)]⟩
  | "lower" => some ⟨#[(0x61, 0x7A)]⟩
  | "print" => some ⟨#[(0x20, 0x7E)]⟩
  | "punct" => some ⟨#[(0x21, 0x2F), (0x3A, 0x40), (0x5B, 0x60), (0x7B, 0x7E)]⟩
  | "space" => some asciiBlanks
  | "upper" => some ⟨#[(0x41, 0x5A)]⟩
  | "word" => some asciiWord
  | "xdigit" => some ⟨#[(0x30, 0x39), (0x41, 0x46), (0x61, 0x66)]⟩
  | _ => none

/-- What an escape sequence stands for. -/
inductive Escape where
  /-- A character. -/
  | char (c : Char)
  /-- A character given as two hexadecimal digits. -/
  | byte (c : Char)
  /-- Any character of a set. -/
  | set (set : CharSet)
  /-- A condition on the position. -/
  | anchor (anchor : Anchor)

/-- The character of a code point, if it has one. -/
def charOfCode? (n : Nat) : Option Char :=
  if h : n.isValidChar then some (Char.ofNatAux n h) else none

/-- Exactly `count` hexadecimal digits, as the character of that number. -/
def readHexDigits (flags : PatternFlags) :
    (count value : Nat) → List Char → Except PatternError (Char × List Char)
  | 0, value, rest =>
    match charOfCode? value with
    | some c => .ok (c, rest)
    | none => .error .escapeSequence
  | _ + 1, _, [] => .error .escapeSequence
  | count + 1, value, c :: rest =>
    match hexValue? c with
    | some d => readHexDigits flags count (16 * value + d) (flags.skip rest)
    | none => .error .escapeSequence

/-- Hexadecimal digits up to a closing brace; there must be one, and the number in range. -/
def readHexBraces (flags : PatternFlags) :
    (fuel : Nat) → (value : Option Nat) → List Char → Except PatternError (Char × List Char)
  | 0, _, _ => .error .escapeSequence
  | _, _, [] => .error .escapeSequence
  | fuel + 1, value, c :: rest =>
    if c == '\x7d' then
      match value.bind charOfCode? with
      | some d => .ok (d, flags.skip rest)
      | none => .error .escapeSequence
    else
      match hexValue? c with
      | some d => readHexBraces flags fuel (some (16 * value.getD 0 + d)) (flags.skip rest)
      | none => .error .escapeSequence

/-- A character by its number, after the letter that announces `count` digits. -/
def readHex (flags : PatternFlags) (count : Nat) (text : List Char) :
    Except PatternError (Escape × List Char) :=
  match flags.skip text with
  | '\x7b' :: rest => do
    let rest := flags.skip rest
    let (c, rest) ← readHexBraces flags (rest.length + 1) none rest
    return (.char c, rest)
  | rest => do
    let (c, rest) ← readHexDigits flags count 0 rest
    return (if count == 2 then .byte c else .char c, rest)

/-- Letters and hyphens from the front of the text. -/
def readEdgeName (flags : PatternFlags) :
    (fuel : Nat) → (name : List Char) → List Char → List Char × List Char
  | 0, name, rest => (name.reverse, rest)
  | _, name, [] => (name.reverse, [])
  | fuel + 1, name, c :: rest =>
    if c.isAlpha || c == '-' then readEdgeName flags fuel (c :: name) (flags.skip rest)
    else (name.reverse, c :: rest)

/-- The anchor after a backslash and the letter b, which may name its side in braces. Braces
that open with anything but a letter or a hyphen belong to a repetition. -/
def readWordEdge (flags : PatternFlags) (text : List Char) :
    Except PatternError (Escape × List Char) :=
  let ascii := !flags.unicode
  match text with
  | '\x7b' :: inner =>
    match flags.skip inner with
    | [] => .error .escapeSequence
    | c :: rest =>
      if !(c.isAlpha || c == '-') then .ok (.anchor (.wordEdge ascii), text)
      else
        match readEdgeName flags (rest.length + 2) [] (c :: rest) with
        | (name, '\x7d' :: rest) =>
          match String.ofList name with
          | "start" => .ok (.anchor (.wordStart ascii), rest)
          | "end" => .ok (.anchor (.wordEnd ascii), rest)
          | "start-half" => .ok (.anchor (.wordStartHalf ascii), rest)
          | "end-half" => .ok (.anchor (.wordEndHalf ascii), rest)
          | _ => .error .escapeSequence
        | _ => .error .escapeSequence
  | _ => .ok (.anchor (.wordEdge ascii), text)

/-- The text up to a closing brace. -/
def readBraces (flags : PatternFlags) :
    (fuel : Nat) → (name : List Char) → List Char → Except PatternError (List Char × List Char)
  | fuel + 1, name, c :: rest =>
    if c == '\x7d' then .ok (name.reverse, rest)
    else readBraces flags fuel (c :: name) (flags.skip rest)
  | _, _, _ => .error .escapeSequence

/-- A name and a value with an operator between them. -/
def cutAtOperator? (operator text : String) : Option (String × String) :=
  match text.splitOn operator with
  | name :: value :: more => some (name, operator.intercalate (value :: more))
  | _ => none

/-- The characters for which a property has a value. -/
def setOfValue (name value : String) : Except PatternError CharSet :=
  match valuesOf? name.toList with
  | some values =>
    match values value.toList with
    | some set => .ok set
    | none => .error .propertyValue
  | none => .error .property

/-- The characters that a name stands for, and whether it denies them. -/
def setOfName (name : String) : Except PatternError (Bool × CharSet) :=
  match cutAtOperator? "!=" name with
  | some (name, value) => return (true, ← setOfValue name value)
  | none =>
    match cutAtOperator? ":" name <|> cutAtOperator? "=" name with
    | some (name, value) => return (false, ← setOfValue name value)
    | none =>
      match setOfName? name.toList with
      | some set => .ok (false, set)
      | none => .error .property

/-- A class by the name of a property, after the letter that announces it: a name of one letter,
or one in braces. -/
def readProperty (flags : PatternFlags) (negated : Bool) (text : List Char) :
    Except PatternError (Escape × List Char) := do
  let (name, rest) ←
    match flags.skip text with
    | [] => throw .escapeSequence
    | '\\' :: _ => throw .escapeSequence
    | '\x7b' :: rest =>
      let rest := flags.skip rest
      readBraces flags (rest.length + 1) [] rest
    | c :: rest => pure ([c], rest)
  if !flags.unicode then throw .propertyNotAllowed
  let (denied, set) ← setOfName (String.ofList name)
  let set := flags.fold set
  return (.set (if negated != denied then set.complement else set), rest)

/-- An escape sequence, after its backslash. Punctuation stands for itself; letters and
digits have a meaning or are refused. -/
def readEscape (flags : PatternFlags) : List Char → Except PatternError (Escape × List Char)
  | [] => .error .escapeSequence
  | c :: rest =>
    let ascii := !flags.unicode
    match letterClass? flags c with
    | some (.ok set) => .ok (.set set, rest)
    | some (.error e) => .error e
    | none =>
      match c with
      | 'x' => readHex flags 2 rest
      | 'u' => readHex flags 4 rest
      | 'U' => readHex flags 8 rest
      | 'p' => readProperty flags false rest
      | 'P' => readProperty flags true rest
      | 'a' => .ok (.char '\x07', rest)
      | 'f' => .ok (.char '\x0c', rest)
      | 't' => .ok (.char '\t', rest)
      | 'n' => .ok (.char '\n', rest)
      | 'r' => .ok (.char '\r', rest)
      | 'v' => .ok (.char '\x0b', rest)
      | 'A' => .ok (.anchor .textStart, rest)
      | 'z' => .ok (.anchor .textEnd, rest)
      | 'b' => readWordEdge flags rest
      | 'B' => .ok (.anchor (.notWordEdge ascii), rest)
      | '<' => .ok (.anchor (.wordStart ascii), rest)
      | '>' => .ok (.anchor (.wordEnd ascii), rest)
      | _ =>
        if c.toNat < 0x80 && !c.isAlphanum then .ok (.char c, rest) else .error .escapeSequence

/-- One item of a class before it is known whether a range follows. -/
inductive ClassItem where
  | char (c : Char)
  | set (set : CharSet)

/-- A character or an escape sequence inside brackets. -/
def readClassItem (flags : PatternFlags) : List Char → Except PatternError (ClassItem × List Char)
  | [] => .error .classNotClosed
  | '\\' :: rest => do
    match ← readEscape flags rest with
    | (.char c, rest) =>
      if flags.unicode || c.toNat < 0x80 then return (.char c, rest) else throw .beyondAscii
    | (.byte c, rest) => return (.char c, rest)
    | (.set set, rest) => return (.set set, rest)
    | (.anchor _, _) => throw .classItem
  | c :: rest =>
    if flags.unicode || c.toNat < 0x80 then .ok (.char c, rest) else .error .beyondAscii

/-- A range or a single item inside brackets. A hyphen before the closing bracket or before
another hyphen makes no range. -/
def readClassRange (flags : PatternFlags) (text : List Char) :
    Except PatternError (List (Nat × Nat) × List Char) := do
  let (first, rest) ← readClassItem flags text
  let alone : List (Nat × Nat) :=
    match first with
    | .char c => [(c.toNat, c.toNat)]
    | .set set => set.ranges.toList
  match flags.skip rest with
  | [] => throw .classNotClosed
  | '-' :: rest =>
    match flags.skip rest with
    | ']' :: _ => return (alone, '-' :: rest)
    | '-' :: _ => return (alone, '-' :: rest)
    | rest =>
      match ← readClassItem flags rest, first with
      | (.char last, rest), .char c =>
        if c ≤ last then return ([(c.toNat, last.toNat)], rest) else throw .classRange
      | _, _ => throw .classRange
  | rest => return (alone, rest)

/-- The items read so far between two brackets or operations. -/
structure ClassUnion where
  ranges : List (Nat × Nat) := []
  count : Nat := 0
  /-- The greatest nesting of an item. -/
  height : Nat := 0

namespace ClassUnion

/-- Add an item, given by its ranges and its nesting. -/
def add (u : ClassUnion) (ranges : List (Nat × Nat)) (height : Nat) : ClassUnion :=
  ⟨ranges ++ u.ranges, u.count + 1, max u.height height⟩

/-- The union as one set, and its nesting: several items nest one deeper than they do. -/
def close (u : ClassUnion) : CharSet × Nat :=
  (.ofRanges u.ranges, if u.count ≤ 1 then u.height else u.height + 1)

end ClassUnion

/-- The operations on classes. -/
inductive ClassOperation where
  | intersection
  | difference
  | symmetricDifference

/-- The result of an operation on two sets. -/
def ClassOperation.apply : ClassOperation → CharSet → CharSet → CharSet
  | intersection => CharSet.inter
  | difference => CharSet.difference
  | symmetricDifference => CharSet.symmetricDifference

/-- What waits for the rest of a class. -/
inductive ClassFrame where
  /-- An opened bracket, and the items before it. -/
  | bracket (negated : Bool) (outer : ClassUnion)
  /-- The left operand of an operation. -/
  | operation (op : ClassOperation) (left : CharSet) (height : Nat)

/-- Apply the operation that waits for its right operand, if one does. -/
def closeOperation (flags : PatternFlags) :
    List ClassFrame → CharSet × Nat → List ClassFrame × (CharSet × Nat)
  | .operation op left height :: frames, (right, height') =>
    (frames, (op.apply (flags.fold left) (flags.fold right), max height height' + 1))
  | frames, right => (frames, right)

/-- Literal hyphens directly after an opening bracket. -/
def readLeadingHyphens (flags : PatternFlags) :
    (fuel : Nat) → ClassUnion → List Char → ClassUnion × List Char
  | fuel + 1, u, '-' :: rest =>
    readLeadingHyphens flags fuel (u.add [(0x2D, 0x2D)] 0) (flags.skip rest)
  | _, u, rest => (u, rest)

/-- What follows an opening bracket: a negation, literal hyphens, or else one literal closing
bracket. -/
def openClass (flags : PatternFlags) (text : List Char) :
    Except PatternError (Bool × ClassUnion × List Char) := do
  let (negated, rest) :=
    match flags.skip text with
    | '^' :: rest => (true, flags.skip rest)
    | rest => (false, rest)
  let (items, rest) := readLeadingHyphens flags rest.length {} rest
  match items.count, rest with
  | _, [] => throw .classNotClosed
  | 0, ']' :: rest =>
    match flags.skip rest with
    | [] => throw .classNotClosed
    | rest => return (negated, items.add [(0x5D, 0x5D)] 0, rest)
  | _, rest => return (negated, items, rest)

/-- A class name between colons, after the bracket that opens it. -/
def readNamedClass? (flags : PatternFlags) (text : List Char) :
    Option (Except PatternError CharSet × List Char) :=
  match text with
  | ':' :: inner =>
    let (negated, inner) :=
      match inner with
      | '^' :: inner => (true, inner)
      | _ => (false, inner)
    match inner.dropWhile (· != ':') with
    | ':' :: ']' :: rest =>
      match namedClass? (String.ofList (inner.takeWhile (· != ':'))) with
      | some set =>
        let set := flags.fold set
        some (if negated then flags.negate set else .ok set, rest)
      | none => none
    | _ => none
  | _ => none

/-- Read items, nested classes and operations until the outermost bracket closes. Returns the
class, its nesting and the rest of the text. -/
def readClassItems (flags : PatternFlags) :
    (fuel : Nat) → List ClassFrame → ClassUnion → List Char →
      Except PatternError (CharSet × Nat × List Char)
  | 0, _, _, _ => .error .classNotClosed
  | fuel + 1, frames, items, text => do
    match flags.skip text with
    | [] => throw .classNotClosed
    | '[' :: rest =>
      match readNamedClass? flags rest with
      | some (set, rest) =>
        let set ← set
        readClassItems flags fuel frames (items.add set.ranges.toList 0) rest
      | none =>
        let (negated, inner, rest) ← openClass flags rest
        readClassItems flags fuel (.bracket negated items :: frames) inner rest
    | ']' :: rest =>
      match closeOperation flags frames items.close with
      | (.bracket negated outer :: frames, (set, height)) =>
        let set := flags.fold set
        let set ← if negated then flags.negate set else pure set
        match frames with
        | [] =>
          if flags.unicode || set.bound ≤ 0x80 then return (set, height + 1, rest)
          else throw .beyondAscii
        | frames =>
          readClassItems flags fuel frames (outer.add set.ranges.toList (height + 1)) rest
      | _ => throw .classNotClosed
    | '&' :: '&' :: rest =>
      let (frames, (left, height)) := closeOperation flags frames items.close
      readClassItems flags fuel (.operation .intersection left height :: frames) {} rest
    | '-' :: '-' :: rest =>
      let (frames, (left, height)) := closeOperation flags frames items.close
      readClassItems flags fuel (.operation .difference left height :: frames) {} rest
    | '~' :: '~' :: rest =>
      let (frames, (left, height)) := closeOperation flags frames items.close
      readClassItems flags fuel (.operation .symmetricDifference left height :: frames) {} rest
    | rest =>
      let (ranges, rest) ← readClassRange flags rest
      readClassItems flags fuel frames (items.add ranges 0) rest

/-- A bracketed class, after its opening bracket. -/
def readClass (flags : PatternFlags) (text : List Char) :
    Except PatternError (CharSet × Nat × List Char) := do
  let (negated, items, rest) ← openClass flags text
  readClassItems flags (rest.length + 1) [.bracket negated {}] items rest

end Pattern

end ScopeScript
