/-!
# Positions in source text

Lines and columns count from one, columns in characters, and only a line feed starts a new
line. A span reaches from the location of its first character to the one after its last.
-/

namespace ScopeScript

/-- A place between two characters of a source text. -/
structure Location where
  line : Nat
  column : Nat
  deriving Repr, DecidableEq, Inhabited

namespace Location

/-- The start of a text. -/
def start : Location := ⟨1, 1⟩

/-- The place behind one more character. -/
def next (l : Location) (c : Char) : Location :=
  if c = '\n' then ⟨l.line + 1, 1⟩ else ⟨l.line, l.column + 1⟩

/-- The place reached after reading a text. -/
def advance (l : Location) (text : List Char) : Location := text.foldl next l

/-- The empty text leads nowhere. -/
@[simp] theorem advance_nil (l : Location) : l.advance [] = l := rfl

/-- A text is passed character by character. -/
@[simp] theorem advance_cons (l : Location) (c : Char) (text : List Char) :
    l.advance (c :: text) = (l.next c).advance text := rfl

/-- A text is read like its parts, one after the other. -/
@[simp] theorem advance_append (l : Location) (s t : List Char) :
    l.advance (s ++ t) = (l.advance s).advance t := List.foldl_append

/-- A location in words. -/
def text (l : Location) : String := s!"line {l.line}, column {l.column}"

end Location

/-- A stretch of source text. -/
structure Span where
  start : Location
  stop : Location
  deriving Repr, DecidableEq, Inhabited

namespace Span

/-- The span of what stands in no source text. -/
def none : Span := ⟨⟨0, 0⟩, ⟨0, 0⟩⟩

/-- From the start of one span to the end of another. -/
def till (s t : Span) : Span := ⟨s.start, t.stop⟩

/-- The span of `text` read from a location on. -/
def ofText (l : Location) (text : List Char) : Span := ⟨l, l.advance text⟩

/-- A span is named by the place where it starts. -/
def text (s : Span) : String := s.start.text

end Span

end ScopeScript
