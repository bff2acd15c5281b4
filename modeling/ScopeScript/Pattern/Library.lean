import ScopeScript.Pattern.Reader
import ScopeScript.Pattern.Search

/-!
# The patterns of this project as a search library

A pattern is compiled to a matching program. Its matches are handed over as ranges of bytes. The
library is the one that the program is run with.
-/

namespace ScopeScript

/-- The bytes that matches cover. `text` is what is left to read, from the byte `start` and the
character `offset` on; the ranges found so far stand latest first. -/
def ByteRange.ofMatches (start offset : Nat) (text : List Char) (found : List ByteRange) :
    List PatternMatch → List ByteRange
  | [] => found.reverse
  | m :: rest =>
    let skip := m.offset - offset
    let first := start + byteSize (text.take skip)
    let last := first + byteSize m.text
    ofMatches last (m.offset + m.text.length) (text.drop (skip + m.text.length))
      (⟨first, last⟩ :: found) rest

/-- The patterns of this project, with their matches as ranges of bytes. -/
def Pattern.library : SearchLibrary where
  Compiled := PatternProgram
  Reason := PatternError
  describe := PatternError.message
  compile source := (Pattern.read source).map Pattern.program
  ranges p text := ByteRange.ofMatches 0 0 text [] (p.findAll text)

/-- Programs are run with the patterns of this project. -/
instance : SearchContext := ⟨Pattern.library⟩

end ScopeScript
