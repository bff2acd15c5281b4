/-!
# Texts as bytes

How many bytes a text takes, and how many characters lie within so many bytes.
-/

namespace ScopeScript

/-- The size of a text in bytes. -/
def byteSize (text : List Char) : Nat := text.foldl (fun n c => n + c.utf8Size) 0

/-- How many characters lie within the first `size` bytes of a text, counted on from `count`. -/
def charsWithin : (size count : Nat) → List Char → Nat
  | _, count, [] => count
  | size, count, c :: rest =>
    if c.utf8Size ≤ size then charsWithin (size - c.utf8Size) (count + 1) rest else count

end ScopeScript
