import ScopeScript.Text.CharSet

/-!
# White space

The characters with the white-space property: the ASCII controls from tab to carriage return,
the space, and the separators and controls beyond ASCII.
-/

namespace ScopeScript

/-- White-space characters. -/
def spaceChars : CharSet := ⟨#[
  (0x09, 0x0D), (0x20, 0x20), (0x85, 0x85), (0xA0, 0xA0), (0x1680, 0x1680), (0x2000, 0x200A),
  (0x2028, 0x2029), (0x202F, 0x202F), (0x205F, 0x205F), (0x3000, 0x3000)]⟩

/-- Whether a character is white space. -/
def isSpace (c : Char) : Bool :=
  let n := c.toNat
  n == 0x20 || (0x09 ≤ n && n ≤ 0x0D) ||
    (0x80 ≤ n &&
      (n == 0x85 || n == 0xA0 || n == 0x1680 || (0x2000 ≤ n && n ≤ 0x200A) ||
        (0x2028 ≤ n && n ≤ 0x2029) || n == 0x202F || n == 0x205F || n == 0x3000))

end ScopeScript
