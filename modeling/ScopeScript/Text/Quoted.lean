import ScopeScript.Text.Escaped

/-!
# Quoted text

A text between double quotes that shows every character. The quote, the backslash and the
common controls have short escapes, other characters without a glyph of their own are spelled
by number, and all else stands for itself.
-/

namespace ScopeScript

namespace Quoted

/-- The spelling of one character. -/
def escape (c : Char) : List Char :=
  match c with
  | '\x00' => ['\\', '0']
  | '\t' => ['\\', 't']
  | '\r' => ['\\', 'r']
  | '\n' => ['\\', 'n']
  | '\\' => ['\\', '\\']
  | '\x22' => ['\\', '\x22']
  | c =>
    if isPrintable c then [c]
    else '\\' :: 'u' :: '\x7b' :: Nat.toDigits 16 c.toNat ++ ['\x7d']

/-- A text between quotes. -/
def encode (text : List Char) : List Char := '\x22' :: text.flatMap escape ++ ['\x22']

end Quoted

/-- A text between quotes, every character visible. -/
def quoted (text : String) : String := .ofList (Quoted.encode text.toList)

end ScopeScript
