import ScopeScript.Decimal.Shortest

/-!
# Number texts

Numbers are written with the shortest digits that read back. The plain text is positional
whatever the size and writes whole numbers without a point. The exact text marks every number
as one that may have a fraction and writes very large and very small ones with an exponent.
-/

namespace ScopeScript

namespace Decimal

/-- The digits of the decimal as text. -/
def digitText (d : Decimal) : List Char := Nat.toDigits 10 d.digits

/-- A run of zeros. -/
def zeros (n : Nat) : List Char := List.replicate n '0'

/-- Positional notation; a whole number has no point. -/
def positional (d : Decimal) : List Char :=
  let ds := d.digitText
  let point := ds.length + d.exponent
  if 0 ≤ d.exponent then ds ++ zeros d.exponent.toNat
  else if 0 < point then ds.take point.toNat ++ '.' :: ds.drop point.toNat
  else '0' :: '.' :: zeros (-point).toNat ++ ds

/-- Positional notation with at least one digit behind the point. -/
def positionalWithPoint (d : Decimal) : List Char :=
  if 0 ≤ d.exponent then d.positional ++ ['.', '0'] else d.positional

/-- One digit, a point and the other digits if there are any, and the power of ten. -/
def scientific (d : Decimal) : List Char :=
  let ds := d.digitText
  let power := ds.length - 1 + d.exponent
  let fraction := if ds.length ≤ 1 then [] else '.' :: ds.drop 1
  ds.take 1 ++ fraction ++ 'e' :: (toString power).toList

end Decimal

/-- Write a number with the layout chosen for finite numbers other than zero. -/
def numberTextWith (zero : String) (finite : Decimal → List Char) (x : Float) : String :=
  if x.isNaN then "NaN"
  else
    let sign := if x.toBits.toNat / Nat.pow 2 63 = 1 then "-" else ""
    if x.isInf then sign ++ "inf"
    else if x == 0 then sign ++ zero
    else sign ++ String.ofList (finite (.shortest (.ofBits x.toBits.toNat)))

/-- The plain text of a number: positional, without a point if whole. -/
def numberText (x : Float) : String := numberTextWith "0" Decimal.positional x

/-- The exact text of a number: always with a point or an exponent, which is written from
`10 ^ 16` on and below `10 ^ -4`. -/
def exactNumberText (x : Float) : String :=
  let scientific := x.abs ≥ 1e16 || x.abs < 1e-4
  numberTextWith "0.0"
    (if scientific then Decimal.scientific else Decimal.positionalWithPoint) x

end ScopeScript
