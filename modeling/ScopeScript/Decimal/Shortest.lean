/-!
# Shortest decimals

The shortest decimal that reads back as a given binary number. A finite positive number is
`m * 2 ^ q`, and the reals that round to it form an interval, whose ends belong to it when `m`
is even. On the grid of decimals with one digit, then with two and so on, the two neighbours
of the number are tried; the first grid with a neighbour inside the interval decides. Of two
neighbours inside, the nearer is taken, and the upper one at equal distance.
-/

namespace ScopeScript

/-- The number `digits * 10 ^ exponent`. -/
structure Decimal where
  digits : Nat
  exponent : Int
  deriving Repr, DecidableEq

/-- A finite number without its sign: `mantissa * 2 ^ exponent`. -/
structure Binary where
  mantissa : Nat
  exponent : Int
  /-- Whether the next smaller number is only half as far away as the next larger one. -/
  narrowBelow : Bool
  deriving Repr, DecidableEq

namespace Binary

/-- The parts of the 64 bits of a finite number; the sign bit is ignored. -/
def ofBits (bits : Nat) : Binary :=
  let fraction : Nat := bits % Nat.pow 2 52
  let field : Nat := bits / Nat.pow 2 52 % Nat.pow 2 11
  if field = 0 then ⟨fraction, -1074, false⟩
  else ⟨fraction + Nat.pow 2 52, (field : Int) - 1075, fraction = 0 && field > 1⟩

end Binary

namespace Decimal

/-- How many decimal digits a number has. -/
def digitCount (n : Nat) : Nat := (Nat.toDigits 10 n).length

/-- The least `k ≥ from` such that `num * 10 ^ k` reaches `den`, given `num * 10 ^ from`. -/
def stepsToReach (den : Nat) : (fuel : Nat) → (num k : Nat) → Nat
  | 0, _, k => k
  | fuel + 1, num, k => if den ≤ num then k else stepsToReach den fuel (10 * num) (k + 1)

/-- The exponent of the leading decimal digit of `num / den`. -/
def leadingExponent (num den : Nat) : Int :=
  if den ≤ num then digitCount (num / den) - 1
  else -(stepsToReach den 400 num 0 : Int)

/-- The neighbour to take on the grid of `10 ^ g`, if one lies between `low / den` and
`high / den`. -/
def onGrid? (num low high den : Nat) (closed : Bool) (g : Int) : Option Nat :=
  let scale := Nat.pow 10 (-g).toNat
  let unit := Nat.pow 10 g.toNat * den
  let floor := num * scale / unit
  let rest := num * scale % unit
  let floorInside :=
    if closed then low * scale ≤ floor * unit else low * scale < floor * unit
  let ceilingInside :=
    if closed then (floor + 1) * unit ≤ high * scale else (floor + 1) * unit < high * scale
  if floorInside && (!ceilingInside || 2 * rest < unit) then some floor
  else if ceilingInside then some (floor + 1)
  else none

/-- The first hit on the grids with `count`, `count + 1` … digits. -/
def firstOnGrid (num low high den : Nat) (closed : Bool) (leading : Int) :
    (fuel count : Nat) → Decimal
  | 0, count => ⟨num / den, count⟩
  | fuel + 1, count =>
    let g := leading + 1 - count
    match onGrid? num low high den closed g with
    | some digits => ⟨digits, g⟩
    | none => firstOnGrid num low high den closed leading fuel (count + 1)

/-- Move trailing zeros of the digits into the exponent. -/
def trimZeros : (fuel : Nat) → Decimal → Decimal
  | 0, d => d
  | fuel + 1, d =>
    if d.digits ≠ 0 ∧ d.digits % 10 = 0 then trimZeros fuel ⟨d.digits / 10, d.exponent + 1⟩ else d

/-- The shortest decimal that reads back as a positive number. -/
def shortest (b : Binary) : Decimal :=
  let power := b.exponent - 2
  let factor := Nat.pow 2 power.toNat
  let den := Nat.pow 2 (-power).toNat
  let num := 4 * b.mantissa * factor
  let high := (4 * b.mantissa + 2) * factor
  let low := (4 * b.mantissa - if b.narrowBelow then 1 else 2) * factor
  trimZeros 20 <|
    firstOnGrid num low high den (b.mantissa % 2 == 0) (leadingExponent num den) 17 1

end Decimal

end ScopeScript
