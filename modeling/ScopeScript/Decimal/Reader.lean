/-!
# Reading numbers

A number is an optional sign followed by digits with at most one point among them and an
optional exponent, or by a word for infinity or for no number, in any case. The value is the
nearest number; what is beyond the largest is infinite.
-/

namespace ScopeScript

namespace Decimal

/-- The ten decimal digits. -/
def isDigit (c : Char) : Bool := '0' ≤ c && c ≤ '9'

/-- The number that digits spell. -/
def digitsValue (ds : List Char) : Nat :=
  ds.foldl (fun n c => 10 * n + (c.toNat - 0x30)) 0

/-- A sign, and what follows it. -/
def readSign : List Char → Bool × List Char
  | '-' :: rest => (true, rest)
  | '+' :: rest => (false, rest)
  | rest => (false, rest)

/-- The exponent at the end of a number, zero if there is none. -/
def readExponent? : List Char → Option Int
  | [] => some 0
  | c :: rest =>
    if c == 'e' || c == 'E' then
      let (negative, ds) := readSign rest
      if !ds.isEmpty && ds.all isDigit then
        some (if negative then -(digitsValue ds : Int) else digitsValue ds)
      else none
    else none

/-- The digits in front of the point, those behind it, and the exponent. -/
def readParts? (text : List Char) : Option (List Char × List Char × Int) :=
  let whole := text.takeWhile isDigit
  let rest := text.dropWhile isDigit
  let (fraction, rest) :=
    match rest with
    | '.' :: rest => (rest.takeWhile isDigit, rest.dropWhile isDigit)
    | rest => ([], rest)
  if whole.isEmpty && fraction.isEmpty then none
  else (readExponent? rest).map fun e => (whole, fraction, e)

/-- The digits from the first that is not zero on. -/
def significant (ds : List Char) : List Char := ds.dropWhile (· == '0')

/-- The number nearest to `digits * 10 ^ exponent`, where `digits` has `count` digits, none of them
a zero in front. -/
def nearest (digits count : Nat) (exponent : Int) : Float :=
  if digits = 0 then 0
  else if exponent + count > 400 then 1 / 0
  else if exponent + count < -400 then 0
  else .ofScientific digits (exponent < 0) exponent.natAbs

/-- The value of a number without its sign. -/
def readUnsigned? (text : List Char) : Option Float :=
  match String.ofList (text.map Char.toLower) with
  | "inf" => some (1 / 0)
  | "infinity" => some (1 / 0)
  | "nan" => some (0 / 0)
  | _ =>
    (readParts? text).map fun (whole, fraction, e) =>
      let ds := significant (whole ++ fraction)
      nearest (digitsValue ds) ds.length (e - fraction.length)

end Decimal

/-- The value of a text that spells a number. -/
def readNumber? (text : String) : Option Float :=
  let (negative, rest) := Decimal.readSign text.toList
  (Decimal.readUnsigned? rest).map fun x => if negative then -x else x

end ScopeScript
