/-!
# Sets of characters

A set of characters is held as inclusive ranges of code points, ascending and separated by
gaps, so that membership is a binary search. Union, complement and the other set operations
build every result through `CharSet.ofRanges`, which sorts and joins its ranges. Large sets are
written down as tables of rows in hexadecimal digits.
-/

namespace ScopeScript

/-- The largest code point. -/
def lastCode : Nat := 0x10FFFF

/-- A set of code points, as inclusive ranges `(first, last)` in ascending order. -/
structure CharSet where
  /-- The ranges, ascending and pairwise separated. -/
  ranges : Array (Nat × Nat)
  deriving Inhabited, Repr, BEq

namespace CharSet

/-- Binary search for a range that holds `code`, among the ranges from `low` up to `high`. -/
def searchRanges (ranges : Array (Nat × Nat)) (code low high : Nat) : Bool :=
  if _ : low < high then
    let middle := (low + high) / 2
    match ranges[middle]? with
    | none => false
    | some (first, last) =>
      if code < first then searchRanges ranges code low middle
      else if last < code then searchRanges ranges code (middle + 1) high
      else true
  else false
termination_by high - low

/-- Membership of a code point. -/
def containsCode (s : CharSet) (code : Nat) : Bool :=
  searchRanges s.ranges code 0 s.ranges.size

/-- Membership of a character. -/
def contains (s : CharSet) (c : Char) : Bool := s.containsCode c.toNat

/-- Every code point up to `last`. -/
def upTo (last : Nat) : CharSet := ⟨#[(0, last)]⟩

/-- Every character. -/
def all : CharSet := upTo lastCode

/-- The characters from `first` to `last`. -/
def range (first last : Nat) : CharSet := ⟨#[(first, last)]⟩

/-- The set of one character. -/
def single (c : Char) : CharSet := range c.toNat c.toNat

/-- Whether a set has no members. -/
def isEmpty (s : CharSet) : Bool := s.ranges.isEmpty

/-- The least code point beyond every member, zero for the empty set. -/
def bound (s : CharSet) : Nat :=
  match s.ranges.back? with
  | some (_, last) => last + 1
  | none => 0

/-- Add one range behind the ascending `ranges`, joining it to the last one where they touch. -/
def pushRange (ranges : Array (Nat × Nat)) (r : Nat × Nat) : Array (Nat × Nat) :=
  match ranges.back? with
  | some (first, last) =>
    if r.1 ≤ last + 1 then ranges.pop.push (first, max last r.2) else ranges.push r
  | none => ranges.push r

/-- The set of the characters in any of the ranges, which may overlap and stand in any order. -/
def ofRanges (ranges : List (Nat × Nat)) : CharSet :=
  ⟨(ranges.mergeSort fun a b => decide (a.1 ≤ b.1)).foldl pushRange #[]⟩

/-- The characters in one set or the other. -/
def union (s t : CharSet) : CharSet := ofRanges (s.ranges.toList ++ t.ranges.toList)

/-- The gaps between ascending ranges, from `next` to `last`. -/
def gaps (last : Nat) : (next : Nat) → List (Nat × Nat) → List (Nat × Nat)
  | next, [] => if next ≤ last then [(next, last)] else []
  | next, (first, final) :: rest =>
    if next < first then (next, first - 1) :: gaps last (final + 1) rest
    else gaps last (final + 1) rest

/-- The characters up to `last` that are not in the set. -/
def complementUpTo (last : Nat) (s : CharSet) : CharSet :=
  ⟨(gaps last 0 s.ranges.toList).toArray⟩

/-- The characters that are not in the set. -/
def complement (s : CharSet) : CharSet := s.complementUpTo lastCode

/-- The characters in both sets. -/
def inter (s t : CharSet) : CharSet := (s.complement.union t.complement).complement

/-- The characters in the first set alone. -/
def difference (s t : CharSet) : CharSet := s.inter t.complement

/-- The characters in exactly one of the sets. -/
def symmetricDifference (s t : CharSet) : CharSet := (s.difference t).union (t.difference s)

end CharSet

/-! ## Tables -/

/-- The value of a hexadecimal digit. -/
def hexValue? (c : Char) : Option Nat :=
  if '0' ≤ c && c ≤ '9' then some (c.toNat - 0x30)
  else if 'a' ≤ c && c ≤ 'f' then some (c.toNat - 0x61 + 10)
  else if 'A' ≤ c && c ≤ 'F' then some (c.toNat - 0x41 + 10)
  else none

/-- The code point that is written in hexadecimal digits. -/
def codeOfHex (digits : String) : Nat :=
  digits.toList.foldl (fun code c => 16 * code + (hexValue? c).getD 0) 0

/-- The ranges of a row, which is a single code point, as `aa`, all from one to another, as
`c0-d6`, or every second one of these, as `100-136/2`. -/
def rowRanges (row : String) : List (Nat × Nat) :=
  match row.splitOn "-" with
  | [first, last] =>
    let first := codeOfHex first
    match last.splitOn "/" with
    | [last, _] =>
      (List.range ((codeOfHex last - first) / 2 + 1)).map fun i => (first + 2 * i, first + 2 * i)
    | _ => [(first, codeOfHex last)]
  | _ => [(codeOfHex row, codeOfHex row)]

/-- The set of the characters in rows, which stand in lines with blanks between them. -/
def CharSet.ofRows (lines : List String) : CharSet :=
  .ofRanges (lines.flatMap fun line => (line.splitOn " ").flatMap rowRanges)

/-- A set that the Unicode character database names, with all of its names and its rows. -/
structure CharTable where
  names : List String
  rows : List String
  deriving Repr

end ScopeScript
