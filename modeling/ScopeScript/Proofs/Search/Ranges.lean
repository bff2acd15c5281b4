import Mathlib.Data.Nat.Basic
import Mathlib.Order.Basic
import ScopeScript.Pattern.Library
import ScopeScript.Proofs.Text.Bytes

/-!
# Ranges of bytes and matches

Ranges of bytes that ascend, do not overlap, and start and end between characters are those of
pieces of the text that lie one behind the other. Each piece can be read off its range alone, and
all of them can be read at once, from the front of the text to its end.
-/

namespace ScopeScript

variable {text : List Char} {i j k n : Nat} {ms : List PatternMatch}

/-! ## Matches -/

namespace PatternMatch

/-- The text of a match stands in the whole text where the match says. -/
structure OccursIn (m : PatternMatch) (text : List Char) : Prop where
  within : m.offset + m.text.length ≤ text.length
  piece : (text.drop m.offset).take m.text.length = m.text

/-- The matches are pieces of the text from `i` on, one behind the other. -/
def Fits (text : List Char) : (i : Nat) → List PatternMatch → Prop
  | _, [] => True
  | i, m :: rest => i ≤ m.offset ∧ m.OccursIn text ∧ Fits text (m.offset + m.text.length) rest

/-- Matches from a place on are matches from any place before it on. -/
theorem Fits.of_le (h : Fits text j ms) (hle : i ≤ j) : Fits text i ms := by
  cases ms with
  | nil => trivial
  | cons m rest => exact ⟨hle.trans h.1, h.2⟩

/-- Matches that fit into a text stand in it. -/
theorem Fits.occursIn (h : Fits text i ms) : ∀ m ∈ ms, m.OccursIn text := by
  induction ms generalizing i with
  | nil => simp
  | cons m rest ih => exact List.forall_mem_cons.mpr ⟨h.2.1, ih h.2.2⟩

end PatternMatch

open PatternMatch

/-! ## Ranges -/

namespace ByteRange

/-- How many characters stand before a range. -/
def offset? (text : List Char) (r : ByteRange) : Option Nat :=
  (cutAt? r.start text).map fun p => p.1.length

/-- The text that a range covers. -/
def slice? (text : List Char) (r : ByteRange) : Option (List Char) := do
  let (front, _) ← cutAt? r.stop text
  let (_, covered) ← cutAt? r.start front
  return covered

/-- The bytes that a match covers. -/
def ofMatch (text : List Char) (m : PatternMatch) : ByteRange :=
  ⟨byteSize (text.take m.offset), byteSize (text.take (m.offset + m.text.length))⟩

/-- Ranges from the byte `i` on that ascend, do not overlap, and lie on character boundaries. -/
def Ascending (text : List Char) : (i : Nat) → List ByteRange → Prop
  | _, [] => True
  | i, r :: rest =>
    i ≤ r.start ∧ r.start ≤ r.stop ∧ IsBoundary text r.start ∧ IsBoundary text r.stop ∧
      Ascending text r.stop rest

/-- As many characters stand before the range of a match as before the match. -/
theorem offset?_ofMatch {m : PatternMatch} (h : m.OccursIn text) :
    (ofMatch text m).offset? text = some m.offset := by
  rw [offset?, ofMatch, cutAt?_take, Option.map_some, List.length_take, Nat.min_eq_left]
  exact Nat.le_of_add_right_le h.within

/-- The range of a match covers its text. -/
theorem slice?_ofMatch {m : PatternMatch} (h : m.OccursIn text) :
    (ofMatch text m).slice? text = some m.text := by
  have hfront : text.take m.offset = (text.take (m.offset + m.text.length)).take m.offset := by
    rw [List.take_take, Nat.min_eq_left (Nat.le_add_right _ _)]
  rw [slice?, ofMatch, cutAt?_take]
  dsimp only [Option.bind_eq_bind, Option.bind_some]
  rw [hfront, cutAt?_take]
  dsimp only [Option.bind_some]
  rw [List.drop_take, Nat.add_sub_cancel_left, h.piece]
  rfl

/-- The ranges of matches that lie one behind the other ascend. -/
theorem ascending_of_fits (h : Fits text i ms) :
    Ascending text (byteSize (text.take i)) (ms.map (ofMatch text)) := by
  induction ms generalizing i with
  | nil => trivial
  | cons m rest ih =>
    exact ⟨byteSize_take_mono text h.1, byteSize_take_mono text (Nat.le_add_right _ _),
      isBoundary_take _ _, isBoundary_take _ _, ih h.2.2⟩

/-- Ascending ranges on boundaries are those of matches that lie one behind the other. -/
theorem exists_fits_of_ascending {ranges : List ByteRange} (hi : i ≤ text.length)
    (h : Ascending text (byteSize (text.take i)) ranges) :
    ∃ ms, Fits text i ms ∧ ranges = ms.map (ofMatch text) := by
  induction ranges generalizing i with
  | nil => exact ⟨[], trivial, rfl⟩
  | cons r rest ih =>
    obtain ⟨hle, hlen, hstart, hstop, hrest⟩ := h
    obtain ⟨j, hj, hstart⟩ := hstart.exists_take
    obtain ⟨k, hk, hstop⟩ := hstop.exists_take
    rw [← hstart] at hle hlen
    rw [← hstop] at hlen hrest
    have hij := le_of_byteSize_take_le hi hle
    have hjk := le_of_byteSize_take_le hj hlen
    obtain ⟨ms, hfits, hranges⟩ := ih hk hrest
    have hlength : ((text.drop j).take (k - j)).length = k - j := by
      rw [List.length_take, List.length_drop]
      omega
    have hend : j + ((text.drop j).take (k - j)).length = k := by omega
    refine ⟨⟨j, (text.drop j).take (k - j)⟩ :: ms, ⟨hij, ⟨?_, ?_⟩, ?_⟩, ?_⟩
    · rw [hend]
      exact hk
    · rw [hlength]
    · rw [hend]
      exact hfits
    · rw [List.map_cons, hranges, ofMatch, hend, hstart, hstop]

/-! ## Reading all at once -/

/-- Between two places of a text lie as many characters as between their bytes. -/
theorem charsWithin_between (h : i + k ≤ text.length) :
    charsWithin (byteSize (text.take (i + k)) - byteSize (text.take i)) 0 (text.drop i) = k := by
  have hlength : ((text.drop i).take k).length = k := by
    rw [List.length_take, List.length_drop]
    omega
  rw [← byteSize_take_drop]
  conv => lhs; arg 3; rw [← List.take_append_drop k (text.drop i)]
  rw [charsWithin_append, hlength, Nat.zero_add]

/-- **The pieces that ranges cover** are the matches whose ranges they are. -/
theorem pieces_ofMatch (h : Fits text i ms) (found : List PatternMatch) :
    pieces (byteSize (text.take i)) i (text.drop i) found (ms.map (ofMatch text)) =
      found.reverse ++ ms := by
  induction ms generalizing i found with
  | nil => simp [pieces]
  | cons m rest ih =>
    obtain ⟨hle, hm, hrest⟩ := h
    obtain ⟨offset, covered⟩ := m
    obtain ⟨k, rfl⟩ := Nat.exists_eq_add_of_le hle
    have hskip : charsWithin (byteSize (text.take (i + k)) - byteSize (text.take i)) 0
        (text.drop i) = k := charsWithin_between (Nat.le_of_add_right_le hm.within)
    have hlength : charsWithin (byteSize (text.take (i + k + covered.length)) -
        byteSize (text.take (i + k))) 0 (text.drop (i + k)) = covered.length :=
      charsWithin_between hm.within
    have hpiece : (text.drop (i + k)).take covered.length = covered := hm.piece
    rw [List.map_cons, pieces, ofMatch]
    dsimp only
    rw [hskip, List.drop_drop, hlength, hpiece, List.drop_drop, ← Nat.add_assoc, ih hrest]
    simp

/-- The ranges that are handed over are those of the matches. -/
theorem ofMatches_eq (h : Fits text i ms) (found : List ByteRange) :
    ofMatches (byteSize (text.take i)) i (text.drop i) found ms =
      found.reverse ++ ms.map (ofMatch text) := by
  induction ms generalizing i found with
  | nil => simp [ofMatches]
  | cons m rest ih =>
    obtain ⟨hle, hm, hrest⟩ := h
    obtain ⟨offset, covered⟩ := m
    obtain ⟨k, rfl⟩ := Nat.exists_eq_add_of_le hle
    have hfirst : byteSize (text.take i) + byteSize ((text.drop i).take k) =
        byteSize (text.take (i + k)) := by rw [List.take_add, byteSize_append]
    have hpiece : (text.drop (i + k)).take covered.length = covered := hm.piece
    have hlast : byteSize (text.take (i + k)) + byteSize covered =
        byteSize (text.take (i + k + covered.length)) := by
      conv => rhs; rw [List.take_add, byteSize_append, hpiece]
    rw [ofMatches]
    dsimp only
    rw [Nat.add_sub_cancel_left, hfirst, hlast, List.drop_drop, ← Nat.add_assoc, ih hrest]
    simp [ofMatch]

end ByteRange

end ScopeScript
