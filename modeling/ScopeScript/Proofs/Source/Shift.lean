import ScopeScript.Source.Location

/-!
# Places in a joined text

A text that follows another one has its places moved: the lines behind its first one keep their
columns, the first one goes on where the text before it ends. Reading a text from a place and
moving the place commute, for the places that a text has: lines and columns count from one.
-/

namespace ScopeScript

namespace Location

/-- Where a place of a text comes to lie once the text starts at `d`. -/
def shift (d l : Location) : Location :=
  ⟨d.line + (l.line - 1), if l.line ≤ 1 then d.column + (l.column - 1) else l.column⟩

/-- A place that a text may have. -/
structure IsPlace (l : Location) : Prop where
  line_pos : 1 ≤ l.line
  column_pos : 1 ≤ l.column

/-- A text starts at a place. -/
theorem isPlace_start : IsPlace start := ⟨Nat.le_refl 1, Nat.le_refl 1⟩

/-- Behind a character of a text there is a place. -/
theorem IsPlace.next {l : Location} (hl : IsPlace l) (c : Char) : IsPlace (l.next c) := by
  rw [Location.next]
  split
  · exact ⟨Nat.le_add_left 1 _, Nat.le_refl 1⟩
  · exact ⟨hl.line_pos, Nat.le_add_left 1 _⟩

/-- Behind any characters of a text there is a place. -/
theorem IsPlace.advance {l : Location} (hl : IsPlace l) (text : List Char) :
    IsPlace (l.advance text) := by
  induction text generalizing l with
  | nil => exact hl
  | cons c rest ih => exact ih (hl.next c)

/-- A place moves on by a character alike, wherever the text starts. -/
theorem shift_next (d : Location) {l : Location} (hl : IsPlace l) (c : Char) :
    shift d (l.next c) = (shift d l).next c := by
  obtain ⟨line, column⟩ := l
  obtain ⟨hline, hcolumn⟩ := hl
  dsimp only at hline hcolumn
  by_cases hc : c = '\n'
  · simp only [Location.next, shift, hc, if_true, mk.injEq]
    rw [if_neg (by omega)]
    exact ⟨by omega, rfl⟩
  · simp only [Location.next, shift, hc, if_false, mk.injEq, true_and]
    split
    · omega
    · rfl

/-- A moved place advances as the place itself does. -/
theorem shift_advance (d : Location) {l : Location} (hl : IsPlace l) (text : List Char) :
    shift d (l.advance text) = (shift d l).advance text := by
  induction text generalizing l with
  | nil => rfl
  | cons c rest ih => rw [advance_cons, advance_cons, ih (hl.next c), shift_next d hl]

end Location

/-- A span whose ends are moved. -/
def Span.relocate (g : Location → Location) (s : Span) : Span := ⟨g s.start, g s.stop⟩

/-- A span that reaches from one to another moves as these do. -/
@[simp] theorem Span.relocate_till (g : Location → Location) (s t : Span) :
    (s.till t).relocate g = (s.relocate g).till (t.relocate g) := rfl

/-- A span that goes on further ends with the last one. -/
@[simp] theorem Span.till_till (s t u : Span) : (s.till t).till u = s.till u := rfl

/-- The span of a text moves with the place that it is read from. -/
theorem Span.relocate_ofText (d : Location) {l : Location} (hl : l.IsPlace) (text : List Char) :
    (Span.ofText l text).relocate (.shift d) = .ofText (.shift d l) text := by
  rw [ofText, relocate, Location.shift_advance d hl, ofText]

end ScopeScript
