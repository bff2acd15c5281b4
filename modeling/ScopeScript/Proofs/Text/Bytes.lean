import ScopeScript.Text.Bytes

/-!
# Bytes and characters

A text is as long in bytes as its pieces together. The bytes at which it can be cut are the sizes
of the texts that it begins with, and these are ordered as their lengths are.
-/

namespace ScopeScript

variable {text : List Char} {i j n : Nat}

/-! ## Sizes -/

/-- The size of a text is that of the string which it makes up. -/
theorem byteSize_eq (text : List Char) : byteSize text = (String.ofList text).utf8ByteSize := by
  have hfold : ∀ n, text.foldl (fun n c => n + c.utf8Size) n =
      n + (String.ofList text).utf8ByteSize := by
    induction text with
    | nil => exact fun n => rfl
    | cons c rest ih =>
      intro n
      rw [List.foldl_cons, ih, String.ofList_cons, String.utf8ByteSize_append,
        String.utf8ByteSize_singleton, Nat.add_assoc]
  rw [byteSize, hfold, Nat.zero_add]

/-- The size of two texts, one behind the other. -/
theorem byteSize_append (text text' : List Char) :
    byteSize (text ++ text') = byteSize text + byteSize text' := by
  rw [byteSize_eq, byteSize_eq, byteSize_eq, String.ofList_append, String.utf8ByteSize_append]

/-- The size of a text is that of its first character and of the rest. -/
theorem byteSize_cons (c : Char) (rest : List Char) :
    byteSize (c :: rest) = c.utf8Size + byteSize rest := by
  rw [byteSize_eq, byteSize_eq, String.ofList_cons, String.utf8ByteSize_append,
    String.utf8ByteSize_singleton]

/-- A longer beginning of a text is not smaller. -/
theorem byteSize_take_mono (text : List Char) (h : i ≤ j) :
    byteSize (text.take i) ≤ byteSize (text.take j) := by
  rw [← Nat.add_sub_of_le h, List.take_add, byteSize_append]
  exact Nat.le_add_right _ _

/-- A longer beginning of a text is larger. -/
theorem byteSize_take_lt (hij : i < j) (hj : j ≤ text.length) :
    byteSize (text.take i) < byteSize (text.take j) := by
  have hi : i < text.length := Nat.lt_of_lt_of_le hij hj
  refine Nat.lt_of_lt_of_le ?_ (byteSize_take_mono text hij)
  rw [List.take_add_one, List.getElem?_eq_getElem hi, byteSize_append, Option.toList_some,
    byteSize_cons]
  have := text[i].utf8Size_pos
  omega

/-- Pieces from the beginning of a text are ordered as their sizes are. -/
theorem le_of_byteSize_take_le (hi : i ≤ text.length)
    (h : byteSize (text.take i) ≤ byteSize (text.take j)) : i ≤ j :=
  Nat.le_of_not_lt fun hji => Nat.not_le_of_lt (byteSize_take_lt hji hi) h

/-- The size of what stands between two places of a text. -/
theorem byteSize_take_drop (text : List Char) (i n : Nat) :
    byteSize ((text.drop i).take n) = byteSize (text.take (i + n)) - byteSize (text.take i) := by
  rw [List.take_add, byteSize_append, Nat.add_sub_cancel_left]

/-- Within the size of a text lie its characters, whatever follows. -/
theorem charsWithin_append (front back : List Char) (count : Nat) :
    charsWithin (byteSize front) count (front ++ back) = count + front.length := by
  induction front generalizing count with
  | nil =>
    cases back with
    | nil => rfl
    | cons c rest => exact if_neg (Nat.not_le_of_lt c.utf8Size_pos)
  | cons c rest ih =>
    rw [List.cons_append, charsWithin, byteSize_cons, if_pos (Nat.le_add_right _ _),
      Nat.add_sub_cancel_left, ih, List.length_cons, Nat.add_assoc, Nat.add_comm 1]

/-! ## Boundaries -/

/-- A byte at which a text can be cut. -/
def IsBoundary (text : List Char) (n : Nat) : Prop :=
  ∃ front back, text = front ++ back ∧ byteSize front = n

/-- The text in front of some character ends at a boundary. -/
theorem isBoundary_take (text : List Char) (i : Nat) : IsBoundary text (byteSize (text.take i)) :=
  ⟨_, _, (List.take_append_drop i text).symm, rfl⟩

/-- A boundary stands behind some number of characters. -/
theorem IsBoundary.exists_take (h : IsBoundary text n) :
    ∃ i ≤ text.length, byteSize (text.take i) = n := by
  obtain ⟨front, back, rfl, hn⟩ := h
  exact ⟨front.length, by simp, by rw [List.take_left]; exact hn⟩

/-- A text cut in two at a byte, unless the byte is inside a character or behind the text. -/
def cutAt? : (n : Nat) → (text : List Char) → Option (List Char × List Char)
  | 0, text => some ([], text)
  | _ + 1, [] => none
  | n + 1, c :: rest =>
    if c.utf8Size ≤ n + 1 then (cutAt? (n + 1 - c.utf8Size) rest).map fun p => (c :: p.1, p.2)
    else none

/-- A text can be cut behind any of its pieces. -/
theorem cutAt?_append (front back : List Char) :
    cutAt? (byteSize front) (front ++ back) = some (front, back) := by
  induction front with
  | nil => cases back <;> rfl
  | cons c rest ih =>
    obtain ⟨n, hn⟩ := Nat.exists_eq_add_one_of_ne_zero (Nat.ne_of_gt c.utf8Size_pos)
    have hsize : byteSize (c :: rest) = n + byteSize rest + 1 := by
      rw [byteSize_cons, hn]
      omega
    have hrest : n + byteSize rest + 1 - c.utf8Size = byteSize rest := by omega
    rw [hsize, List.cons_append, cutAt?, if_pos (by omega), hrest, ih, Option.map_some]

/-- A text can be cut in front of any of its characters. -/
theorem cutAt?_take (text : List Char) (i : Nat) :
    cutAt? (byteSize (text.take i)) text = some (text.take i, text.drop i) := by
  conv => lhs; arg 2; rw [← List.take_append_drop i text]
  exact cutAt?_append _ _

end ScopeScript
