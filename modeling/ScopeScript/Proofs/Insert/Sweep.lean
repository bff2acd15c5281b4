import Mathlib.Data.List.TakeWhile
import ScopeScript.Proofs.Insert.Directive
import ScopeScript.Proofs.Text.Bytes

/-!
# The sweep over a text

A sweep finds the directives of any text, also of one in which number signs stand for themselves:
a text begins with a directive or it does not, and the sweep takes the directive or one character.
A file is read where it is named for the first time and known from then on. The sizes that the
sweep carries along are those of its texts, so what it compares with the limit is the size of the
text with the replacement made.
-/

namespace ScopeScript.Insert

variable {word text text' rest done : List Char} {c : Char} {file : String}

/-! ## Directives anywhere -/

/-- A text is its beginning and what follows. -/
theorem eq_append_of_after? {beginning : List Char} (h : after? beginning text = some rest) :
    text = beginning ++ rest := by
  induction beginning generalizing text with
  | nil => exact Option.some.inj h
  | cons b bs ih =>
    cases text with
    | nil => cases h
    | cons c text =>
      rw [after?] at h
      split at h
      · next hbc => rw [hbc, ih h, List.cons_append]
      · cases h

/-- What is found at the beginning of a text is a directive. -/
theorem exists_directive (h : directive? text = some (file, rest)) :
    ∃ word, IsWord word ∧ text = directive word ++ rest ∧ file = fileName word := by
  rw [directive?] at h
  split at h
  · cases h
  · next inner hinner =>
    dsimp only at h
    split at h
    · cases h
    · next hword =>
      obtain ⟨rest', hclosing, hpair⟩ := Option.map_eq_some_iff.mp h
      cases hpair
      have hne : inner.takeWhile isWordChar ≠ [] := by simpa using hword
      refine ⟨_, ⟨hne, fun c hc => List.mem_takeWhile_imp hc⟩, ?_, rfl⟩
      rw [eq_append_of_after? hinner, directive, List.append_assoc, List.append_assoc,
        ← eq_append_of_after? hclosing, List.takeWhile_append_dropWhile]

/-- A text that does not begin with a directive. -/
def Plain (text : List Char) : Prop := ∀ word rest, IsWord word → text ≠ directive word ++ rest

/-- No directive starts where there is plain text. -/
theorem directive?_eq_none_iff : directive? text = none ↔ Plain text := by
  constructor
  · rintro h word rest hword rfl
    rw [directive?_append hword] at h
    cases h
  · intro h
    cases hfound : directive? text with
    | none => rfl
    | some p =>
      obtain ⟨word, hword, htext, -⟩ := exists_directive hfound
      exact absurd htext (h word p.2 hword)

/-- What does not start with a number sign is plain text. -/
theorem plain_of_ne (hc : c ≠ '#') (rest : List Char) : Plain (c :: rest) :=
  fun _ _ _ htext => hc (List.cons.inj htext).1

/-- A directive is looked for at number signs only, because it starts with one. -/
theorem guarded_directive? (c : Char) (rest : List Char) :
    (if c = '#' then directive? (c :: rest) else none) = directive? (c :: rest) := by
  split
  · rfl
  · next hc => exact (directive?_eq_none_iff.mpr (plain_of_ne hc rest)).symm

/-- What a text names behind a first character that starts no directive. -/
theorem names_cons_of_plain (h : Plain (c :: rest)) :
    Names (c :: rest) file ↔ Names rest file := by
  constructor
  · rintro ⟨word, after, hword, hsuffix, rfl⟩
    obtain heq | hsuffix := List.suffix_cons_iff.mp hsuffix
    · exact absurd heq.symm (h word after hword)
    · exact ⟨word, after, hword, hsuffix, rfl⟩
  · rintro ⟨word, after, hword, hsuffix, rfl⟩
    exact ⟨word, after, hword, hsuffix.trans (List.suffix_cons c rest), rfl⟩

/-- **A first file is found** in a text that has directives, and it is one that the text names. -/
theorem firstFile?_cases (text : List Char) :
    (∃ file, firstFile? text = some file ∧ Names text file) ∨
      firstFile? text = none ∧ ∀ file, ¬ Names text file := by
  induction text with
  | nil => exact .inr ⟨rfl, not_names_nil⟩
  | cons c rest ih =>
    cases hfound : directive? (c :: rest) with
    | none =>
      simpa only [names_cons_of_plain (directive?_eq_none_iff.mp hfound), firstFile?, hfound,
        ite_self] using ih
    | some p =>
      obtain ⟨word, hword, htext, hfile⟩ := exists_directive hfound
      have hc : c = '#' := (List.cons.inj htext).1
      refine .inl ⟨p.1, ?_, word, p.2, hword, htext ▸ List.suffix_rfl, hfile.symm⟩
      rw [firstFile?, if_pos hc, hfound]

/-- A text without directives has no first file. -/
theorem firstFile?_eq_none (hnames : ∀ file, ¬ Names text file) : firstFile? text = none := by
  obtain ⟨file, -, hfile⟩ | ⟨hfirst, -⟩ := firstFile?_cases text
  · exact absurd hfile (hnames file)
  · exact hfirst

/-- A text with a directive has a first file. -/
theorem exists_firstFile?_of_names (hnames : Names text file) :
    ∃ first, firstFile? text = some first := by
  obtain ⟨first, hfirst, -⟩ | ⟨-, hnone⟩ := firstFile?_cases text
  · exact ⟨first, hfirst⟩
  · exact absurd hnames (hnone file)

/-! ## Sizes -/

/-- The size of a directive. -/
theorem byteSize_directive (word : List Char) :
    byteSize (directive word) = byteSize opening + (fileName word).utf8ByteSize + 1 := by
  have hclosing : byteSize closing = 5 := by decide
  have hending : ".txt".utf8ByteSize = 4 := by decide
  rw [directive, byteSize_append, byteSize_append, fileName, String.utf8ByteSize_append,
    ← byteSize_eq, hclosing, hending]
  omega

/-! ## Files -/

section

variable (read : String → Except ReadFailure (List Char))

/-- The text that stands for a file: nothing if there is no such file. -/
def contents (file : String) : List Char :=
  match read file with
  | .ok text => text
  | .error _ => []

/-- A file that can be read or does not exist. -/
def Available (file : String) : Prop :=
  (∃ text, read file = .ok text) ∨ read file = .error .notFound

end

variable {read : String → Except ReadFailure (List Char)} {limit : Nat} {s : Sweep}
  {inclusion : Inclusion} {known known' : List (String × Inclusion)} {e : InsertError}

/-- **What including a file comes to**: it is known already, or what it holds becomes known, or it
cannot be read. -/
theorem include?_cases (read : String → Except ReadFailure (List Char))
    (known : List (String × Inclusion)) (file : String) :
    (∃ inclusion, (file, inclusion) ∈ known ∧
      include? read known file = .ok (inclusion, known)) ∨
    (∃ inclusion, inclusion = ⟨contents read file, byteSize (contents read file)⟩ ∧
      Available read file ∧
      include? read known file = .ok (inclusion, (file, inclusion) :: known)) ∨
    ¬ Available read file ∧ ∃ failure,
      include? read known file = .error (.unreadable file failure) := by
  rw [include?]
  split
  · next name inclusion hfind =>
    have hname : name = file := by simpa using List.find?_some hfind
    exact .inl ⟨inclusion, hname ▸ List.mem_of_find?_eq_some hfind, rfl⟩
  · refine .inr ?_
    cases hread : read file with
    | ok text =>
      have hcontents : contents read file = text := by rw [contents, hread]
      exact .inl ⟨_, rfl, .inl ⟨text, hread⟩, by rw [hcontents]; rfl⟩
    | error failure =>
      cases failure with
      | notFound =>
        have hcontents : contents read file = [] := by rw [contents, hread]
        exact .inl ⟨_, rfl, .inr hread, by rw [hcontents]; rfl⟩
      | _ => exact .inr ⟨by simp [Available, hread], _, rfl⟩

/-! ## Steps of a sweep -/

/-- A character that starts no directive is taken over. -/
theorem sweep_of_plain (h : Plain (c :: rest)) (s : Sweep) (size : Nat) :
    sweep read limit s size (c :: rest) =
      sweep read limit { s with done := c :: s.done, size := s.size + c.utf8Size }
        (size - c.utf8Size) rest := by
  have hnone := directive?_eq_none_iff.mpr h
  rw [sweep]
  split
  · rfl
  · next hfound =>
    rw [guarded_directive?, hnone] at hfound
    cases hfound

/-- A directive whose file cannot be had ends the sweep. -/
theorem sweep_of_error (hword : IsWord word) (h : include? read s.known (fileName word) = .error e)
    (size : Nat) (rest : List Char) :
    sweep read limit s size (directive word ++ rest) = .error e := by
  have hdirective := directive?_append hword rest
  rw [directive, opening, List.cons_append, List.cons_append] at hdirective ⊢
  rw [sweep]
  split
  · next hfound =>
    rw [guarded_directive?, hdirective] at hfound
    cases hfound
  · next hfound =>
    rw [guarded_directive?, hdirective] at hfound
    cases hfound
    simp only [h]

/-- A directive is replaced by its file, unless this makes the text too large. -/
theorem sweep_of_include (hword : IsWord word)
    (h : include? read s.known (fileName word) = .ok (inclusion, known)) (size : Nat)
    (rest : List Char) :
    sweep read limit s size (directive word ++ rest) =
      if s.size + inclusion.size + (size - byteSize (directive word)) > limit then
        .error (.tooLarge (fileName word) limit)
      else sweep read limit ⟨known, inclusion.text.reverseAux s.done, s.size + inclusion.size⟩
        (size - byteSize (directive word)) rest := by
  have hdirective := directive?_append hword rest
  rw [byteSize_directive, Nat.sub_add_eq, Nat.sub_add_eq]
  rw [directive, opening, List.cons_append, List.cons_append] at hdirective ⊢
  rw [sweep]
  split
  · next hfound =>
    rw [guarded_directive?, hdirective] at hfound
    cases hfound
  · next hfound =>
    rw [guarded_directive?, hdirective] at hfound
    cases hfound
    simp only [h]
    rfl

/-- A sweep that has made the text `done` so far. -/
def Sweep.after (known : List (String × Inclusion)) (done : List Char) : Sweep :=
  ⟨known, done.reverse, byteSize done⟩

/-- A sweep goes on behind a plain character. -/
theorem sweep_after_of_plain (h : Plain (c :: rest)) (known : List (String × Inclusion))
    (done : List Char) :
    sweep read limit (.after known done) (byteSize (c :: rest)) (c :: rest) =
      sweep read limit (.after known (done ++ [c])) (byteSize rest) rest := by
  rw [sweep_of_plain h, byteSize_cons, Nat.add_sub_cancel_left]
  simp [Sweep.after, byteSize]

/-- **What is compared with the limit** is the size of the whole text with one more replacement. -/
theorem sweep_after_of_include {inserted : List Char} (hword : IsWord word)
    (h : include? read known (fileName word) = .ok (⟨inserted, byteSize inserted⟩, known'))
    (done rest : List Char) :
    sweep read limit (.after known done) (byteSize (directive word ++ rest))
        (directive word ++ rest) =
      if limit < byteSize (done ++ inserted ++ rest) then .error (.tooLarge (fileName word) limit)
      else sweep read limit (.after known' (done ++ inserted)) (byteSize rest) rest := by
  rw [sweep_of_include hword h, byteSize_append, Nat.add_sub_cancel_left, byteSize_append,
    byteSize_append]
  simp [Sweep.after, byteSize_append, List.reverseAux_eq]

end ScopeScript.Insert
