import ScopeScript.Proofs.Insert.Expansion

/-!
# The passes of an expansion

One pass replaces the directives of a text from left to right, and passes follow one another until
no directive is left. Which texts arise on the way, one with each replacement, is settled by the
source and the files: limits only say how many passes there may be and how large these texts may
become. An expansion succeeds exactly if the passes come to an end within the limits, and it
returns what they end with.

Nothing is asked of the texts here. A number sign may stand for itself, and a directive may arise
where an inserted text meets its surroundings; it is found in the next pass.
-/

namespace ScopeScript

namespace Insert

variable (read : String → Except ReadFailure (List Char))

/-- One pass over `rest` behind the new text `done`, with the whole text after each replacement and
the text at the end. -/
inductive Pass : (done rest : List Char) → (texts : List (List Char)) → (result : List Char) → Prop
  | nil {done} : Pass done [] [] done
  | char {done c rest texts result} : Plain (c :: rest) →
      Pass (done ++ [c]) rest texts result → Pass done (c :: rest) texts result
  | insert {done word rest texts result} : IsWord word → Available read (fileName word) →
      Pass (done ++ contents read (fileName word)) rest texts result →
      Pass done (directive word ++ rest) ((done ++ contents read (fileName word) ++ rest) :: texts)
        result

/-- So many passes until no directive is left, with the whole text after each replacement and the
text at the end. -/
inductive Passes : (passes : Nat) → (source : List Char) → (texts : List (List Char)) →
    (result : List Char) → Prop
  | nil {text} : (∀ file, ¬ Names text file) → Passes 0 text [] text
  | cons {passes text file texts next texts' result} : Names text file →
      Pass read [] text texts next → Passes passes next texts' result →
      Passes (passes + 1) text (texts ++ texts') result

/-- All known files are available and known with what they hold. -/
def Knows (known : List (String × Inclusion)) : Prop :=
  ∀ p ∈ known, Available read p.1 ∧
    p.2 = ⟨contents read p.1, byteSize (contents read p.1)⟩

variable {read} {limit total passes passes' : Nat} {known : List (String × Inclusion)}
  {file : String} {c : Char} {word done rest text result result' : List Char}
  {texts texts' : List (List Char)}

/-! ## The texts on the way -/

/-- A pass goes on behind a plain character. -/
theorem Pass.of_plain (hplain : Plain (c :: rest)) (h : Pass read done (c :: rest) texts result) :
    Pass read (done ++ [c]) rest texts result := by
  generalize hwhole : c :: rest = whole at h
  cases h with
  | nil => cases hwhole
  | char _ h =>
    obtain ⟨rfl, rfl⟩ := List.cons.inj hwhole
    exact h
  | insert hword _ _ => exact absurd hwhole (hplain _ _ hword)

/-- A pass goes on behind a directive, and the whole text after the replacement is known. -/
theorem Pass.of_directive (hword : IsWord word)
    (h : Pass read done (directive word ++ rest) texts result) :
    ∃ texts', texts = (done ++ contents read (fileName word) ++ rest) :: texts' ∧
      Pass read (done ++ contents read (fileName word)) rest texts' result := by
  generalize hwhole : directive word ++ rest = whole at h
  cases h with
  | nil => cases hwhole
  | char hplain _ => exact absurd hwhole.symm (hplain _ _ hword)
  | insert hword' _ h =>
    obtain ⟨hfile, rfl⟩ := directive_append_inj hword hword' hwhole
    rw [hfile]
    exact ⟨_, rfl, h⟩

/-- There is one pass over a text at most. -/
theorem Pass.unique (h : Pass read done rest texts result)
    (h' : Pass read done rest texts' result') : texts = texts' ∧ result = result' := by
  induction h generalizing texts' with
  | nil =>
    generalize hwhole : [] = whole at h'
    cases h' with
    | nil => exact ⟨rfl, rfl⟩
    | char => cases hwhole
    | insert => cases hwhole
  | char hplain _ ih => exact ih (h'.of_plain hplain)
  | insert hword _ _ ih =>
    obtain ⟨after, rfl, hafter⟩ := h'.of_directive hword
    obtain ⟨rfl, rfl⟩ := ih hafter
    exact ⟨rfl, rfl⟩

/-- **The passes are settled** by the source and the files. -/
theorem Passes.unique (h : Passes read passes text texts result)
    (h' : Passes read passes' text texts' result') : texts = texts' ∧ result = result' := by
  induction h generalizing passes' texts' with
  | nil hnames =>
    cases h' with
    | nil => exact ⟨rfl, rfl⟩
    | cons hnames' => exact absurd hnames' (hnames _)
  | cons hnames hpass _ ih =>
    cases h' with
    | nil hnames' => exact absurd hnames (hnames' _)
    | cons _ hpass' hpasses' =>
      obtain ⟨rfl, rfl⟩ := hpass.unique hpass'
      obtain ⟨rfl, rfl⟩ := ih hpasses'
      exact ⟨rfl, rfl⟩

/-- A pass ends with the last text on its way, the one that it started with if there is none. -/
theorem Pass.getLast? (h : Pass read done rest texts result) :
    ((done ++ rest) :: texts).getLast? = some result := by
  induction h with
  | nil => simp
  | char _ _ ih => simpa using ih
  | insert _ _ _ ih => simpa [List.getLast?_cons_cons] using ih

/-- The last text of the passes is their result. -/
theorem Passes.getLast? (h : Passes read passes text texts result) :
    (text :: texts).getLast? = some result := by
  induction h with
  | nil => rfl
  | cons _ hpass _ ih =>
    have hnext := hpass.getLast?
    rw [List.nil_append] at hnext
    rw [← ih, ← List.cons_append, List.getLast?_append, hnext, List.getLast?_cons, Option.or_some]

/-- After the last pass there is no directive. -/
theorem Passes.not_names (h : Passes read passes text texts result) (file : String) :
    ¬ Names result file := by
  induction h with
  | nil hnames => exact hnames file
  | cons _ _ _ ih => exact ih

/-- Passes that replace anything end with the last text on their way. -/
theorem Passes.mem_of_names (h : Passes read passes text texts result)
    (hnames : Names text file) : result ∈ texts := by
  obtain rfl | hmem := List.mem_cons.mp (List.mem_of_getLast? h.getLast?)
  · exact absurd hnames (h.not_names file)
  · exact hmem

/-- A file is included with what it holds, if it is available. -/
theorem include?_of_knows (hknown : Knows read known) (file : String) :
    (Available read file ∧ ∃ known', Knows read known' ∧ include? read known file =
      .ok (⟨contents read file, byteSize (contents read file)⟩, known')) ∨
    ¬ Available read file ∧ ∃ failure, include? read known file =
      .error (.unreadable file failure) := by
  obtain ⟨inclusion, hmem, hinclude⟩ | ⟨inclusion, rfl, havailable, hinclude⟩ | hnot :=
    include?_cases read known file
  · obtain ⟨havailable, hinclusion⟩ := hknown _ hmem
    dsimp only at hinclusion
    exact .inl ⟨havailable, known, hknown, hinclusion ▸ hinclude⟩
  · exact .inl ⟨havailable, _, List.forall_mem_cons.mpr ⟨⟨havailable, rfl⟩, hknown⟩, hinclude⟩
  · exact .inr hnot

/-! ## Sweeps make passes -/

/-- A sweep that ends has made a pass within the limit. -/
theorem exists_pass_of_sweep {s : Sweep} (hknown : Knows read known)
    (h : sweep read limit (.after known done) (byteSize rest) rest = .ok s) :
    ∃ known' texts result, s = .after known' result ∧ Knows read known' ∧
      Pass read done rest texts result ∧ ∀ t ∈ texts, byteSize t ≤ limit := by
  induction hn : rest.length using Nat.strongRecOn generalizing known done rest with
  | _ n ih =>
    cases rest with
    | nil =>
      rw [sweep] at h
      cases h
      exact ⟨known, [], done, rfl, hknown, .nil, by simp⟩
    | cons c rest =>
      by_cases hplain : Plain (c :: rest)
      · rw [sweep_after_of_plain hplain] at h
        obtain ⟨known', texts, result, hs, hknown', hpass, hsize⟩ :=
          ih rest.length (by simp [← hn]) hknown h rfl
        exact ⟨known', texts, result, hs, hknown', .char hplain hpass, hsize⟩
      · obtain ⟨word, after, hword, htext⟩ : ∃ word after, IsWord word ∧
            c :: rest = directive word ++ after := by simpa [Plain] using hplain
        rw [htext] at h hn ⊢
        obtain ⟨havailable, known', hknown', hinclude⟩ | ⟨-, failure, hinclude⟩ :=
          include?_of_knows hknown (fileName word)
        · rw [sweep_after_of_include hword hinclude] at h
          split at h
          · cases h
          · next hle =>
            have hshorter : after.length < n := by
              rw [← hn, List.length_append]
              exact Nat.lt_add_of_pos_left (by simp [directive, opening])
            obtain ⟨known'', texts, result, hs, hknown'', hpass, hsize⟩ :=
              ih after.length hshorter hknown' h rfl
            exact ⟨known'', _, result, hs, hknown'', .insert hword havailable hpass,
              List.forall_mem_cons.mpr ⟨Nat.not_lt.mp hle, hsize⟩⟩
        · rw [sweep_of_error hword hinclude] at h
          cases h

/-- A pass within the limit is made by a sweep. -/
theorem Pass.sweep_eq (h : Pass read done rest texts result) (hknown : Knows read known)
    (hsize : ∀ t ∈ texts, byteSize t ≤ limit) :
    ∃ known', Knows read known' ∧
      sweep read limit (.after known done) (byteSize rest) rest = .ok (.after known' result) := by
  induction h generalizing known with
  | nil => exact ⟨known, hknown, by rw [sweep]⟩
  | char hplain _ ih =>
    obtain ⟨known', hknown', hsweep⟩ := ih hknown hsize
    exact ⟨known', hknown', by rw [sweep_after_of_plain hplain, hsweep]⟩
  | @insert _ word _ _ _ hword havailable _ ih =>
    obtain ⟨hle, hsize⟩ := List.forall_mem_cons.mp hsize
    obtain ⟨-, known', hknown', hinclude⟩ | ⟨hnot, -⟩ := include?_of_knows hknown (fileName word)
    · obtain ⟨known'', hknown'', hsweep⟩ := ih hknown' hsize
      refine ⟨known'', hknown'', ?_⟩
      rw [sweep_after_of_include hword hinclude, if_neg (Nat.not_lt.mpr hle), hsweep]
    · exact absurd havailable hnot

/-! ## Expansions make passes until there is nothing to replace -/

/-- A directive for which no pass is left. -/
theorem expandWithin_zero (hfirst : firstFile? text = some file)
    (known : List (String × Inclusion)) (size : Nat) :
    expandWithin read limit total 0 known size text = .error (.limitExceeded file total) := by
  simp [expandWithin, hfirst]

/-- An expansion that succeeds has made passes within the limits. -/
theorem exists_passes_of_expandWithin (hknown : Knows read known)
    (h : expandWithin read limit total passes known (byteSize text) text = .ok result) :
    ∃ n texts, n ≤ passes ∧ (∀ t ∈ texts, byteSize t ≤ limit) ∧
      Passes read n text texts result := by
  induction passes generalizing known text with
  | zero =>
    obtain ⟨file, hfirst, -⟩ | ⟨hfirst, hnames⟩ := firstFile?_cases text
    · simp [expandWithin_zero hfirst] at h
    · rw [expandWithin_of_none hfirst] at h
      cases h
      exact ⟨0, [], Nat.le_refl 0, by simp, .nil hnames⟩
  | succ passes ih =>
    obtain ⟨file, hfirst, hfile⟩ | ⟨hfirst, hnames⟩ := firstFile?_cases text
    · cases hsweep : sweep read limit ⟨known, [], 0⟩ (byteSize text) text with
      | error e => simp [expandWithin_of_error hfirst hsweep] at h
      | ok s =>
        have hafter : sweep read limit (.after known []) (byteSize text) text = .ok s := hsweep
        obtain ⟨known', texts, next, rfl, hknown', hpass, hsize⟩ :=
          exists_pass_of_sweep hknown hafter
        rw [expandWithin_of_ok hfirst hsweep, Sweep.after, List.reverse_reverse] at h
        obtain ⟨n, texts', hle, hsize', hpasses⟩ := ih hknown' h
        exact ⟨n + 1, _, Nat.succ_le_succ hle, List.forall_mem_append.mpr ⟨hsize, hsize'⟩,
          .cons hfile hpass hpasses⟩
    · rw [expandWithin_of_none hfirst] at h
      cases h
      exact ⟨0, [], Nat.zero_le _, by simp, .nil hnames⟩

/-- Passes within the limits are made by an expansion. -/
theorem Passes.expandWithin_eq {n : Nat} (h : Passes read n text texts result)
    (hknown : Knows read known) (hsize : ∀ t ∈ texts, byteSize t ≤ limit) (hle : n ≤ passes) :
    expandWithin read limit total passes known (byteSize text) text = .ok result := by
  induction h generalizing known passes with
  | nil hnames => exact expandWithin_of_none (firstFile?_eq_none hnames) _ _ _ _
  | @cons n text file texts next texts' result hnames hpass _ ih =>
    obtain ⟨first, hfirst⟩ := exists_firstFile?_of_names hnames
    obtain ⟨hsize, hsize'⟩ := List.forall_mem_append.mp hsize
    obtain ⟨known', hknown', hsweep⟩ := hpass.sweep_eq hknown hsize
    obtain ⟨passes, rfl⟩ := Nat.exists_eq_add_of_lt hle
    have hstep := expandWithin_of_ok hfirst hsweep total (n + passes)
    rw [Sweep.after, List.reverse_reverse] at hstep
    rw [hstep]
    exact ih hknown' hsize' (Nat.le_add_right n passes)

/-- Any other failure than that passes run out is the same with more passes. -/
theorem expandWithin_error_of_le {size total' : Nat} {e : InsertError}
    (he : ∀ file n, e ≠ .limitExceeded file n)
    (h : expandWithin read limit total passes known size text = .error e) (hle : passes ≤ passes') :
    expandWithin read limit total' passes' known size text = .error e := by
  induction passes generalizing passes' known size text with
  | zero =>
    cases hfirst : firstFile? text with
    | none => simp [expandWithin_of_none hfirst] at h
    | some file =>
      rw [expandWithin_zero hfirst] at h
      exact absurd (Except.error.inj h).symm (he file total)
  | succ passes ih =>
    obtain ⟨more, rfl⟩ := Nat.exists_eq_add_of_lt hle
    cases hfirst : firstFile? text with
    | none => simp [expandWithin_of_none hfirst] at h
    | some file =>
      cases hsweep : sweep read limit ⟨known, [], 0⟩ size text with
      | error e' =>
        rw [expandWithin_of_error hfirst hsweep] at h ⊢
        exact h
      | ok s =>
        rw [expandWithin_of_ok hfirst hsweep] at h ⊢
        exact ih h (Nat.le_add_right _ _)

end Insert

open ScopeScript.Insert

/-- **An expansion succeeds exactly if the passes end within the limits**: if there are no more of
them than allowed and no text on their way is larger than allowed. -/
theorem expandInserts_eq_ok_iff {read : String → Except ReadFailure (List Char)}
    {limits : InsertLimits} {source result : List Char} :
    expandInserts read limits source = .ok result ↔
      ∃ passes texts, passes ≤ limits.passes ∧ (∀ t ∈ texts, byteSize t ≤ limits.size) ∧
        Passes read passes source texts result := by
  have hknown : Knows read [] := by simp [Knows]
  constructor
  · exact exists_passes_of_expandWithin hknown
  · rintro ⟨passes, texts, hle, hsize, hpasses⟩
    exact hpasses.expandWithin_eq hknown hsize hle

end ScopeScript
