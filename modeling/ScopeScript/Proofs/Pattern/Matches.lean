import ScopeScript.Proofs.Search.Ranges

/-!
# Where matches lie

A thread keeps the position at which its match started, which is never behind the position that the
search has reached, and a match ends where the search stands when a thread accepts. So the match
that a search finds lies in the text that is searched. Each search starts where the last match
ended, so the matches of a pattern are pieces of the text that lie one behind the other.

Nothing is said about which pieces these are.
-/

namespace ScopeScript

namespace PatternProgram

open PatternMatch

/-! ## One search -/

/-- All threads, and the match that ends here if there is one, started at a position or before. -/
structure Frontier.StartedBy (f : Frontier) (position : Nat) : Prop where
  threads : ∀ t ∈ f.threads, t.start ≤ position
  accepted : ∀ start ∈ f.accepted, start ≤ position

variable {code : Array Instruction} {before after : Option Char} {position start : Nat}

/-- Following instructions that read nothing starts no thread later. -/
theorem follow_startedBy (hstart : start ≤ position) (fuel : Nat) (stack : List Nat) {f : Frontier}
    (hf : f.StartedBy position) :
    (follow code before after position start fuel stack f).StartedBy position := by
  fun_induction follow code before after position start fuel stack f with
  | case1 | case2 => exact hf
  | case3 _ _ _ _ _ ih => exact ih hf
  | case4 _ _ _ _ _ _ _ _ _ ih =>
    refine ih ⟨fun t ht => ?_, hf.accepted⟩
    obtain ht | rfl := Array.mem_push.mp ht
    · exact hf.threads t ht
    · exact hstart
  | case5 _ _ _ _ _ _ _ _ _ _ ih | case6 _ _ _ _ _ _ _ _ _ _ ih | case7 _ _ _ _ _ _ _ _ _ ih
  | case9 _ _ _ _ _ _ _ ih => exact ih ⟨hf.threads, hf.accepted⟩
  | case8 =>
    refine ⟨hf.threads, fun s hs => ?_⟩
    obtain rfl := Option.some.inj hs
    exact hstart

/-- Reading a character starts no thread later. -/
theorem advance_startedBy {c : Char} {threads : Array Thread}
    (hthreads : ∀ t ∈ threads, t.start ≤ position) (count i : Nat) {f : Frontier}
    (hf : f.StartedBy position) :
    (advance code c after position threads count i f).StartedBy position := by
  induction count generalizing i f with
  | zero => exact hf
  | succ count ih =>
    rw [advance]
    split
    · exact hf
    · split
      · exact hf
      · next t ht =>
        split
        · split
          · exact ih _ (follow_startedBy (hthreads t (Array.mem_of_getElem? ht)) _ _ hf)
          · exact ih _ hf
        · exact ih _ hf

/-- Where a thread starts anew, or none does. -/
theorem Frontier.StartedBy.begin {f : Frontier} (hf : f.StartedBy position)
    (code : Array Instruction) (before after : Option Char) (b : Prop) [Decidable b]
    (entry : Nat) :
    (if b then follow code before after position position (followFuel code) [entry] f
      else f).StartedBy position := by
  split
  · exact follow_startedBy (le_rfl) _ _ hf
  · exact hf

/-- The best match so far lies before the position that the search has reached. -/
theorem best_within {f : Frontier} (hf : f.StartedBy position) {found : Option (Nat × Nat)}
    (hfound : ∀ r ∈ found, r.1 ≤ r.2 ∧ r.2 ≤ position) :
    ∀ r ∈ (match f.accepted with
      | some start => some (start, position)
      | none => found), r.1 ≤ r.2 ∧ r.2 ≤ position := by
  intro r hr
  split at hr
  · next s hs =>
    obtain rfl := Option.some.inj hr
    exact ⟨hf.accepted s hs, le_rfl⟩
  · exact hfound r hr

/-- **A match that is found** lies between the start of the search and the end of the text. -/
theorem run_within (p : PatternProgram) {found : Option (Nat × Nat)} {before : Option Char}
    {position : Nat} {f : Frontier} {text : List Char} (hf : f.StartedBy position)
    (hfound : ∀ r ∈ found, r.1 ≤ r.2 ∧ r.2 ≤ position) :
    ∀ r ∈ run p found before position f text, r.1 ≤ r.2 ∧ r.2 ≤ position + text.length := by
  induction text generalizing found before position f with
  | nil =>
    rw [run]
    exact best_within (hf.begin _ _ _ _ _) hfound
  | cons c rest ih =>
    intro r hr
    have hbegun := hf.begin p.code before (some c)
      ((found.isNone && f.accepted.isNone) = true) p.entry
    rw [run, List.head?_cons] at hr
    generalize (if (found.isNone && f.accepted.isNone) = true then
      follow p.code before (some c) position position (followFuel p.code) [p.entry] f
      else f) = f' at hr hbegun
    have hmoved : Frontier.StartedBy (advance p.code c rest.head? (position + 1) f'.threads
        f'.threads.size 0 ⟨Array.mkEmpty f'.threads.size, f'.reached, none⟩) (position + 1) :=
      advance_startedBy (fun t ht => (hbegun.threads t ht).trans (Nat.le_succ _)) _ _
        ⟨by simp, by simp⟩
    have hgo : ∀ best : Option (Nat × Nat), (∀ r ∈ best, r.1 ≤ r.2 ∧ r.2 ≤ position) →
        ∀ r ∈ (if (f'.threads.isEmpty && best.isSome) = true then best
          else run p best (some c) (position + 1) (advance p.code c rest.head? (position + 1)
            f'.threads f'.threads.size 0 ⟨Array.mkEmpty f'.threads.size, f'.reached, none⟩) rest),
          r.1 ≤ r.2 ∧ r.2 ≤ position + (c :: rest).length := by
      intro best hbest r hr
      split at hr
      · obtain ⟨hle, hstop⟩ := hbest r hr
        exact ⟨hle, hstop.trans (Nat.le_add_right _ _)⟩
      · obtain ⟨hle, hstop⟩ := ih hmoved
          (fun r hr => ⟨(hbest r hr).1, (hbest r hr).2.trans (Nat.le_succ _)⟩) r hr
        refine ⟨hle, hstop.trans (Nat.le_of_eq ?_)⟩
        rw [List.length_cons, Nat.add_assoc, Nat.add_comm 1]
    exact hgo _ (best_within hbegun hfound) r hr

/-- What a search finds: the characters before the match and those of the match are in the text. -/
theorem find?_within {p : PatternProgram} {before : Option Char} {text : List Char}
    {skip length : Nat} (h : p.find? before text = some (skip, length)) :
    skip + length ≤ text.length := by
  obtain ⟨⟨start, stop⟩, hrun, heq⟩ := Option.map_eq_some_iff.mp h
  have hempty : Frontier.StartedBy ⟨#[], Array.replicate p.code.size 0, none⟩ 0 :=
    ⟨by simp, by simp⟩
  obtain ⟨hle, hstop⟩ := run_within p hempty (by simp) (start, stop) hrun
  cases heq
  omega

/-! ## All matches -/

/-- The matches listed from a place on are those found before and those that follow. -/
theorem findFrom_eq_append (p : PatternProgram) (fuel : Nat) (touching : Bool)
    (before : Option Char) (offset : Nat) (text : List Char) (found : List PatternMatch) :
    findFrom p fuel touching before offset text found =
      found.reverse ++ findFrom p fuel touching before offset text [] := by
  induction fuel generalizing touching before offset text found with
  | zero => simp [findFrom]
  | succ fuel ih =>
    rw [findFrom.eq_def, findFrom.eq_def]
    dsimp only
    split
    · simp
    · split
      · split
        · simp
        · exact ih _ _ _ _ _
      · rw [ih, ih _ _ _ _ [_]]
        simp

/-- **Matches are pieces of the text**, one behind the other. -/
theorem findFrom_fits (p : PatternProgram) (whole : List Char) (fuel : Nat) (touching : Bool)
    (before : Option Char) {offset : Nat} (hoffset : offset ≤ whole.length) :
    Fits whole offset (findFrom p fuel touching before offset (whole.drop offset) []) := by
  induction fuel generalizing touching before offset with
  | zero => trivial
  | succ fuel ih =>
    rw [findFrom.eq_def]
    dsimp only
    split
    · trivial
    · next skip length hfind =>
      have hwithin := find?_within hfind
      rw [List.length_drop] at hwithin
      split
      · split
        · trivial
        · next c rest hdrop =>
          have hlength := congrArg List.length hdrop
          rw [List.length_drop, List.length_cons] at hlength
          have hrest : rest = whole.drop (offset + 1) := by
            rw [← List.tail_drop, hdrop, List.tail_cons]
          rw [hrest]
          exact (ih _ _ (by omega)).of_le (Nat.le_succ _)
      · have hnext : offset + skip + length ≤ whole.length := by omega
        have hlength : (((whole.drop offset).drop skip).take length).length = length := by
          simp only [List.length_take, List.length_drop]
          omega
        rw [findFrom_eq_append, List.reverse_singleton, List.singleton_append]
        simp only [Fits, hlength]
        refine ⟨Nat.le_add_right _ _, ⟨?_, ?_⟩, ?_⟩
        · rw [hlength]
          exact hnext
        · rw [hlength, List.drop_drop]
        · rw [List.drop_drop, ← Nat.add_assoc]
          exact ih _ _ hnext

/-- All matches of a program fit into the text one behind the other. -/
theorem findAll_fits (p : PatternProgram) (text : List Char) : Fits text 0 (p.findAll text) :=
  findFrom_fits p text _ false none (Nat.zero_le _)

end PatternProgram

end ScopeScript
