import ScopeScript.Proofs.Pattern.Matches
import ScopeScript.Proofs.Search.Library

/-!
# The searches of programs

The patterns of this project are a lawful search library. With any lawful library the two search
builtins agree with each other and with the text, and the searches of programs are those with the
library that the program is run with.
-/

namespace ScopeScript

open PatternMatch

/-- The matches of a pattern are handed over as ranges that ascend. -/
theorem Pattern.library_lawful : Pattern.library.Lawful := by
  intro _ p _ text
  have hfits := p.findAll_fits text
  have hranges : Pattern.library.ranges p text =
      (p.findAll text).map (ByteRange.ofMatch text) := ByteRange.ofMatches_eq hfits []
  rw [hranges]
  exact ByteRange.ascending_of_fits hfits

/-- **The two searches agree** with each other and with the text. Let the ranges that a library
finds ascend, not overlap and lie on character boundaries. Then both searches refuse the same
patterns for the same reason, and else there are pieces of the subject, one behind the other, such
that one search answers with their places and the other one with their texts, `undefined` if there
are none. Neither answer depends on what was searched before.

The patterns of this project are such a library. Whichever library of this kind a program is run
with, its searches are those in the library, and have no effect. -/
theorem searches_agree :
    (∀ L : SearchLibrary, L.Lawful → ∀ (pattern subject : Value) (rest : List Value),
      subject ≠ .undefined →
      (∃ reason, L.compile pattern.text = .error reason ∧ ∀ searches kind,
        (L.search (L.after searches) kind (pattern :: subject :: rest)).1 =
          some (.error ⟨pattern.text, reason⟩)) ∨
      ∃ compiled found, L.compile pattern.text = .ok compiled ∧
        Fits subject.text.toList 0 found ∧ ∀ searches,
          (L.search (L.after searches) .indexes (pattern :: subject :: rest)).1 =
            some (.ok (.list (found.map fun m => .number (.ofNat m.offset)))) ∧
          (L.search (L.after searches) .elements (pattern :: subject :: rest)).1 =
            some (.ok (if found.isEmpty then .undefined
              else .list (found.map fun m => .string (.ofList m.text))))) ∧
    Pattern.library.Lawful ∧
    ∀ [SearchContext], searchLibrary.Lawful → ∀ searches kind args, ∃ result,
      (searchLibrary.search (searchLibrary.after searches) kind args).1 = some result ∧
      callNative args kind.native = Eval.lift (result.mapError fun refusal =>
        .invalidPattern refusal.pattern (searchLibrary.describe refusal.reason)) := by
  refine ⟨fun L hL pattern subject rest hsubject => ?_, Pattern.library_lawful,
    exists_search_eq_callNative⟩
  have hargs := searchArguments?_of_ne hsubject pattern rest
  have hkept := fun searches => L.remembers_after searches
  cases hcompile : L.compile pattern.text with
  | error reason =>
    exact .inl ⟨reason, rfl, fun searches => (hkept searches).search_of_error hargs hcompile⟩
  | ok compiled =>
    exact .inr ⟨compiled, _, rfl, (hL.findAll hcompile subject.text).1, fun searches =>
      ⟨hL.search (hkept searches) hargs hcompile .indexes,
        hL.search (hkept searches) hargs hcompile .elements⟩⟩

/-- Two pieces of a character of two bytes fit in one way behind one of one byte. -/
theorem places_of_fits_twoByteChar {i j : Nat}
    (h : Fits "aéé".toList 0 [⟨i, ['é']⟩, ⟨j, ['é']⟩]) : i = 1 ∧ j = 2 := by
  obtain ⟨-, hfirst, hij, hsecond, -⟩ := h
  have hi : i ≠ 0 := by
    rintro rfl
    exact absurd hfirst.piece (by decide)
  have hij : i + 1 ≤ j := hij
  have hj : j + 1 ≤ 3 := hsecond.within
  omega

/-- Two matches of a character of two bytes behind one of one byte. -/
theorem searches_agree_twoByteChar :
    Pattern.library.Lawful ∧ Value.string "aéé" ≠ .undefined ∧
      ∃ compiled found, Pattern.library.compile "é" = .ok compiled ∧
        found = [⟨1, ['é']⟩, ⟨2, ['é']⟩] ∧ Fits "aéé".toList 0 found ∧ ∀ searches,
          (Pattern.library.search (Pattern.library.after searches) .indexes
            [.string "é", .string "aéé"]).1 =
            some (.ok (.list (found.map fun m => .number (.ofNat m.offset)))) ∧
          (Pattern.library.search (Pattern.library.after searches) .elements
            [.string "é", .string "aéé"]).1 =
            some (.ok (if found.isEmpty then .undefined
              else .list (found.map fun m => .string (.ofList m.text)))) := by
  have hcompiles : (Pattern.library.compile "é").isOk = true := by decide +kernel
  have htexts : (Pattern.library.search (Pattern.library.after []) .elements
      [.string "é", .string "aéé"]).1 = some (.ok (.list [.string "é", .string "é"])) := by
    with_unfolding_all rfl
  obtain ⟨reason, hrefused, -⟩ | ⟨compiled, found, hcompile, hfits, hsearch⟩ :=
    searches_agree.1 Pattern.library Pattern.library_lawful (.string "é") (.string "aéé") [] nofun
  · change Pattern.library.compile "é" = _ at hrefused
    simp [hrefused, Except.isOk, Except.toBool] at hcompiles
  · refine ⟨Pattern.library_lawful, nofun, compiled, found, hcompile, ?_, hfits, hsearch⟩
    -- The texts are those of the answer, and there is one way only to fit them into the subject.
    have hfound := (hsearch []).2.symm.trans htexts
    obtain _ | ⟨⟨i, _⟩, _ | ⟨⟨j, _⟩, _ | ⟨_, _⟩⟩⟩ := found
    · cases hfound
    · simp at hfound
    · obtain ⟨rfl, rfl⟩ : _ = ['é'] ∧ _ = ['é'] := by simpa [← String.toList_inj] using hfound
      obtain ⟨rfl, rfl⟩ := places_of_fits_twoByteChar hfits
      rfl
    · simp at hfound

end ScopeScript
