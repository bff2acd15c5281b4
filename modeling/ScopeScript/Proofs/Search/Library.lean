import ScopeScript.Proofs.Eval.Search
import ScopeScript.Proofs.Search.Ranges

/-!
# Searches by byte ranges

A search library compiles patterns and lists the matches of a compiled pattern as ranges of bytes.
The search builtins keep compiled patterns by their texts. One of them counts the characters before
each range, the other one takes the text that each range covers. Of the library it is only known
that its ranges ascend, do not overlap and start and end between characters. Such ranges are those
of pieces of the text that lie one behind the other, and both builtins answer with these pieces,
whatever was searched before.

The builtins that programs call read the text once for all ranges. They are these searches, with
whatever library a program is run.
-/

namespace ScopeScript

open PatternMatch

variable {text : List Char} {i : Nat}

/-! ## Searches with a memory -/

/-- What a search answers with, unless a range cuts a character. -/
def SearchKind.answer? (text : List Char) (ranges : List ByteRange) : SearchKind → Option Value
  | indexes => do
    let offsets ← ranges.mapM (·.offset? text)
    return .list (offsets.map fun n => .number (.ofNat n))
  | elements => do
    match ← ranges.mapM (·.slice? text) with
    | [] => return .undefined
    | found => return .list (found.map fun s => .string (.ofList s))

namespace SearchLibrary

variable (L : SearchLibrary)

/-- Search, with the compiled patterns kept before and after. There is no outcome if a range cuts a
character. -/
def search (memory : L.Memory) (kind : SearchKind) (args : List Value) :
    Option (Except (PatternRefusal L) Value) × L.Memory :=
  match searchArguments? args with
  | none => (some (.ok .undefined), memory)
  | some (source, subject) =>
    match L.pattern memory source with
    | (.ok compiled, memory) =>
      ((kind.answer? subject.toList (L.ranges compiled subject.toList)).map .ok, memory)
    | (.error refusal, memory) => (some (.error refusal), memory)

/-- What is kept after searches one after the other. -/
def after (searches : List (SearchKind × List Value)) : L.Memory :=
  searches.foldl (fun memory s => (L.search memory s.1 s.2).2) []

/-- The ranges that are found ascend, do not overlap, and lie on character boundaries. -/
def Lawful : Prop :=
  ∀ source compiled, L.compile source = .ok compiled →
    ∀ text, ByteRange.Ascending text 0 (L.ranges compiled text)

variable {L} {memory : L.Memory}

/-- A search keeps only what is the compilation of its text. -/
theorem Remembers.search (h : L.Remembers memory) (kind : SearchKind) (args : List Value) :
    L.Remembers (L.search memory kind args).2 := by
  rw [SearchLibrary.search]
  split
  · exact h
  · next source subject _ =>
    have hkept := (h.pattern source).2
    split <;> next heq => exact congrArg Prod.snd heq ▸ hkept

/-- Whatever was searched, what is kept is the compilation of its text. -/
theorem remembers_after (searches : List (SearchKind × List Value)) :
    L.Remembers (L.after searches) := by
  suffices h : ∀ memory, L.Remembers memory → L.Remembers
      (searches.foldl (fun memory s => (L.search memory s.1 s.2).2) memory) from
    h [] fun _ _ hlookup => by cases hlookup
  induction searches with
  | nil => exact fun _ h => h
  | cons s rest ih => exact fun memory h => ih _ (h.search s.1 s.2)

variable {args : List Value} {source subject : String}

/-- A search compiles its pattern and answers with the ranges, whatever is kept. -/
theorem Remembers.search_eq (h : L.Remembers memory)
    (hargs : searchArguments? args = some (source, subject)) (kind : SearchKind) :
    (L.search memory kind args).1 =
      match L.compile source with
      | .ok compiled => (kind.answer? subject.toList (L.ranges compiled subject.toList)).map .ok
      | .error reason => some (.error ⟨source, reason⟩) := by
  obtain ⟨hpattern, -⟩ := h.pattern source
  rw [SearchLibrary.search, hargs]
  dsimp only
  generalize L.pattern memory source = result at hpattern
  obtain ⟨outcome, memory'⟩ := result
  obtain rfl : outcome = _ := hpattern
  cases L.compile source <;> rfl

/-- The search for what is no pattern. -/
theorem Remembers.search_of_error (h : L.Remembers memory)
    (hargs : searchArguments? args = some (source, subject)) {reason : L.Reason}
    (hcompile : L.compile source = .error reason) (kind : SearchKind) :
    (L.search memory kind args).1 = some (.error ⟨source, reason⟩) := by
  rw [h.search_eq hargs, hcompile]

/-- **The ranges of a lawful library** are those of pieces of the text, one behind the other, and
these are the matches that programs find. -/
theorem Lawful.findAll (hL : L.Lawful) {compiled : L.Compiled}
    (hcompile : L.compile source = .ok compiled) (subject : String) :
    Fits subject.toList 0 (L.findAll compiled subject) ∧
      L.ranges compiled subject.toList =
        (L.findAll compiled subject).map (ByteRange.ofMatch subject.toList) := by
  obtain ⟨found, hfits, hranges⟩ := ByteRange.exists_fits_of_ascending (Nat.zero_le _)
    (hL _ _ hcompile subject.toList)
  have hfound : L.findAll compiled subject = found := by
    rw [SearchLibrary.findAll, hranges]
    exact ByteRange.pieces_ofMatch hfits []
  rw [hfound]
  exact ⟨hfits, hranges⟩

end SearchLibrary

/-! ## The searches agree -/

/-- What is read of each range, if it is read of the ranges of matches. -/
theorem mapM_ofMatch {β : Type} {read? : ByteRange → Option β} {value : PatternMatch → β}
    {found : List PatternMatch} (h : ∀ m ∈ found, read? (.ofMatch text m) = some (value m)) :
    (found.map (ByteRange.ofMatch text)).mapM read? = some (found.map value) := by
  induction found with
  | nil => rfl
  | cons m rest ih =>
    obtain ⟨hm, hrest⟩ := List.forall_mem_cons.mp h
    simp [hm, ih hrest]

/-- **The ranges of matches** are read as the matches. -/
theorem SearchKind.answer?_ofMatch {found : List PatternMatch} (h : Fits text i found)
    (kind : SearchKind) :
    kind.answer? text (found.map (.ofMatch text)) = some (kind.answer found) := by
  cases kind with
  | indexes =>
    rw [answer?, mapM_ofMatch fun m hm => ByteRange.offset?_ofMatch (h.occursIn m hm)]
    simp [answer]
  | elements =>
    rw [answer?, mapM_ofMatch fun m hm => ByteRange.slice?_ofMatch (h.occursIn m hm)]
    cases found <;> simp [answer]

/-- The builtin that a program calls to search. -/
def SearchKind.native : SearchKind → Native
  | indexes => .searchIndexes
  | elements => .searchElements

/-- A subject that is there is searched as its text. -/
theorem searchArguments?_of_ne {subject : Value} (h : subject ≠ .undefined) (pattern : Value)
    (rest : List Value) :
    searchArguments? (pattern :: subject :: rest) = some (pattern.text, subject.text) := by
  cases subject with
  | undefined => exact absurd rfl h
  | number | boolean | string | list | function => rfl

namespace SearchLibrary

variable {L : SearchLibrary} {memory : L.Memory} {args : List Value} {source subject : String}

/-- A search with a lawful library answers with the matches, whatever is kept. -/
theorem Lawful.search (hL : L.Lawful) (h : L.Remembers memory)
    (hargs : searchArguments? args = some (source, subject)) {compiled : L.Compiled}
    (hcompile : L.compile source = .ok compiled) (kind : SearchKind) :
    (L.search memory kind args).1 = some (.ok (kind.answer (L.findAll compiled subject))) := by
  obtain ⟨hfits, hranges⟩ := hL.findAll hcompile subject
  rw [h.search_eq hargs, hcompile]
  dsimp only
  rw [hranges, kind.answer?_ofMatch hfits, Option.map_some]

end SearchLibrary

/-- A search of a program is the search with the library that it is run with, whatever is kept. -/
theorem exists_search_eq_callNative [SearchContext] (hL : searchLibrary.Lawful)
    (searches : List (SearchKind × List Value)) (kind : SearchKind) (args : List Value) :
    ∃ result, (searchLibrary.search (searchLibrary.after searches) kind args).1 = some result ∧
      callNative args kind.native = Eval.lift (result.mapError fun refusal =>
        .invalidPattern refusal.pattern (searchLibrary.describe refusal.reason)) := by
  have hkept := SearchLibrary.remembers_after searches (L := searchLibrary)
  have hnative : callNative args kind.native = Eval.lift (searchResult args kind) := by
    rw [← search_eq_lift]
    cases kind <;> rfl
  rw [hnative, searchResult]
  cases hargs : searchArguments? args with
  | none => exact ⟨.ok .undefined, by rw [SearchLibrary.search, hargs], rfl⟩
  | some p =>
    obtain ⟨source, subject⟩ := p
    dsimp only
    rw [compiledPattern]
    cases hcompile : searchLibrary.compile source with
    | error reason => exact ⟨_, hkept.search_of_error hargs hcompile kind, rfl⟩
    | ok compiled => exact ⟨_, hL.search hkept hargs hcompile kind, rfl⟩

end ScopeScript
