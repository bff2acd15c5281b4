import ScopeScript.Text.Bytes

/-!
# Search libraries

A search library compiles patterns and lists the matches of a compiled pattern in a text, as
ranges of bytes. Programs search with the library that they are run with, `searchLibrary`, and
nothing else is known about it here.

Compiled patterns are kept by their texts for the next search. What is kept is always what
compiling gives again, so no search shows which patterns are kept; `SearchLibrary.Patterns`
holds them in such a way that this is no part of the state.
-/

namespace ScopeScript

/-- The bytes of a text from `start` to `stop`. -/
structure ByteRange where
  start : Nat
  stop : Nat
  deriving Repr, DecidableEq

/-- A match: how many characters stand before it, and the text it covers. -/
structure PatternMatch where
  offset : Nat
  text : List Char
  deriving Repr, DecidableEq

/-- The matches that cover ranges of bytes. `text` is what is left to read, from the byte `start`
and the character `offset` on; the matches found so far stand latest first. -/
def ByteRange.pieces (start offset : Nat) (text : List Char) (found : List PatternMatch) :
    List ByteRange → List PatternMatch
  | [] => found.reverse
  | r :: rest =>
    let skip := charsWithin (r.start - start) 0 text
    let length := charsWithin (r.stop - r.start) 0 (text.drop skip)
    pieces r.stop (offset + skip + length) (text.drop (skip + length))
      (⟨offset + skip, (text.drop skip).take length⟩ :: found) rest

/-- A library that compiles patterns and finds their matches. -/
structure SearchLibrary where
  Compiled : Type
  /-- Why a pattern cannot be compiled. -/
  Reason : Type
  /-- A reason in words. -/
  describe : Reason → String
  compile : String → Except Reason Compiled
  ranges : Compiled → List Char → List ByteRange

/-- A pattern that cannot be compiled. -/
structure PatternRefusal (L : SearchLibrary) where
  pattern : String
  reason : L.Reason

namespace SearchLibrary

variable (L : SearchLibrary)

/-- The matches of a compiled pattern in a text. -/
def findAll (compiled : L.Compiled) (text : String) : List PatternMatch :=
  ByteRange.pieces 0 0 text.toList [] (L.ranges compiled text.toList)

/-- The compiled patterns that are kept, with their texts. -/
abbrev Memory := List (String × L.Compiled)

/-- Compile a pattern, unless it is kept. -/
def pattern (memory : L.Memory) (source : String) :
    Except (PatternRefusal L) L.Compiled × L.Memory :=
  match memory.lookup source with
  | some compiled => (.ok compiled, memory)
  | none =>
    match L.compile source with
    | .ok compiled => (.ok compiled, (source, compiled) :: memory)
    | .error reason => (.error ⟨source, reason⟩, memory)

/-- Every pattern that is kept is the compilation of its own text. -/
def Remembers (memory : L.Memory) : Prop :=
  ∀ source compiled, memory.lookup source = some compiled → L.compile source = .ok compiled

variable {L} {memory : L.Memory}

/-- **What is kept does not show**, and stays what its text says. -/
theorem Remembers.pattern (h : L.Remembers memory) (source : String) :
    (L.pattern memory source).1 = (L.compile source).mapError (⟨source, ·⟩) ∧
      L.Remembers (L.pattern memory source).2 := by
  rw [SearchLibrary.pattern]
  cases hkept : memory.lookup source with
  | some compiled => exact ⟨by rw [h source compiled hkept]; rfl, h⟩
  | none =>
    cases hcompile : L.compile source with
    | error reason => exact ⟨rfl, h⟩
    | ok compiled =>
      refine ⟨rfl, fun source' compiled' hlookup => ?_⟩
      rw [List.lookup_cons] at hlookup
      split at hlookup
      · next heq =>
        rw [eq_of_beq heq, hcompile, Option.some.inj hlookup]
      · exact h source' compiled' hlookup

variable (L)

/-- The patterns that an interpreter keeps, whichever these are. -/
def Patterns : Type := Squash {memory : L.Memory // L.Remembers memory}

namespace Patterns

variable {L}

/-- States do not differ in which patterns are kept. -/
instance : Subsingleton L.Patterns := inferInstanceAs (Subsingleton (Squash _))

/-- Nothing is kept. -/
def none : L.Patterns := Squash.mk ⟨[], fun _ _ h => nomatch h⟩

instance : Inhabited L.Patterns := ⟨none⟩

/-- Compile a pattern, unless it is kept, and keep it. -/
def compile (patterns : L.Patterns) (source : String) :
    Except (PatternRefusal L) L.Compiled × L.Patterns :=
  Quot.lift
    (fun memory => ((L.pattern memory.1 source).1,
      (Squash.mk ⟨(L.pattern memory.1 source).2, (memory.2.pattern source).2⟩ : L.Patterns)))
    (fun memory memory' _ => Prod.ext
      ((memory.2.pattern source).1.trans (memory'.2.pattern source).1.symm)
      (Subsingleton.elim _ _))
    patterns

/-- Compiling with kept patterns is compiling. -/
theorem compile_fst (patterns : L.Patterns) (source : String) :
    (patterns.compile source).1 = (L.compile source).mapError (⟨source, ·⟩) := by
  induction patterns using Quot.ind with
  | mk memory => exact (memory.2.pattern source).1

end Patterns

end SearchLibrary

/-- The search library that programs are run with. -/
class SearchContext where
  library : SearchLibrary

/-- The search library that programs are run with. -/
abbrev searchLibrary [SearchContext] : SearchLibrary := SearchContext.library

end ScopeScript
