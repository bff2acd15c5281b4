import ScopeScript.Pattern.Program
import ScopeScript.Search.Library

/-!
# Searching with patterns

Threads run over the text side by side, in order of preference, and no two of them ever wait
at one instruction, so a search takes time in proportion to the text and the program. The
earliest match wins; of the matches from one place the preferred one does.

`PatternProgram.findAll` lists the matches that do not overlap. Each search starts where the last
match ended; an empty match there is passed over, and the search goes on one character later.
-/

namespace ScopeScript

namespace PatternProgram

/-- A thread that waits for a character: its instruction, and where its match started. -/
structure Thread where
  address : Nat
  start : Nat

/-- The threads at one position of the text. -/
structure Frontier where
  /-- Threads that wait for a character, preferred ones first. -/
  threads : Array Thread
  /-- For each instruction, one more than the last position at which it was reached. -/
  reached : Array Nat
  /-- The start of a match that ends here. -/
  accepted : Option Nat

/-- Follow a thread from the addresses on `stack` to every instruction that waits, passing over
those reached before. A thread that accepts ends the search for less preferred ones. -/
def follow (code : Array Instruction) (before after : Option Char) (position start : Nat) :
    (fuel : Nat) → (stack : List Nat) → Frontier → Frontier
  | 0, _, f => f
  | _, [], f => f
  | fuel + 1, address :: stack, f =>
    if f.reached[address]?.getD 0 == position + 1 then
      follow code before after position start fuel stack f
    else
      let f := { f with reached := f.reached.setIfInBounds address (position + 1) }
      match code[address]? with
      | some (.take _ _) =>
        follow code before after position start fuel stack
          { f with threads := f.threads.push ⟨address, start⟩ }
      | some (.check anchor next) =>
        if anchor.holds before after then
          follow code before after position start fuel (next :: stack) f
        else follow code before after position start fuel stack f
      | some (.branch first second) =>
        follow code before after position start fuel (first :: second :: stack) f
      | some .accept => { f with accepted := some start }
      | none => follow code before after position start fuel stack f

/-- Steps that suffice to follow one thread: every instruction is entered once and sends on
two addresses at most. -/
def followFuel (code : Array Instruction) : Nat := 2 * code.size + 2

/-- Move the threads over the character `c`, from the index `i` on, to the position behind. -/
def advance (code : Array Instruction) (c : Char) (after : Option Char) (position : Nat)
    (threads : Array Thread) : (count i : Nat) → Frontier → Frontier
  | 0, _, f => f
  | count + 1, i, f =>
    if f.accepted.isSome then f
    else
      match threads[i]? with
      | none => f
      | some t =>
        match code[t.address]? with
        | some (.take set next) =>
          if set.contains c then
            advance code c after position threads count (i + 1)
              (follow code (some c) after position t.start (followFuel code) [next] f)
          else advance code c after position threads count (i + 1) f
        | _ => advance code c after position threads count (i + 1) f

/-- Run the threads to the end of the text. `found` is the best match so far; once there is
one, no thread starts anew. -/
def run (p : PatternProgram) (found : Option (Nat × Nat)) :
    (before : Option Char) → (position : Nat) → Frontier → List Char → Option (Nat × Nat)
  | before, position, f, text =>
    let f :=
      if found.isNone && f.accepted.isNone then
        follow p.code before text.head? position position (followFuel p.code) [p.entry] f
      else f
    let found :=
      match f.accepted with
      | some start => some (start, position)
      | none => found
    match text with
    | [] => found
    | c :: rest =>
      if f.threads.isEmpty && found.isSome then found
      else
        let threads := f.threads
        let f := advance p.code c rest.head? (position + 1) threads threads.size 0
          { threads := Array.mkEmpty threads.size, reached := f.reached, accepted := none }
        run p found (some c) (position + 1) f rest
termination_by _ _ _ text => text.length

/-- The first match in the text: the number of characters before it, and its length. -/
def find? (p : PatternProgram) (before : Option Char) (text : List Char) : Option (Nat × Nat) :=
  (run p none before 0 ⟨#[], Array.replicate p.code.size 0, none⟩ text).map
    fun (start, stop) => (start, stop - start)

/-- The last character of the first `n` of a text, or else the one before them. -/
def charBefore (before : Option Char) (n : Nat) (text : List Char) : Option Char :=
  match n with
  | 0 => before
  | n + 1 => (text[n]?).or before

/-- List the matches in `text`, which stands `offset` characters into the whole. `touching`
says that a match ends where `text` starts. -/
def findFrom (p : PatternProgram) :
    (fuel : Nat) → (touching : Bool) → (before : Option Char) → (offset : Nat) →
      List Char → List PatternMatch → List PatternMatch
  | 0, _, _, _, _, found => found.reverse
  | fuel + 1, touching, before, offset, text, found =>
    match p.find? before text with
    | none => found.reverse
    | some (skip, length) =>
      if touching && skip == 0 && length == 0 then
        match text with
        | [] => found.reverse
        | c :: rest => findFrom p fuel false (some c) (offset + 1) rest found
      else
        let matched := (text.drop skip).take length
        findFrom p fuel true (charBefore before (skip + length) text) (offset + skip + length)
          (text.drop (skip + length)) (⟨offset + skip, matched⟩ :: found)

/-- The matches that do not overlap, in order. -/
def findAll (p : PatternProgram) (text : List Char) : List PatternMatch :=
  findFrom p (2 * text.length + 2) false none 0 text []

end PatternProgram

end ScopeScript
