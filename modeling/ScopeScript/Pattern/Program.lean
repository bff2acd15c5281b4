import ScopeScript.Pattern.Basic

/-!
# Matching programs

A pattern is compiled into a list of instructions that a set of threads runs side by side.
Code is laid out from the back: a pattern is compiled against the address that follows it,
and a loop first reserves the place of its branch. The first way out of a branch is the
preferred one.
-/

namespace ScopeScript

/-- One step of a matching thread. -/
inductive Instruction where
  /-- Take one character of the set. -/
  | take (set : CharSet) (next : Nat)
  /-- Go on only at a position that meets the condition. -/
  | check (anchor : Anchor) (next : Nat)
  /-- Go both ways, the first one preferred. -/
  | branch (first second : Nat)
  /-- A match ends here. -/
  | accept
  deriving Inhabited

/-- Instructions, and the address of the first one to run. -/
structure PatternProgram where
  code : Array Instruction
  entry : Nat

namespace Pattern

/-- Append an instruction and return its address. -/
def emit (code : Array Instruction) (i : Instruction) : Array Instruction × Nat :=
  let address := code.size
  (code.push i, address)

/-- A branch into a repeated body or past it. -/
def roundBranch (greedy : Bool) (body next : Nat) : Instruction :=
  if greedy then .branch body next else .branch next body

/-- Compile with `times` copies of the code of `body` in front of `next`. -/
def emitCopies (body : Array Instruction → Nat → Array Instruction × Nat) :
    (times : Nat) → Array Instruction → (next : Nat) → Array Instruction × Nat
  | 0, code, next => (code, next)
  | times + 1, code, next =>
    let (code, entry) := body code next
    emitCopies body times code entry

/-- Up to `times` rounds of `body`, each of which may leave for `exit`. -/
def emitOptional (body : Array Instruction → Nat → Array Instruction × Nat) (greedy : Bool)
    (exit : Nat) : (times : Nat) → Array Instruction → (next : Nat) → Array Instruction × Nat
  | 0, code, next => (code, next)
  | times + 1, code, next =>
    let (code, entry) := body code next
    let (code, entry) := emit code (roundBranch greedy entry exit)
    emitOptional body greedy exit times code entry

/-- One or more rounds of `body`: the address of the first round, and that of the branch
behind a round. -/
def emitLoop (body : Array Instruction → Nat → Array Instruction × Nat) (greedy : Bool)
    (code : Array Instruction) (next : Nat) : Array Instruction × Nat × Nat :=
  let (code, turn) := emit code .accept
  let (code, entry) := body code turn
  (code.set! turn (roundBranch greedy entry next), entry, turn)

/-- Append the code of a pattern that goes on at `next`, and return where it starts.

An unbounded repetition that may take no round is a loop entered through its own branch. If
a round may match the empty text the loop has a branch in front instead, so that the first
round is preferred as it stands. -/
def emitPattern : Pattern → Array Instruction → (next : Nat) → Array Instruction × Nat
  | nothing, code, next => (code, next)
  | one set, code, next => emit code (.take set next)
  | place anchor, code, next => emit code (.check anchor next)
  | both first second, code, next =>
    let (code, entry) := emitPattern second code next
    emitPattern first code entry
  | either first second, code, next =>
    let (code, entry₂) := emitPattern second code next
    let (code, entry₁) := emitPattern first code next
    emit code (.branch entry₁ entry₂)
  | repeated body least most greedy, code, next =>
    let round := fun code next => emitPattern body code next
    match most with
    | some most =>
      let (code, entry) := emitOptional round greedy next (most - least) code next
      emitCopies round least code entry
    | none =>
      let (code, entry, turn) := emitLoop round greedy code next
      match least with
      | 0 =>
        if body.acceptsEmpty then emit code (roundBranch greedy entry next) else (code, turn)
      | least + 1 => emitCopies round least code entry

/-- The program of a pattern. -/
def program (p : Pattern) : PatternProgram :=
  let (code, entry) := emitPattern p #[.accept] 0
  ⟨code, entry⟩

end Pattern

end ScopeScript
