import ScopeScript.Files
import ScopeScript.Text.Bytes
import ScopeScript.Text.WordChar

/-!
# Insert directives

Before it is read as a program a text may ask for the text of files: `#insert (name.txt)`
stands for what the file holds, or for nothing if there is no such file. The name is made of
word characters. Inserted text is searched again, so expansion goes in passes; each pass
replaces the directives of the text from left to right.

Two limits stop expansion that would not end: on the number of passes after which directives
remain, and on the size of the text in bytes, checked before each replacement for the text
with that replacement made.
-/

namespace ScopeScript

/-- Why a text cannot be expanded. -/
inductive InsertError where
  | limitExceeded (file : String) (passes : Nat)
  | tooLarge (file : String) (limit : Nat)
  | unreadable (file : String) (failure : ReadFailure)
  deriving Repr, DecidableEq

namespace InsertError

/-- The error in words. -/
def message : InsertError → String
  | limitExceeded file passes =>
    s!"'{file}' is still being inserted after {passes} passes; " ++
      "the includes are probably cyclic"
  | tooLarge file limit =>
    s!"inserting '{file}' grows the source past {limit} bytes; " ++
      "the includes are probably cyclic"
  | unreadable file failure => s!"cannot read '{file}': {failure.message}"

end InsertError

namespace Insert

/-- What precedes the name in a directive. -/
def opening : List Char := ['#', 'i', 'n', 's', 'e', 'r', 't', ' ', '(']

/-- What follows the name without its ending. -/
def closing : List Char := ['.', 't', 'x', 't', ')']

/-- The rest of a text behind a known beginning. -/
def after? : (beginning text : List Char) → Option (List Char)
  | [], text => some text
  | _, [] => none
  | b :: bs, c :: text => if b = c then after? bs text else none

/-- The directive at the very beginning of a text: the file it names, and what follows. -/
def directive? (text : List Char) : Option (String × List Char) :=
  match after? opening text with
  | none => none
  | some rest =>
    let word := rest.takeWhile isWordChar
    if word.isEmpty then none
    else (after? closing (rest.dropWhile isWordChar)).map fun rest =>
      (String.ofList word ++ ".txt", rest)

/-- A text that begins so is as long as the beginning and the rest. -/
theorem length_of_after? {beginning text rest : List Char} (h : after? beginning text = some rest) :
    text.length = beginning.length + rest.length := by
  induction beginning generalizing text with
  | nil => simp [after?] at h; simp [h]
  | cons b bs ih =>
    cases text with
    | nil => simp [after?] at h
    | cons c text =>
      simp only [after?] at h
      split at h
      · simp only [List.length_cons, ih h]; omega
      · cases h

/-- What follows a directive is shorter than the text. -/
theorem length_lt_of_directive? {text rest : List Char} {file : String}
    (h : directive? text = some (file, rest)) : rest.length < text.length := by
  unfold directive? at h
  split at h
  · cases h
  · rename_i inner hi
    simp only at h
    split at h
    · cases h
    · obtain ⟨r, hr, he⟩ := Option.map_eq_some_iff.1 h
      cases he
      have h₁ := length_of_after? hi
      have h₂ := length_of_after? hr
      have h₃ : (inner.dropWhile isWordChar).length ≤ inner.length :=
        (List.dropWhile_suffix _).length_le
      simp [opening, closing] at h₁ h₂
      omega

/-- The file that the first directive of a text names. -/
def firstFile? : List Char → Option String
  | [] => none
  | c :: rest =>
    if c = '#' then
      match directive? (c :: rest) with
      | some (file, _) => some file
      | none => firstFile? rest
    else firstFile? rest

/-- A text to insert, with its size in bytes. -/
structure Inclusion where
  text : List Char
  size : Nat

/-- The state of a pass. -/
structure Sweep where
  /-- The files read so far. -/
  known : List (String × Inclusion)
  /-- The new text so far, latest character first. -/
  done : List Char
  /-- The size of the new text so far. -/
  size : Nat

/-- The text that a directive stands for, read once and then known. -/
def include? (read : String → Except ReadFailure (List Char))
    (known : List (String × Inclusion)) (file : String) :
    Except InsertError (Inclusion × List (String × Inclusion)) :=
  match known.find? fun (name, _) => name == file with
  | some (_, inclusion) => .ok (inclusion, known)
  | none =>
    let found : Except InsertError (List Char) :=
      match read file with
      | .ok text => .ok text
      | .error .notFound => .ok []
      | .error failure => .error (.unreadable file failure)
    found.map fun text =>
      let inclusion := ⟨text, byteSize text⟩
      (inclusion, (file, inclusion) :: known)

/-- One pass over a text: replace every directive. `restSize` is the size of what is still to
be swept. -/
def sweep (read : String → Except ReadFailure (List Char)) (limit : Nat) (s : Sweep)
    (restSize : Nat) (text : List Char) : Except InsertError Sweep :=
  match text with
  | [] => .ok s
  | c :: rest =>
    match h : if c = '#' then directive? (c :: rest) else none with
    | none =>
      sweep read limit { s with done := c :: s.done, size := s.size + c.utf8Size }
        (restSize - c.utf8Size) rest
    | some (file, after) =>
      match include? read s.known file with
      | .error e => .error e
      | .ok (inclusion, known) =>
        have : after.length < rest.length + 1 := by
          split at h
          · exact length_lt_of_directive? h
          · cases h
        let restSize := restSize - byteSize opening - file.utf8ByteSize - 1
        if s.size + inclusion.size + restSize > limit then .error (.tooLarge file limit)
        else
          sweep read limit
            ⟨known, inclusion.text.reverseAux s.done, s.size + inclusion.size⟩ restSize after
termination_by text.length
decreasing_by
  · exact Nat.lt_succ_self _
  · assumption

/-- Expand a text in at most `passes` further passes. -/
def expandWithin (read : String → Except ReadFailure (List Char)) (limit total : Nat) :
    (passes : Nat) → (known : List (String × Inclusion)) → (size : Nat) → List Char →
      Except InsertError (List Char)
  | passes, known, size, text =>
    match firstFile? text, passes with
    | none, _ => .ok text
    | some file, 0 => .error (.limitExceeded file total)
    | some _, passes + 1 =>
      match sweep read limit ⟨known, [], 0⟩ size text with
      | .error e => .error e
      | .ok s => expandWithin read limit total passes s.known s.size s.done.reverse

end Insert

/-- Limits on the expansion of a text. -/
structure InsertLimits where
  /-- How many passes may replace directives. -/
  passes : Nat
  /-- How many bytes the text may grow to. -/
  size : Nat
  deriving Repr, DecidableEq

/-- Expand the directives of a text with files found through `read`. -/
def expandInserts (read : String → Except ReadFailure (List Char)) (limits : InsertLimits)
    (text : List Char) : Except InsertError (List Char) :=
  Insert.expandWithin read limits.size limits.passes limits.passes [] (byteSize text) text

end ScopeScript
