/-!
# Output

Printed text goes to a sink. A sink may be bounded: it takes that many bytes and fails from
then on whenever there is something more to write, with all bytes before the bound written.
It may also fail to flush.
-/

namespace ScopeScript

/-- Where printed text goes. -/
structure Sink where
  /-- The bytes written so far. -/
  written : ByteArray
  /-- How many bytes the sink takes, if it is bounded. -/
  limit : Option Nat
  /-- Whether flushing fails. -/
  flushFails : Bool

namespace Sink

/-- A sink without bound that has taken nothing yet. -/
def unbounded : Sink := ⟨.empty, none, false⟩

instance : Inhabited Sink := ⟨unbounded⟩

/-- Write a text as far as the sink takes it, and say whether all of it went in. -/
def write (s : Sink) (text : String) : Sink × Bool :=
  let bytes := text.toUTF8
  let room := s.limit.map (· - s.written.size)
  match room with
  | none => ({ s with written := s.written ++ bytes }, true)
  | some room =>
    if bytes.size ≤ room then ({ s with written := s.written ++ bytes }, true)
    else ({ s with written := s.written ++ bytes.extract 0 room }, false)

end Sink

/-- The text of bytes that are whole characters up to a last one, which may be cut off and is
then shown as a replacement character. -/
def textOfBytes (bytes : ByteArray) : String :=
  match String.fromUTF8? bytes with
  | some text => text
  | none =>
    let cut := [1, 2, 3].findSome? fun n => String.fromUTF8? (bytes.extract 0 (bytes.size - n))
    cut.getD "" ++ "\ufffd"

end ScopeScript
