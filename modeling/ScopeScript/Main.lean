import ScopeScript.Console
import ScopeScript.Pattern.Library

/-!
# The program

The outer layer: it reads the files and lines that a run needs, hands them to the library and
writes what comes back. Here the program is put together with its search library.
-/

namespace ScopeScript.Program

open ScopeScript

/-- Why the system could not read a file. -/
def failureOf : IO.Error → ReadFailure
  | .noFileOrDirectory _ _ _ => .notFound
  | .inappropriateType _ code _ => if code = 21 then .isDirectory else .notDirectory
  | .invalidArgument _ _ _ => .nameTooLong
  | _ => .isDirectory

/-- The text of a file. -/
def readText (path : String) : IO (Except ReadFailure String) := do
  try
    let bytes ← IO.FS.readBinFile path
    match String.fromUTF8? bytes with
    | some text => return .ok text
    | none => return .error .notText
  catch e => return .error (failureOf e)

/-- Files that have been read, by their paths. -/
abbrev Known := List (String × Except ReadFailure String)

/-- What a file holds as far as files have been read. -/
def Known.read (known : Known) (path : String) : Except ReadFailure String :=
  match known.find? fun (p, _) => p == path with
  | some (_, result) => result
  | none => .error .isDirectory

/-- Read the files that the expansion of a text asks for, one after the other. -/
partial def readInserted (settings : Settings) (source : String) (known : Known) : IO Known := do
  match expandScript settings known.read source with
  | .error (.unreadable file _) =>
    let path := Files.join settings.includeDirectory file
    if known.any fun (p, _) => p == path then return known
    readInserted settings source ((path, ← readText path) :: known)
  | _ => return known

/-- Write a transcript and return its exit code. -/
def report (t : Transcript) : IO UInt32 := do
  let output ← IO.getStdout
  output.putStr t.output
  output.flush
  (← IO.getStderr).putStr t.errors
  return t.code.toUInt32

/-- Run the main file. -/
def runMain (settings : Settings) : IO UInt32 := do
  match ← readText settings.mainFile with
  | .error .notFound => report .noMainFile
  | .error .notDirectory => report .noMainFile
  | .error .nameTooLong => report .noMainFile
  | .error failure =>
    report (.ofRun (.error (.insert (.unreadable settings.mainFile failure)), .unbounded))
  | .ok source =>
    let known ← readInserted settings source []
    let read := Known.read ((settings.mainFile, .ok source) :: known)
    match runFile settings read settings.mainFile .unbounded with
    | some result => report (.ofRun result)
    | none => return 1

/-- Show what a session said since it had said `said` bytes and `lines` bytes of errors. -/
def showNew (before after : Console) : IO Unit := do
  let old := before.interpreter.machine.sink.written.size
  let written := after.interpreter.machine.sink.written
  let output ← IO.getStdout
  output.write (written.extract old written.size)
  output.flush
  (← IO.getStderr).putStr (after.errors.drop before.errors.length).toString

/-- Read the bytes of a line, its end included; there are none at the end of the input. -/
partial def readLine (input : IO.FS.Stream) (line : ByteArray) : IO ByteArray := do
  let next ← input.read 1
  if next.isEmpty then return line
  let line := line ++ next
  if next[0]? == some 10 then return line
  readLine input line

/-- Run lines until they end. -/
partial def converse (c : Console) : IO UInt32 := do
  let bytes ← readLine (← IO.getStdin) .empty
  if bytes.isEmpty then
    showNew c (c.say Console.farewell)
    return 0
  match String.fromUTF8? bytes with
  | none =>
    showNew c (c.say Console.notTextNotice)
    return 0
  | some raw =>
    match c.enter (Console.lineText raw) with
    | none => return 1
    | some next =>
      showNew c next
      converse next

/-- Do what the arguments ask for. -/
def start (arguments : List String) : IO UInt32 :=
  match Command.ofArguments arguments with
  | .error e => report (.refusal e)
  | .ok .help => report .help
  | .ok (.run settings) =>
    if settings.interactive then converse (.start settings) else runMain settings

end ScopeScript.Program

/-- Run the program. -/
def main (arguments : List String) : IO UInt32 := ScopeScript.Program.start arguments
