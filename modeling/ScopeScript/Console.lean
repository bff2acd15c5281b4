import ScopeScript.Script

/-!
# The command line

The program takes a list of arguments. It explains itself, runs a file, or reads lines and
runs each in one interpreter, showing the values that are not `undefined`. What it writes goes
to two channels, output and errors.
-/

namespace ScopeScript

/-- What the program says about its arguments. -/
def helpText : String :=
  "Usage: scrawl [FILE] [options]\n" ++
  "\n" ++
  "  FILE  Entry source file (default: main.txt)\n" ++
  "\n" ++
  "Options:\n" ++
  "  -i, --interactive      Start a read-eval-print loop\n" ++
  "  --max-depth N          Maximum nesting of function calls (default: 1000)\n" ++
  "  --include-dir DIR      Directory #insert directives read from (default: .)\n" ++
  "  -h, --help             Print this message\n" ++
  "\n" ++
  "Set RUST_LOG=scrawl=debug for diagnostic logging."

variable [SearchContext]

/-- A session in progress: the interpreter, whose sink is the output, and the errors so far. -/
structure Console where
  interpreter : Interpreter
  errors : String

namespace Console

/-- A session in which nothing was entered. -/
def start (settings : Settings) : Console :=
  ⟨.fresh settings.rules .unbounded, ""⟩

/-- Write to the output. -/
def say (c : Console) (text : String) : Console :=
  { c with interpreter := c.interpreter.write text }

/-- Run one line and show its value. -/
def enter (c : Console) (line : String) : Option Console :=
  (c.interpreter.run line).map fun
    | (.ok .undefined, interpreter) => { c with interpreter }
    | (.ok v, interpreter) => { c with interpreter }.say (v.codeText ++ "\n")
    | (.error e, interpreter) =>
      { interpreter, errors := c.errors ++ "error: " ++ e.message ++ "\n" }

/-- What is said when the lines end. -/
def farewell : String := "CTRL-D\n"

/-- What is said when a line is not text. -/
def notTextNotice : String :=
  "Error: Io(Error \x7b kind: InvalidData, " ++
    "message: \"stream did not contain valid UTF-8\" \x7d)\n"

/-- Take back characters: a backspace drops the character before it, and itself. -/
def applyBackspaces (taken : List Char) : List Char → List Char
  | [] => taken.reverse
  | c :: rest =>
    if c = '\x08' then applyBackspaces taken.tail rest else applyBackspaces (c :: taken) rest

/-- A line as it was entered: without its line end, and with backspaces applied. -/
def lineText (raw : String) : String :=
  let chars := raw.toList.reverse
  let chars :=
    match chars with
    | '\n' :: '\r' :: rest => rest
    | '\n' :: rest => rest
    | rest => rest
  .ofList (applyBackspaces [] chars.reverse)

/-- Cut bytes into lines, each with its line end if it has one. -/
def rawLines (line : List UInt8) : List UInt8 → List (List UInt8)
  | [] => if line.isEmpty then [] else [line.reverse]
  | b :: rest =>
    if b = 10 then (b :: line).reverse :: rawLines [] rest else rawLines (b :: line) rest

/-- Run lines up to the end of the input or to one that is not text. -/
def enterAll (c : Console) : List (List UInt8) → Option Console
  | [] => some (c.say farewell)
  | raw :: rest =>
    match String.fromUTF8? ⟨raw.toArray⟩ with
    | none => some (c.say notTextNotice)
    | some raw =>
      match c.enter (lineText raw) with
      | some c => c.enterAll rest
      | none => none

end Console

/-- What a run of the program leaves behind. -/
structure Transcript where
  code : Nat
  output : String
  errors : String
  deriving Repr, DecidableEq

namespace Transcript

/-- The program explains itself. -/
def help : Transcript := ⟨0, helpText ++ "\n", ""⟩

/-- The program cannot follow its arguments. -/
def refusal (e : ArgumentError) : Transcript :=
  ⟨1, "", "error: " ++ e.message ++ "\n\n" ++ helpText ++ "\n"⟩

/-- There is no file to run. -/
def noMainFile : Transcript := ⟨0, "No such main file.\n", ""⟩

/-- A file was run. -/
def ofRun : Except ScriptError Unit × Sink → Transcript
  | (.ok (), sink) => ⟨0, textOfBytes sink.written, ""⟩
  | (.error e, sink) => ⟨1, textOfBytes sink.written, "error: " ++ e.message ++ "\n"⟩

/-- Lines were run. -/
def ofConsole (c : Console) : Transcript :=
  ⟨0, textOfBytes c.interpreter.machine.sink.written, c.errors⟩

end Transcript

/-- Run the program on arguments, the files around it and the bytes of its input. -/
def runProgramOn (arguments : List String) (files : Files) (input : ByteArray) :
    Option Transcript :=
  match Command.ofArguments arguments with
  | .error e => some (.refusal e)
  | .ok .help => some .help
  | .ok (.run settings) =>
    if settings.interactive then
      ((Console.start settings).enterAll (Console.rawLines [] input.toList)).map .ofConsole
    else if files.exists? settings.mainFile then
      (runFile settings files.read settings.mainFile .unbounded).map .ofRun
    else some .noMainFile

end ScopeScript
