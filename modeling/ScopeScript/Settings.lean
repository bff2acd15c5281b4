/-!
# Settings

What a run is asked to do, and how a list of arguments asks for it. Arguments are read from
left to right; a later setting takes the place of an earlier one, an argument that starts with
a hyphen must be a known option, and any other argument names the main file. The first fault
or call for help ends the reading.
-/

namespace ScopeScript

/-- Settings of one run. -/
structure Settings where
  /-- The file to run. -/
  mainFile : String := "main.txt"
  /-- The directory in which inserted files are looked up. -/
  includeDirectory : String := "."
  /-- How many passes may replace insert directives. -/
  maxPasses : Nat := 32
  /-- How many bytes the text may grow to by insertion. -/
  maxSize : Nat := 16 * 1024 * 1024
  /-- How many calls may be in progress at a time. -/
  maxDepth : Nat := 1000
  /-- Whether lines are read and run one at a time. -/
  interactive : Bool := false
  deriving Repr, DecidableEq

/-- What a list of arguments asks for. -/
inductive Command where
  | help
  | run (settings : Settings)
  deriving Repr, DecidableEq

/-- Why a list of arguments cannot be followed. -/
inductive ArgumentError where
  | depthMissing
  | depthUnreadable (value : String)
  | directoryMissing
  | unknownOption (option : String)
  deriving Repr, DecidableEq

namespace ArgumentError

/-- The error in words. -/
def message : ArgumentError → String
  | depthMissing => "--max-depth expects a number"
  | depthUnreadable value => s!"invalid value for --max-depth: {value}"
  | directoryMissing => "--include-dir expects a directory"
  | unknownOption option => s!"unknown option {option}"

end ArgumentError

/-- The least number that is too large to be counted with. -/
def countBound : Nat := Nat.pow 2 64

/-- A number of decimal digits, at least one, that is below `countBound`. -/
def readDigits? (ds : List Char) : Option Nat :=
  if !ds.isEmpty && ds.all Char.isDigit then
    let n := ds.foldl (fun n c => 10 * n + (c.toNat - 0x30)) 0
    if n < countBound then some n else none
  else none

/-- A count: digits, with a plus sign in front or without. -/
def readCount? (text : String) : Option Nat :=
  match text.toList with
  | '+' :: ds => readDigits? ds
  | ds => readDigits? ds

namespace Command

/-- Read arguments on top of the settings made so far. -/
def ofArgumentsFrom (settings : Settings) : List String → Except ArgumentError Command
  | [] => .ok (.run settings)
  | "-h" :: _ => .ok .help
  | "--help" :: _ => .ok .help
  | "-i" :: rest => ofArgumentsFrom { settings with interactive := true } rest
  | "--interactive" :: rest => ofArgumentsFrom { settings with interactive := true } rest
  | "--max-depth" :: [] => .error .depthMissing
  | "--max-depth" :: value :: rest =>
    match readCount? value with
    | some n => ofArgumentsFrom { settings with maxDepth := n } rest
    | none => .error (.depthUnreadable value)
  | "--include-dir" :: [] => .error .directoryMissing
  | "--include-dir" :: value :: rest =>
    ofArgumentsFrom { settings with includeDirectory := value } rest
  | argument :: rest =>
    if argument.startsWith "-" then .error (.unknownOption argument)
    else ofArgumentsFrom { settings with mainFile := argument } rest

/-- What a list of arguments asks for. -/
def ofArguments (arguments : List String) : Except ArgumentError Command :=
  ofArgumentsFrom {} arguments

end Command

/-- A path up to spelling: whether it starts at the root, and its components. Slashes in a row
and at the end make no components, nor do single points, save one at the very beginning. -/
def pathParts (path : String) : Bool × List String :=
  match path.splitOn "/" with
  | [] => (false, [])
  | first :: rest =>
    let rest := rest.filter fun c => c != "" && c != "."
    if first == "" then (path != "", rest) else (false, first :: rest)

namespace Settings

/-- Whether settings are the same up to the spelling of paths. -/
def agreesWith (s t : Settings) : Bool :=
  pathParts s.mainFile == pathParts t.mainFile &&
    pathParts s.includeDirectory == pathParts t.includeDirectory &&
    s.maxPasses == t.maxPasses && s.maxSize == t.maxSize && s.maxDepth == t.maxDepth &&
    s.interactive == t.interactive

end Settings

end ScopeScript
