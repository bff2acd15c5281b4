import ScopeScript.Insert
import ScopeScript.Interpreter
import ScopeScript.Settings

/-!
# Running a file

A script is read from a file, its insert directives are expanded, and the text is run by a
fresh interpreter.
-/

namespace ScopeScript

/-- Why a script does not run to its end. -/
inductive ScriptError where
  | insert (e : InsertError)
  | source (e : SourceError)
  deriving Repr, DecidableEq

namespace ScriptError

/-- The error in words. -/
def message : ScriptError → String
  | insert e => "preprocessing error: " ++ e.message
  | source e => e.message

end ScriptError

namespace Settings

/-- The limits on insertion. -/
def insertLimits (s : Settings) : InsertLimits := ⟨s.maxPasses, s.maxSize⟩

/-- The rules of evaluation. -/
def rules (s : Settings) : Rules := { maxDepth := s.maxDepth }

end Settings

/-- Expand the directives of a text; the files they name lie in the include directory. -/
def expandScript (settings : Settings) (read : String → Except ReadFailure String)
    (source : String) : Except InsertError String :=
  let readInserted := fun name =>
    (read (Files.join settings.includeDirectory name)).map String.toList
  (expandInserts readInserted settings.insertLimits source.toList).map String.ofList

variable [SearchContext]

/-- Run the file at `path`, and return what becomes of it together with the output. -/
def runFile (settings : Settings) (read : String → Except ReadFailure String) (path : String)
    (sink : Sink) : Option (Except ScriptError Unit × Sink) :=
  match read path with
  | .error failure => some (.error (.insert (.unreadable path failure)), sink)
  | .ok source =>
    match expandScript settings read source with
    | .error e => some (.error (.insert e), sink)
    | .ok source =>
      ((Interpreter.fresh settings.rules sink).run source).map fun
        | (.ok _, i) => (.ok (), i.machine.sink)
        | (.error e, i) => (.error (.source e), i.machine.sink)

end ScopeScript
