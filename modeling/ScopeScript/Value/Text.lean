import ScopeScript.Decimal.Layout
import ScopeScript.Expr.DebugText
import ScopeScript.Value.Basic

/-!
# Texts of values

The plain text of a value is what printing writes. Its code text differs in that a string
stands in quotes, with nothing escaped; items of lists are always shown so. The debug text
shows kinds and contents, and of a function all but its captured scope.
-/

namespace ScopeScript

namespace Value

mutual

/-- The plain text of a value. -/
def text : Value → String
  | number n => numberText n
  | boolean b => if b then "true" else "false"
  | string s => s
  | list items => bracketed (codeTexts items)
  | function f => s!"<function {f.name}>"
  | undefined => "undefined"

/-- The code texts of values. -/
def codeTexts : List Value → List String
  | [] => []
  | v :: rest => (match v with | string s => s!"\"{s}\"" | v => v.text) :: codeTexts rest

end

/-- The code text of a value. -/
def codeText : Value → String
  | string s => s!"\"{s}\""
  | v => v.text

end Value

/-- The debug text of a function. -/
def Closure.debugText (f : Closure) : String :=
  "Function \x7b name: " ++ quoted f.name ++ ", params: " ++ bracketed (f.params.map quoted) ++
    ", body: " ++ bracketed (Expr.debugTexts f.body) ++ " \x7d"

namespace Value

mutual

/-- The debug text of a value. -/
def debugText : Value → String
  | number n => "Number(" ++ exactNumberText n ++ ")"
  | boolean b => if b then "Boolean(true)" else "Boolean(false)"
  | string s => "String(" ++ quoted s ++ ")"
  | list items => "List(" ++ bracketed (debugTexts items) ++ ")"
  | function f => "Function(" ++ f.debugText ++ ")"
  | undefined => "Undefined"

/-- The debug texts of values. -/
def debugTexts : List Value → List String
  | [] => []
  | v :: rest => v.debugText :: debugTexts rest

end

end Value

end ScopeScript
