import ScopeScript.Expr.Basic
import ScopeScript.Text.Quoted

/-!
# Debug texts of expressions

A text that shows the shape of a tree: the kind of each node with its parts, and no spans, so
that equal trees have equal texts wherever they were read. Number texts and defined names
stand as they are, other texts are quoted.
-/

namespace ScopeScript

/-- Texts between brackets, separated by commas. -/
def bracketed (texts : List String) : String := "[" ++ ", ".intercalate texts ++ "]"

/-- A defined or assigned name. -/
def Name.debugText (name : Name) : String := s!"Name(\"{name.text}\")"

namespace Expr

mutual

/-- The debug text of an expression. -/
def debugText : Expr → String
  | number text _ => s!"Number({text})"
  | string text _ => "String(" ++ quoted text ++ ")"
  | symbol name _ => "Symbol(" ++ quoted name ++ ")"
  | operation op left right _ =>
    "Operation(" ++ quoted op ++ ", " ++ left.debugText ++ ", " ++ right.debugText ++ ")"
  | call callee args _ =>
    "Call(" ++ callee.debugText ++ ", " ++ bracketed (debugTexts args) ++ ")"
  | definition name params body _ =>
    "FunctionDefinition \x7b name: " ++ name.debugText ++ ", params: " ++
      bracketed (debugTexts params) ++ ", body: " ++ bracketed (debugTexts body) ++ " \x7d"
  | assignment target value _ =>
    "Assignment(" ++ target.debugText ++ ", " ++ value.debugText ++ ")"

/-- The debug texts of several expressions. -/
def debugTexts : List Expr → List String
  | [] => []
  | e :: rest => e.debugText :: debugTexts rest

end

end Expr

end ScopeScript
