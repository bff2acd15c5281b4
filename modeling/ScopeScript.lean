import ScopeScript.Console
import ScopeScript.Decimal.Layout
import ScopeScript.Decimal.Reader
import ScopeScript.Decimal.Shortest
import ScopeScript.Eval.Builtin
import ScopeScript.Eval.Error
import ScopeScript.Eval.Expr
import ScopeScript.Eval.Machine
import ScopeScript.Eval.Operation
import ScopeScript.Expr.Basic
import ScopeScript.Expr.DebugText
import ScopeScript.Expr.Parser
import ScopeScript.Files
import ScopeScript.Insert
import ScopeScript.Interpreter
import ScopeScript.Main
import ScopeScript.Output
import ScopeScript.Pattern.Basic
import ScopeScript.Pattern.CharClass
import ScopeScript.Pattern.Library
import ScopeScript.Pattern.Program
import ScopeScript.Pattern.Reader
import ScopeScript.Pattern.Search
import ScopeScript.Proofs.Decimal.Literal
import ScopeScript.Proofs.Eval.Alike
import ScopeScript.Proofs.Eval.BigStep
import ScopeScript.Proofs.Eval.BlockForm
import ScopeScript.Proofs.Eval.CallDepth
import ScopeScript.Proofs.Eval.Correspondence
import ScopeScript.Proofs.Eval.Coupling
import ScopeScript.Proofs.Eval.Effect
import ScopeScript.Proofs.Eval.Failure
import ScopeScript.Proofs.Eval.Footprint
import ScopeScript.Proofs.Eval.Kept
import ScopeScript.Proofs.Eval.Limit
import ScopeScript.Proofs.Eval.Moment
import ScopeScript.Proofs.Eval.NativeDefinition
import ScopeScript.Proofs.Eval.Output
import ScopeScript.Proofs.Eval.Release
import ScopeScript.Proofs.Eval.Search
import ScopeScript.Proofs.Eval.Simulation
import ScopeScript.Proofs.Eval.Termination
import ScopeScript.Proofs.Eval.Truncation
import ScopeScript.Proofs.Eval.Watch
import ScopeScript.Proofs.Expr.Accept
import ScopeScript.Proofs.Expr.DebugText
import ScopeScript.Proofs.Expr.Grammar
import ScopeScript.Proofs.Expr.Height
import ScopeScript.Proofs.Expr.Join
import ScopeScript.Proofs.Expr.Layout
import ScopeScript.Proofs.Expr.Names
import ScopeScript.Proofs.Expr.Node
import ScopeScript.Proofs.Expr.Print
import ScopeScript.Proofs.Expr.Reading
import ScopeScript.Proofs.Expr.Relocate
import ScopeScript.Proofs.Expr.Subtree
import ScopeScript.Proofs.Expr.TokenRange
import ScopeScript.Proofs.Expr.Viable
import ScopeScript.Proofs.Insert.Directive
import ScopeScript.Proofs.Insert.Expansion
import ScopeScript.Proofs.Insert.Passes
import ScopeScript.Proofs.Insert.Script
import ScopeScript.Proofs.Insert.Sweep
import ScopeScript.Proofs.Pattern.Library
import ScopeScript.Proofs.Pattern.Matches
import ScopeScript.Proofs.Scope.Correspondence
import ScopeScript.Proofs.Scope.Forest
import ScopeScript.Proofs.Scope.Heap
import ScopeScript.Proofs.Scope.Lexical
import ScopeScript.Proofs.Scope.Reach
import ScopeScript.Proofs.Search.Library
import ScopeScript.Proofs.Search.Ranges
import ScopeScript.Proofs.Session.Basic
import ScopeScript.Proofs.Session.CallDepth
import ScopeScript.Proofs.Session.Cycle
import ScopeScript.Proofs.Session.Failure
import ScopeScript.Proofs.Session.Join
import ScopeScript.Proofs.Session.Layout
import ScopeScript.Proofs.Session.Lexical
import ScopeScript.Proofs.Session.NativeDefinition
import ScopeScript.Proofs.Session.Release
import ScopeScript.Proofs.Session.Termination
import ScopeScript.Proofs.Settings.Arguments
import ScopeScript.Proofs.Source.Shift
import ScopeScript.Proofs.Text.Bytes
import ScopeScript.Proofs.Text.Quoted
import ScopeScript.Proofs.Token.Append
import ScopeScript.Proofs.Token.Lexeme
import ScopeScript.Proofs.Token.Respell
import ScopeScript.Proofs.Token.Tiling
import ScopeScript.Proofs.Value.Lift
import ScopeScript.Scope.Basic
import ScopeScript.Script
import ScopeScript.Search.Library
import ScopeScript.Settings
import ScopeScript.Source.Location
import ScopeScript.Text.Bytes
import ScopeScript.Text.CaseFolding
import ScopeScript.Text.CharSet
import ScopeScript.Text.Escaped
import ScopeScript.Text.Quoted
import ScopeScript.Text.Space
import ScopeScript.Text.WordChar
import ScopeScript.Token.Basic
import ScopeScript.Token.Lexer
import ScopeScript.Value.Basic
import ScopeScript.Value.Text
