import ScopeScript.Eval.Expr
import ScopeScript.Proofs.Value.Lift

/-!
# Searches and the patterns that are kept

A search compiles its pattern unless it is kept, and keeps it. Neither shows: a search is a
function of its arguments, without effect.
-/

namespace ScopeScript

variable [SearchContext]

/-- Compile a pattern without keeping it. -/
def compiledPattern (source : String) : Except RuntimeError searchLibrary.Compiled :=
  (searchLibrary.compile source).mapError fun reason =>
    .invalidPattern source (searchLibrary.describe reason)

/-- What a search finds or why it fails, from its arguments alone. -/
def searchResult (args : List Value) (kind : SearchKind) : Except RuntimeError Value :=
  match searchArguments? args with
  | none => .ok .undefined
  | some (pattern, subject) =>
    (compiledPattern pattern).map fun compiled =>
      kind.answer (searchLibrary.findAll compiled subject)

/-- States with the same scopes, output and depth are the same, whatever patterns are kept. -/
theorem Machine.eq_of {m m' : Machine} (hheap : m.heap = m'.heap) (hsink : m.sink = m'.sink)
    (hdepth : m.depth = m'.depth) : m = m' := by
  obtain ⟨heap, sink, depth, patterns⟩ := m
  obtain ⟨heap', sink', depth', patterns'⟩ := m'
  cases hheap
  cases hsink
  cases hdepth
  rw [Subsingleton.elim patterns patterns']

/-- Keeping a pattern leaves a state that is not told apart from the one before. -/
theorem Eval.compilePattern_eq_lift (source : String) :
    Eval.compilePattern source = Eval.lift (compiledPattern source) := by
  funext m
  have hstate : { m with patterns := (m.patterns.compile source).2 } = m :=
    Machine.eq_of rfl rfl rfl
  have hcompiled := m.patterns.compile_fst source
  rw [Eval.compilePattern, compiledPattern]
  dsimp only
  rw [hstate, hcompiled]
  cases searchLibrary.compile source <;> rfl

/-- **A search has no effect**, and what is kept does not show. -/
theorem search_eq_lift (args : List Value) (kind : SearchKind) :
    search args kind = Eval.lift (searchResult args kind) := by
  rw [search, searchResult]
  cases searchArguments? args with
  | none => rfl
  | some p =>
    dsimp only
    rw [Eval.compilePattern_eq_lift]
    cases compiledPattern p.1 <;> rfl

variable {R : Closure → Closure → Prop} {S : Span → Span → Prop}

/-- Searches cannot tell related arguments apart. -/
theorem searchResult_rel (hR : ∀ f f', R f f' → f.name = f'.name) {args args' : List Value}
    (hargs : List.Forall₂ (Value.Lift R) args args') (kind : SearchKind) :
    ExceptRel (RuntimeError.Lift S) (Value.Lift R) (searchResult args kind)
      (searchResult args' kind) := by
  rw [searchResult, searchResult, ← searchArguments?_eq hR hargs]
  split
  · exact .ok .undefined
  · next pattern subject _ =>
    rw [compiledPattern]
    cases searchLibrary.compile pattern with
    | error reason => exact .error (.invalidPattern pattern _)
    | ok compiled => exact .ok (kind.answer_lift _)

end ScopeScript
