import ScopeScript.Pattern.Library
import ScopeScript.Proofs.Eval.NativeDefinition
import ScopeScript.Proofs.Session.Layout

/-!
# Native builtins cannot be replaced

Runs of programs that define native builtins otherwise, from interpreters that differ in such
definitions only: the results, the output and the interpreters afterwards differ in nothing else.
With the same spans in both programs the errors are equal, and texts, in which everything behind
another definition stands elsewhere, have errors that are equal up to spans.
-/

namespace ScopeScript

namespace Interpreter

section

variable [SearchContext]

/-- Run a program in some scope within a number of steps, and flush the output. -/
def runIn (i : Interpreter) (steps : Nat) (env : ScopeId) (program : List Expr) :
    Option (Except SourceError Value × Interpreter) :=
  ofOutcome i.rules (runProgram i.rules steps program env i.machine)

/-- Interpreters with the same rules, output and depth, and with the same bindings in every scope
but for the definitions of native builtins. -/
structure Redefined (S : Span → Span → Prop) (i i' : Interpreter) : Prop where
  rules_eq : i.rules = i'.rules
  machine : i.machine.Corresponds (Closure.Redefined S) i'.machine

/-- Runs that end with errors related by `E`, or with values that differ in the definitions of
native builtins only, where functions have the same name. So do the interpreters afterwards. -/
structure SameResult (E : SourceError → SourceError → Prop) (S : Span → Span → Prop)
    (run run' : Except SourceError Value × Interpreter) : Prop where
  result : ExceptRel E (Value.Lift (Closure.Redefined S)) run.1 run'.1
  state : run.2.Redefined S run'.2

/-- Texts whose programs differ in the definitions of native builtins and in spans. -/
def SameButNatives (source source' : String) : Prop :=
  ∃ program program', readProgram source = .ok program ∧ readProgram source' = .ok program' ∧
    List.Forall₂ (Expr.Redefined ArePlain fun _ _ => True) program program'

variable {E : SourceError → SourceError → Prop} {S : Span → Span → Prop} {i i' : Interpreter}

/-- An interpreter goes with itself. -/
theorem Redefined.refl (hS : ∀ s, S s s) (i : Interpreter) : i.Redefined S i :=
  ⟨rfl, rfl, rfl, .self fun _ _ _ _ _ => .refl hS _⟩

/-- Runs of programs that differ in the definitions of native builtins. -/
theorem runIn_sameResult (hE : ∀ e e', RuntimeError.Lift S e e' → E (.runtime e) (.runtime e'))
    (hi : i.Redefined S i') (steps : Nat) (env : ScopeId) {program program' : List Expr}
    (hprogram : List.Forall₂ (Expr.Redefined ArePlain S) program program') :
    Option.Rel (SameResult E S) (i.runIn steps env program) (i'.runIn steps env program') := by
  have hrun := runProgram_redefined i.rules steps hprogram env i.machine i'.machine hi.machine
  rw [runIn, runIn, ← hi.rules_eq]
  generalize runProgram i.rules steps program env i.machine = o at hrun
  generalize runProgram i.rules steps program' env i'.machine = o' at hrun
  cases hrun with
  | done hm hv => exact .some ⟨.ok hv, rfl, hm⟩
  | failed hm he => exact .some ⟨.error (hE _ _ he), rfl, hm⟩
  | unfinished => exact .none

/-- Runs of texts that differ in the definitions of native builtins. -/
theorem runWithin_sameResult (hi : i.Redefined (fun _ _ => True) i') (steps : Nat)
    {source source' : String} (h : SameButNatives source source') :
    Option.Rel (SameResult SameError fun _ _ => True) (i.runWithin steps source)
      (i'.runWithin steps source') := by
  obtain ⟨program, program', hread, hread', hprogram⟩ := h
  rw [runWithin, runWithin, hread, hread']
  exact runIn_sameResult (fun _ _ => .runtime) hi steps globals hprogram

/-- **Native builtins cannot be replaced.** Programs that are equal but for the bodies of
definitions of native builtins, and for their parameters as long as these are plain names, run in
any scope of interpreters that differ in the same way only, end with the same value, of functions
the same name, or with the same error, and leave the same output and interpreters that differ in the
same way only. Texts whose programs are equal in this way up to spans, run one by one, do so up to
spans. If the steps do not suffice for the one run, they do not suffice for the other. -/
theorem natives_irreplaceable (steps : Nat) :
    (∀ i i' env program program', Redefined Eq i i' →
      List.Forall₂ (Expr.Redefined ArePlain Eq) program program' →
        Option.Rel (SameResult Eq Eq) (i.runIn steps env program) (i'.runIn steps env program')) ∧
    ∀ i i' sources sources', Redefined (fun _ _ => True) i i' →
      List.Forall₂ SameButNatives sources sources' →
        Option.Rel (List.Forall₂ (SameResult SameError fun _ _ => True)) (runAll steps i sources)
          (runAll steps i' sources') := by
  refine ⟨fun i i' env program program' hi hprogram => ?_,
    fun i i' sources sources' hi hsources => ?_⟩
  · have herror : ∀ e e', RuntimeError.Lift Eq e e' →
        SourceError.runtime e = SourceError.runtime e' := fun _ _ he => congrArg _ he.eq
    exact runIn_sameResult herror hi steps env hprogram
  · exact runAll_rel (fun hi hsource => runWithin_sameResult hi steps hsource) SameResult.state
      hsources hi

/-- Runs with the same result succeed together. -/
theorem map_isOk_eq {run? run?' : Option (Except SourceError Value × Interpreter)}
    (h : Option.Rel (SameResult E S) run? run?') :
    run?.map (fun run => run.1.isOk) = run?'.map fun run => run.1.isOk := by
  cases h with
  | none => rfl
  | @some run run' h =>
    obtain ⟨result, _⟩ := run
    obtain ⟨result', _⟩ := run'
    have hresult : ExceptRel E _ result result' := h.result
    cases hresult <;> rfl

end

/-- A function that gets a definition of a native builtin as its argument and calls it. -/
def definedPrint : String := "f(g) \x7b g('hi'); \x7d; f(print(x) \x7b 0; \x7d); print;"

/-- The same text with another definition of the builtin. -/
def redefinedPrint : String := "f(g) \x7b g('hi'); \x7d; f(print(y) \x7b z; \x7d); print;"

/-- The builtin prints whichever definition of it is passed on. -/
theorem natives_irreplaceable_passedFunction :
    (runAll 9 (fresh ⟨5, true⟩ .unbounded) [definedPrint]).map
        (List.map fun run => (run.1.isOk, run.2.machine.sink.written)) =
          some [(true, "hi\n".toUTF8)] ∧
      ∃ program program', readProgram definedPrint = .ok program ∧
        readProgram redefinedPrint = .ok program' ∧
        Option.Rel (SameResult Eq Eq)
          ((fresh ⟨5, true⟩ .unbounded).runIn 9 globals program)
          ((fresh ⟨5, true⟩ .unbounded).runIn 9 globals program') ∧
        Option.Rel (List.Forall₂ (SameResult SameError fun _ _ => True))
          (runAll 9 (fresh ⟨5, true⟩ .unbounded) [definedPrint])
          (runAll 9 (fresh ⟨5, true⟩ .unbounded) [redefinedPrint]) := by
  obtain ⟨program, program', hread, hread', hsame⟩ : ∃ program program',
      readProgram definedPrint = .ok program ∧ readProgram redefinedPrint = .ok program' ∧
      ∀ S : Span → Span → Prop, (∀ s, S s s) →
        List.Forall₂ (Expr.Redefined ArePlain S) program program' := by
    refine ⟨_, _, by cbv, by cbv, fun S hS => ?_⟩
    have hplain : ∀ name s, ArePlain [.symbol name s] := by simp [ArePlain, Expr.asSymbol?]
    have hprint : IsNative "print" := ⟨.print, rfl⟩
    refine .cons (.refl hS _) (.cons (.same (.call (.refl hS _) (.cons ?_ .nil) (hS _)) (hS _))
      (.cons (.refl hS _) .nil))
    exact .params rfl hprint (hplain _ _) (hplain _ _) (hS _)
  refine ⟨by decide +kernel, program, program', hread, hread', ?_, ?_⟩
  · exact (natives_irreplaceable 9).1 _ _ globals program program' (.refl (fun _ => rfl) _)
      (hsame _ fun _ => rfl)
  · exact (natives_irreplaceable 9).2 _ _ _ _ (.refl (fun _ => trivial) _)
      (.cons ⟨program, program', hread, hread', hsame _ fun _ => trivial⟩ .nil)

/-- Parameters that are no plain names may not be replaced: a definition with such parameters
fails, and with other ones it does not. -/
theorem natives_replaceable_stringParameter :
    ∃ program program', readProgram "print('a')\x7b\x7d;" = .ok program ∧
      List.Forall₂ (Expr.Redefined (fun _ => True) Eq) program program' ∧
      ¬ Option.Rel (SameResult Eq Eq) ((fresh ⟨5, true⟩ .unbounded).runIn 9 globals program)
        ((fresh ⟨5, true⟩ .unbounded).runIn 9 globals program') := by
  have hread : readProgram "print('a')\x7b\x7d;" = .ok [.definition ⟨"print", ⟨⟨1, 1⟩, ⟨1, 6⟩⟩⟩
      [.string "a" ⟨⟨1, 7⟩, ⟨1, 10⟩⟩] [] ⟨⟨1, 1⟩, ⟨1, 13⟩⟩] := by cbv
  have hplain : ArePlain [.symbol "a" ⟨⟨1, 7⟩, ⟨1, 10⟩⟩] := by simp [ArePlain, Expr.asSymbol?]
  refine ⟨_, [.definition ⟨"print", ⟨⟨1, 1⟩, ⟨1, 6⟩⟩⟩ [.symbol "a" ⟨⟨1, 7⟩, ⟨1, 10⟩⟩] []
    ⟨⟨1, 1⟩, ⟨1, 13⟩⟩], hread, .cons (.params rfl ⟨.print, rfl⟩ trivial hplain rfl) .nil, ?_⟩
  exact fun hrel => absurd (map_isOk_eq hrel) (by decide +kernel)

end Interpreter

end ScopeScript
