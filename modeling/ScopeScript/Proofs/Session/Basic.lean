import ScopeScript.Interpreter
import ScopeScript.Proofs.Eval.Alike
import ScopeScript.Proofs.Eval.Output

/-!
# Sessions

A session runs texts one after the other with one interpreter, and goes on after an error. What
it shows are the results and the output. Evaluations that correspond, and correspond so closely
that related values are equal, show the same in a session. In particular a session that ends
shows the same whatever more steps it is allowed.
-/

namespace ScopeScript

namespace Interpreter

/-- A program is read off the tokens of its text. -/
theorem tokenize_of_readProgram {source : String} {p : List Expr}
    (h : readProgram source = .ok p) : ∃ ts, tokenize source = .ok ts ∧ parse ts = .ok p := by
  rw [readProgram] at h
  cases hts : tokenize source with
  | error e => simp [hts] at h
  | ok ts =>
    refine ⟨ts, rfl, ?_⟩
    rw [hts] at h
    cases hp : parse ts with
    | error e => simp [hp] at h
    | ok q => simpa [hp] using h

/-- The program of a text whose tokens are known. -/
theorem readProgram_of_tokenize {source : String} {ts : List Token} {p : List Expr}
    (hts : tokenize source = .ok ts) (hp : parse ts = .ok p) : readProgram source = .ok p := by
  rw [readProgram, hts]
  simp only [hp]

end Interpreter

variable [SearchContext]

/-- A simulation of evaluations that cannot be told apart: each expression corresponds to itself,
and values and spans that correspond are equal. -/
structure Simulation.Exact (S : Simulation) : Prop where
  expr : ∀ e, S.expr e e
  value : ∀ w v v', S.value w v v' → v = v'
  span : ∀ s s', S.span s s' → s = s'

/-- More steps make no difference. -/
theorem moreSteps_exact : moreSteps.Exact where
  expr _ := rfl
  value _ _ _ hv := (hv.mono fun _ _ => Closure.Lift.eq).eq
  span _ _ := id

namespace Interpreter

/-- How an interpreter runs a text: the result and the interpreter after it, if the run ends. -/
abbrev Runner := Interpreter → (source : String) → Option (Except SourceError Value × Interpreter)

/-- Run a source text in the global scope, its expressions evaluated by `ev`. -/
def runUsing (ev : Evaluator) : Runner := fun i source =>
  match readProgram source with
  | .error e => some (.error e, i)
  | .ok program =>
    ofOutcome i.rules (Eval.flushed (evalSequence ev globals .undefined program) i.machine)

/-- What texts show that are run in order: each result, and the output after it. -/
def session (run : Runner) : Interpreter → (sources : List String) →
    Option (List (Except SourceError Value × Sink))
  | _, [] => some []
  | i, source :: rest =>
    match run i source with
    | none => none
    | some (result, i) => (session run i rest).map ((result, i.machine.sink) :: ·)

/-- The results of texts that are run in order, each with the interpreter after it. -/
def runAll (steps : Nat) : Interpreter → (sources : List String) →
    Option (List (Except SourceError Value × Interpreter))
  | _, [] => some []
  | i, source :: rest =>
    match i.runWithin steps source with
    | none => none
    | some (result, i) => (runAll steps i rest).map ((result, i) :: ·)

/-- What holds at first and is preserved by every run of a text holds after each of several texts.
-/
theorem forall_of_runAll {P : Interpreter → Prop} {steps : Nat}
    (hrun : ∀ {i source run}, P i → i.runWithin steps source = some run → P run.2)
    {i : Interpreter} (hi : P i) {sources : List String}
    {runs : List (Except SourceError Value × Interpreter)}
    (h : runAll steps i sources = some runs) : ∀ run ∈ runs, P run.2 := by
  induction sources generalizing i runs with
  | nil =>
    cases h
    simp
  | cons source rest ih =>
    rw [runAll] at h
    cases hfirst : i.runWithin steps source with
    | none => simp [hfirst] at h
    | some run =>
      rw [hfirst] at h
      obtain ⟨later, hlater, rfl⟩ := Option.map_eq_some_iff.mp h
      have hfirst := hrun hi hfirst
      exact List.forall_mem_cons.mpr ⟨hfirst, ih hfirst hlater⟩

/-- Runs of several texts are related one by one if the runs of single texts are, from interpreters
as they are left by related runs. -/
theorem runAll_rel {I : Interpreter → Interpreter → Prop} {T : String → String → Prop}
    {Q : Except SourceError Value × Interpreter → Except SourceError Value × Interpreter → Prop}
    {steps : Nat} (hrun : ∀ {i i' source source'}, I i i' → T source source' →
      Option.Rel Q (i.runWithin steps source) (i'.runWithin steps source'))
    (hstate : ∀ {run run'}, Q run run' → I run.2 run'.2) {sources sources' : List String}
    (h : List.Forall₂ T sources sources') {i i' : Interpreter} (hi : I i i') :
    Option.Rel (List.Forall₂ Q) (runAll steps i sources) (runAll steps i' sources') := by
  induction h generalizing i i' with
  | nil => exact .some .nil
  | @cons source source' rest rest' hsource _ ih =>
    have hfirst := hrun hi hsource
    rw [runAll, runAll]
    generalize i.runWithin steps source = run? at hfirst
    generalize i'.runWithin steps source' = run?' at hfirst
    cases hfirst with
    | none => exact .none
    | @some run run' hfirst =>
      have hlater := ih (hstate hfirst)
      dsimp only
      generalize runAll steps run.2 rest = runs? at hlater
      generalize runAll steps run'.2 rest' = runs?' at hlater
      cases hlater with
      | none => exact .none
      | some hlater => exact .some (.cons hfirst hlater)

/-- No run changes the rules. -/
theorem rules_of_runUsing {ev : Evaluator} {i j : Interpreter} {source : String}
    {result : Except SourceError Value} (h : i.runUsing ev source = some (result, j)) :
    j.rules = i.rules := by
  rw [runUsing] at h
  cases hread : readProgram source with
  | error e =>
    rw [hread] at h
    cases h
    rfl
  | ok program =>
    rw [hread] at h
    dsimp only at h
    generalize Eval.flushed _ _ = o at h
    cases o <;> cases h <;> rfl

/-- What a run leaves behind: the state as it was if the text cannot be read, and otherwise the one
after the evaluation of its program. -/
theorem machine_of_runUsing {ev : Evaluator} {i j : Interpreter} {source : String}
    {result : Except SourceError Value} (h : i.runUsing ev source = some (result, j)) :
    j.machine = i.machine ∨ ∃ program,
      (evalSequence ev globals .undefined program i.machine).machine? = some j.machine := by
  rw [runUsing] at h
  cases hread : readProgram source with
  | error e =>
    rw [hread] at h
    cases h
    exact .inl rfl
  | ok program =>
    refine .inr ⟨program, Eval.machine?_flushed ?_⟩
    rw [hread] at h
    dsimp only at h
    generalize Eval.flushed _ _ = o at h ⊢
    cases o <;> cases h <;> rfl

/-- The session of an interpreter is the one in which functions are called by its rules. -/
theorem session_runWithin (steps : Nat) (sources : List String) (i : Interpreter) :
    session (fun i => i.runWithin steps) i sources =
      session (runUsing (eval i.rules steps)) i sources := by
  induction sources generalizing i with
  | nil => rfl
  | cons source rest ih =>
    have hrun : i.runWithin steps source = i.runUsing (eval i.rules steps) source := rfl
    rw [session, session, hrun]
    cases h : i.runUsing (eval i.rules steps) source with
    | none => rfl
    | some p => simp only [ih, rules_of_runUsing h]

section Exact

variable {S : Simulation} (hS : S.Exact) {ev ev' : Evaluator} (hev : S.Evaluators ev ev')

include hS hev

/-- A text run by evaluators that correspond exactly has one result. -/
theorem runUsing_related {w : S.World} {i i' j : Interpreter}
    (hm : S.machine w i.machine i'.machine) (hglobals : S.scope w globals globals)
    {source : String} {result : Except SourceError Value}
    (h : i.runUsing ev source = some (result, j)) :
    ∃ w' j', S.Later w w' ∧ i'.runUsing ev' source = some (result, j') ∧
      S.machine w' j.machine j'.machine := by
  rw [runUsing] at h
  rw [runUsing]
  cases hread : readProgram source with
  | error e =>
    rw [hread] at h
    cases h
    exact ⟨w, i', refl w, rfl, hm⟩
  | ok program =>
    have hprogram : List.Forall₂ S.expr program program :=
      List.forall₂_same.mpr fun e _ => hS.expr e
    have hrun := Simulation.flushed_related
      (Simulation.evalSequence_related hev hglobals hprogram .undefined) _ _ hm
    rw [hread] at h
    dsimp only at h ⊢
    generalize Eval.flushed _ i.machine = o at h hrun
    generalize Eval.flushed _ i'.machine = o' at hrun
    cases hrun with
    | unfinished => cases h
    | @done w' v v' m m' hw hm hv =>
      cases h
      obtain rfl := hS.value _ _ _ hv
      exact ⟨w', ⟨i'.rules, m'⟩, hw, rfl, hm⟩
    | @failed w' e e' m m' hw hm he =>
      cases h
      obtain rfl := (he.mono hS.span).eq
      exact ⟨w', ⟨i'.rules, m'⟩, hw, rfl, hm⟩

/-- **A session that ends** shows the same with evaluators that correspond exactly. -/
theorem session_related {w : S.World} {i i' : Interpreter}
    (hm : S.machine w i.machine i'.machine) (hglobals : S.scope w globals globals)
    {sources : List String} {shown : List (Except SourceError Value × Sink)}
    (h : session (runUsing ev) i sources = some shown) :
    session (runUsing ev') i' sources = some shown := by
  induction sources generalizing w i i' shown with
  | nil => exact h
  | cons source rest ih =>
    rw [session] at h ⊢
    cases hrun : i.runUsing ev source with
    | none => simp [hrun] at h
    | some p =>
      obtain ⟨result, j⟩ := p
      rw [hrun] at h
      obtain ⟨later, hlater, rfl⟩ := Option.map_eq_some_iff.mp h
      obtain ⟨w', j', hw, hrun', hm'⟩ := runUsing_related hS hev hm hglobals hrun
      rw [hrun']
      simp only [ih hm' (S.scope_later hw hglobals) hlater, S.sink_eq hm', Option.map_some]

end Exact

/-- More steps do not change what a session shows that ends. -/
theorem session_steps_le {i : Interpreter} {sources : List String} {steps steps' : Nat}
    (hle : steps ≤ steps') {shown : List (Except SourceError Value × Sink)}
    (h : session (fun i => i.runWithin steps) i sources = some shown) :
    session (fun i => i.runWithin steps') i sources = some shown := by
  rw [session_runWithin] at h ⊢
  have hev : moreSteps.Evaluators (eval i.rules steps) (eval i.rules steps') :=
    eval_alike i.rules hle fun hlax => absurd trivial hlax
  have hm : moreSteps.machine () i.machine i.machine := ⟨rfl, rfl, .refl (fun _ => rfl) _⟩
  exact session_related moreSteps_exact hev hm rfl h

end Interpreter

end ScopeScript
