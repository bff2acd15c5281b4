import ScopeScript.Pattern.Library
import ScopeScript.Proofs.Eval.Termination
import ScopeScript.Proofs.Scope.Lexical
import ScopeScript.Proofs.Session.Basic

/-!
# Sessions without loops

A session ends if none of its texts names the loop form, whatever its functions call and however
they are passed on. How many steps suffice is known beforehand: as many as the highest statement
has nodes on a path, for every call that may be in progress and once more.
-/

namespace ScopeScript.Interpreter

open ScopeScript.Expr Eval

/-- No token of a text is the name of the loop form. -/
def NamesNoLoop (source : String) : Prop :=
  ∀ ts, tokenize source = .ok ts → ¬ NamedBy ts loopName

/-- The height of the highest statement of a text. -/
def programHeight (source : String) : Nat :=
  match readProgram source with
  | .ok p => heightAll p
  | .error _ => 0

/-- The height of the highest statement of several texts. -/
def sessionHeight : (sources : List String) → Nat
  | [] => 0
  | source :: rest => max (programHeight source) (sessionHeight rest)

/-- No text is higher than the session. -/
theorem programHeight_le {source : String} {sources : List String} (h : source ∈ sources) :
    programHeight source ≤ sessionHeight sources := by
  induction h with
  | head rest => exact Nat.le_max_left _ _
  | tail s _ ih => exact ih.trans (Nat.le_max_right _ _)

section

variable [SearchContext]

/-- A fresh interpreter has no functions but the builtins, each under its own name. -/
theorem loopFree_fresh (height : Nat) (rules : Rules) (sink : Sink) :
    (fresh rules sink).machine.LoopFree height 0 := by
  refine ⟨rfl, fun i name v hv hname => ?_⟩
  obtain ⟨rfl, -⟩ := exists_function_of_freshHeap hv
  change (name, v) ∈ freshHeap.bindings globals at hv
  rw [bindings_freshHeap] at hv
  obtain ⟨p, -, hp⟩ := List.mem_map.mp hv
  cases hp
  intro f hf
  obtain rfl := List.mem_singleton.mp hf
  exact ⟨hname, by simp⟩

/-- A computation that ends does so when it is flushed. -/
theorem flushed_terminates {height depth : Nat} {V : Value → Prop} {x : Eval Value}
    (hx : Terminates height depth V x) : Terminates height depth V x.flushed := by
  have hflush : Terminates height depth (fun _ => True) Eval.flush := by
    intro m hm
    rw [Eval.flush]
    split
    · exact .failed hm
    · exact .done trivial hm
  intro m hm
  have hxm := hx m hm
  rw [Eval.flushed]
  generalize x m = o at hxm
  cases hxm with
  | done hv hm' => exact hflush.bind (fun _ _ => .pure hv) _ hm'
  | failed hm' => exact hflush.bind (fun _ _ _ hm => .failed hm) _ hm'

/-- The program of a text that names no loop ends. -/
theorem evalProgram_terminates {height : Nat} (rules : Rules) {source : String} {p : List Expr}
    (hread : readProgram source = .ok p) (hsource : NamesNoLoop source)
    (hheight : heightAll p ≤ height) {steps : Nat} (hsteps : (rules.maxDepth + 1) * height ≤ steps)
    (env : ScopeId) :
    Terminates height 0 (Value.LoopFree height) (evalProgram rules steps p env) := by
  obtain ⟨ts, hts, hparse⟩ := tokenize_of_readProgram hread
  refine evalSequence_terminates env fun e he => ?_
  have hname : loopName ∉ e.names := fun h => hsource ts hts (namedBy_of_parse hparse he h)
  have hle := (height_le_heightAll he).trans hheight
  rw [Nat.succ_mul] at hsteps
  exact eval_terminates rules hname hle (by rw [Nat.sub_zero]; omega) env

/-- What is left behind by a run of a text that names no loop: it ends, and there are still no
loops. -/
structure RunEnds (height : Nat) (rules : Rules)
    (run : Except SourceError Value × Interpreter) : Prop where
  rules_eq : run.2.rules = rules
  machine : run.2.machine.LoopFree height 0
  value : ∀ v, run.1 = .ok v → v.LoopFree height

/-- The run of a text that names no loop ends. -/
theorem exists_run {height : Nat} {i : Interpreter} (hi : i.machine.LoopFree height 0)
    {source : String} (hsource : NamesNoLoop source) (hheight : programHeight source ≤ height)
    {steps : Nat} (hsteps : (i.rules.maxDepth + 1) * height ≤ steps) :
    ∃ run, i.runWithin steps source = some run ∧ RunEnds height i.rules run := by
  rw [runWithin]
  rw [programHeight] at hheight
  cases hread : readProgram source with
  | error e => exact ⟨_, rfl, rfl, hi, by simp⟩
  | ok p =>
    obtain ⟨rules, m⟩ := i
    rw [hread] at hheight
    have hrun := flushed_terminates
      (evalProgram_terminates rules hread hsource hheight hsteps globals) m hi
    dsimp only
    rw [runProgram]
    generalize Eval.flushed _ m = o at hrun
    cases hrun with
    | done hv hm =>
      refine ⟨_, rfl, rfl, hm, ?_⟩
      rintro _ ⟨⟩
      exact hv
    | failed hm => exact ⟨_, rfl, rfl, hm, by simp⟩

/-- Runs of texts that name no loop, one after the other. -/
theorem exists_runs {height : Nat} {i : Interpreter} (hi : i.machine.LoopFree height 0)
    {sources : List String} (hsources : ∀ s ∈ sources, NamesNoLoop s ∧ programHeight s ≤ height)
    {steps : Nat} (hsteps : (i.rules.maxDepth + 1) * height ≤ steps) :
    ∃ runs, runAll steps i sources = some runs ∧
      runs.length = sources.length ∧ ∀ run ∈ runs, RunEnds height i.rules run := by
  induction sources generalizing i with
  | nil => exact ⟨[], rfl, rfl, by simp⟩
  | cons source rest ih =>
    obtain ⟨⟨hsource, hheight⟩, hrest⟩ := List.forall_mem_cons.mp hsources
    obtain ⟨⟨result, j⟩, hrun, hends⟩ := exists_run hi hsource hheight hsteps
    have hrules : j.rules = i.rules := hends.rules_eq
    obtain ⟨runs, hruns, hlength, hall⟩ := ih hends.machine hrest (hrules ▸ hsteps)
    rw [hrules] at hall
    refine ⟨(result, j) :: runs, ?_, by simp [hlength], List.forall_mem_cons.mpr ⟨hends, hall⟩⟩
    rw [runAll, hrun]
    exact congrArg (Option.map ((result, j) :: ·)) hruns

/-- **Sessions without loops end.** If no text names the loop form, all texts run to the end one
after the other, each with a value or with an error, within a number of steps that depends on the
limit on calls and on the height of the statements alone. No function that is returned, or bound to
a name that the texts may use, is the loop form. -/
theorem session_terminates (rules : Rules) (sink : Sink) (sources : List String)
    (hsources : ∀ s ∈ sources, NamesNoLoop s) {steps : Nat}
    (hsteps : (rules.maxDepth + 1) * sessionHeight sources ≤ steps) :
    ∃ runs, runAll steps (fresh rules sink) sources = some runs ∧
      runs.length = sources.length ∧ ∀ run ∈ runs, RunEnds (sessionHeight sources) rules run :=
  exists_runs (loopFree_fresh _ rules sink)
    (fun s hs => ⟨hsources s hs, programHeight_le hs⟩) hsteps

end

/-- A function under another name that calls itself, and a builtin under another name. -/
def endlessCalls : List String :=
  ["p = print; choose = if; f(x) \x7b p(x); choose(x, g(x), 1); \x7d; g = f;", "g('a');"]

/-- Calls without end are refused, and both texts run to the end. -/
theorem session_terminates_endlessCalls :
    (∀ s ∈ endlessCalls, NamesNoLoop s) ∧
    ∃ runs, runAll 20 (fresh ⟨3, true⟩ .unbounded) endlessCalls =
        some runs ∧
      runs.length = 2 ∧ ∀ run ∈ runs, RunEnds (sessionHeight endlessCalls) ⟨3, true⟩ run := by
  have hnames : ∀ s ∈ endlessCalls, ((tokenize s).toOption.getD []).all
      (fun t => t.lexeme != loopName) = true := by decide +kernel
  have hsources : ∀ s ∈ endlessCalls, NamesNoLoop s := by
    rintro s hs ts hts ⟨t, ht, -, hlexeme⟩
    have hall := hnames s hs
    rw [hts] at hall
    have hne := List.all_eq_true.mp hall t ht
    simp [hlexeme] at hne
  have hsteps : (3 + 1) * sessionHeight endlessCalls ≤ 20 := by decide +kernel
  exact ⟨hsources, session_terminates ⟨3, true⟩ .unbounded endlessCalls hsources hsteps⟩

end ScopeScript.Interpreter
