import ScopeScript.Pattern.Library
import ScopeScript.Proofs.Eval.Kept
import ScopeScript.Proofs.Scope.Lexical
import ScopeScript.Proofs.Session.Basic

/-!
# Cycles among scopes

A function that is bound where it was defined leads back there: the scope leads to the scope of the
function, which lies in it. Parents are older than their children, so every cycle goes through a
binding. Clearing a frame takes it off all cycles. What remains are cycles through the global scope
and cycles through frames that calls kept because their results captured them.

The former are alive as long as the interpreter is. The latter are alive as long as something leads
to the frame, and stay behind when nothing does any more: nobody clears a frame later on.
-/

namespace ScopeScript

open Relation

namespace Heap

variable {h : Heap} {i j k : ScopeId}

/-- A scope holds its parent and the scopes of the functions that it binds. -/
theorem holds_iff : h.Holds i j ↔
    h.parent? i = some j ∨ ∃ b ∈ h.bindings i, ∃ f ∈ b.2.closures, f.scope = j := by
  constructor
  · rintro (hp | ⟨hb, hf, hscope⟩)
    · exact .inl hp
    · exact .inr ⟨_, hb, _, hf, hscope⟩
  · rintro (hp | ⟨b, hb, f, hf, hscope⟩)
    · exact .parent hp
    · exact .bound hb hf hscope

instance (h : Heap) (i j : ScopeId) : Decidable (h.Holds i j) := decidable_of_iff' _ holds_iff

/-- A scope lies on a cycle if it leads back to itself. -/
def OnCycle (h : Heap) (i : ScopeId) : Prop := TransGen h.Holds i i

/-- The way to a scope that is not older goes through a binding. -/
theorem lt_or_exists_bindings (hpath : TransGen h.Holds i k) :
    k < i ∨ ∃ j, ReflTransGen h.Holds i j ∧ h.bindings j ≠ [] ∧ TransGen h.Holds j k := by
  have hstep : ∀ {j k}, h.Holds j k → k < j ∨ h.bindings j ≠ [] := by
    rintro j k (hp | ⟨hb, -, -⟩)
    · exact .inl (lt_of_parent? hp)
    · exact .inr (List.ne_nil_of_mem hb)
  induction hpath with
  | single hk => exact (hstep hk).imp_right fun hbound => ⟨i, .refl, hbound, .single hk⟩
  | tail hpath hk ih =>
    obtain hlt | ⟨l, hl, hbound, hpath'⟩ := ih
    · refine (hstep hk).imp (·.trans hlt) fun hbound => ?_
      exact ⟨_, hpath.to_reflTransGen, hbound, .single hk⟩
    · exact .inr ⟨l, hl, hbound, hpath'.tail hk⟩

/-- On every cycle there is a scope with bindings. -/
theorem OnCycle.exists_bindings (hi : h.OnCycle i) :
    ∃ j, h.OnCycle j ∧ h.bindings j ≠ [] ∧ ReflTransGen h.Holds j i := by
  obtain ⟨j, hij, hbound, hji⟩ := (lt_or_exists_bindings hi).resolve_left (lt_irrefl i)
  exact ⟨j, hji.trans_left hij, hbound, hji.to_reflTransGen⟩

end Heap

namespace Interpreter

/-- Where bindings are between runs: in the global scope and in kept frames. -/
structure BoundWithin (kept : ScopeId → Bool) (h : Heap) : Prop where
  globals_lt : globals < h.scopes.size
  kept_of_bindings : ∀ i, h.bindings i ≠ [] → i = globals ∨ kept i = true

variable {kept : ScopeId → Bool} {steps : Nat}

/-- At first all bindings are in the global scope. -/
theorem boundWithin_freshHeap : BoundWithin kept freshHeap where
  globals_lt := by decide +kernel
  kept_of_bindings i hbindings := by
    obtain ⟨b, hb⟩ := List.exists_mem_of_ne_nil _ hbindings
    exact .inl (exists_function_of_freshHeap hb).1

/-- Bindings stay where they may be if an evaluation makes none elsewhere. -/
theorem BoundWithin.of_bindsWithin {h h' : Heap} (hh : BoundWithin kept h)
    (hb : h.BindsWithin kept globals h') : BoundWithin kept h' where
  globals_lt := hh.globals_lt.trans_le hb.footprint.size_le
  kept_of_bindings i hbindings := by
    obtain hlt | hle := Nat.lt_or_ge i h.scopes.size
    · by_cases hglobals : i = globals
      · exact .inl hglobals
      · rw [hb.footprint.bindings i hlt hglobals] at hbindings
        exact hh.kept_of_bindings i hbindings
    · exact .inr (hb.kept_of_bindings i hle hbindings)

section

variable [SearchContext]

/-- A scope is alive after a run: the global scope leads to it, or the value of the run does. -/
def Alive (run : Except SourceError Value × Interpreter) (i : ScopeId) : Prop :=
  ReflTransGen run.2.machine.heap.Holds globals i ∨
    ∃ v, run.1 = .ok v ∧ run.2.machine.heap.Reaches v i

/-- What a living scope leads to is alive. -/
theorem Alive.trans {run : Except SourceError Value × Interpreter} {i j : ScopeId}
    (hi : Alive run i) (hij : ReflTransGen run.2.machine.heap.Holds i j) : Alive run j := by
  obtain hpath | ⟨v, hv, f, hf, hpath⟩ := hi
  · exact .inl (hpath.trans hij)
  · exact .inr ⟨v, hv, f, hf, hpath.trans hij⟩

/-- A session that keeps no frames but those among `kept`: it runs to its end under a check that
stops it wherever the result of a call captures another frame. -/
def KeepsWithin (kept : ScopeId → Bool) (steps : Nat) (i : Interpreter) (sources : List String) :
    Prop :=
  session (runUsing (evalWith (callKeeping kept i.rules) steps)) i sources ≠ none

/-- A run under the check that is not stopped is the run by the rules, and makes no bindings but in
the global scope and in kept frames. -/
theorem runWithin_of_runKeeping {i j : Interpreter} (hclears : i.rules.clearsFrames = true)
    (hi : BoundWithin kept i.machine.heap) {source : String} {result : Except SourceError Value}
    (h : i.runUsing (evalWith (callKeeping kept i.rules) steps) source = some (result, j)) :
    i.runWithin steps source = some (result, j) ∧ BoundWithin kept j.machine.heap := by
  constructor
  · have hm : moreSteps.machine () i.machine i.machine := ⟨rfl, rfl, .refl (fun _ => rfl) _⟩
    obtain ⟨_, j', -, hrun, hmachine⟩ :=
      runUsing_related moreSteps_exact (evalKeeping_related steps) hm rfl h
    have hrules : j'.rules = j.rules :=
      (rules_of_runUsing hrun).trans (rules_of_runUsing h).symm
    obtain rfl : j' = j := by
      cases j
      cases j'
      cases hrules
      cases eq_of_moreSteps hmachine
      rfl
    exact hrun
  · obtain heq | ⟨program, heval⟩ := machine_of_runUsing h
    · rwa [heq]
    · have hprogram : Eval.Keeps (BindsOnly kept globals) (evalSequence
          (evalWith (callKeeping kept i.rules) steps) globals .undefined program) :=
        evalSequence_keeps (fun e _ => evalKeeping_bindsOnly hclears steps e globals) .undefined
      exact hi.of_bindsWithin (hprogram _ _ heval hi.globals_lt)

/-- A session that keeps only some frames runs to its end and binds in no others. -/
theorem exists_runs_of_keepsWithin {i : Interpreter} (hclears : i.rules.clearsFrames = true)
    (hi : BoundWithin kept i.machine.heap) {sources : List String}
    (h : KeepsWithin kept steps i sources) :
    ∃ runs, runAll steps i sources = some runs ∧
      ∀ run ∈ runs, BoundWithin kept run.2.machine.heap := by
  induction sources generalizing i with
  | nil => exact ⟨[], rfl, by simp⟩
  | cons source rest ih =>
    rw [KeepsWithin, session] at h
    cases hrun : i.runUsing (evalWith (callKeeping kept i.rules) steps) source with
    | none => simp [hrun] at h
    | some run =>
      obtain ⟨result, j⟩ := run
      have hrules := rules_of_runUsing hrun
      obtain ⟨hwithin, hj⟩ := runWithin_of_runKeeping hclears hi hrun
      have hrest : KeepsWithin kept steps j rest := by
        rw [KeepsWithin, hrules]
        rw [hrun] at h
        simpa using h
      obtain ⟨runs, hruns, hall⟩ := ih (hrules ▸ hclears) hj hrest
      refine ⟨(result, j) :: runs, ?_, List.forall_mem_cons.mpr ⟨hj, hall⟩⟩
      rw [runAll, hwithin]
      exact congrArg (Option.map ((result, j) :: ·)) hruns

/-- **Cycles left behind.** After every run of a session that keeps no frames but those among
`kept`, all bindings are in the global scope and in these, and every cycle is alive if and only if
the ones through these are. -/
theorem cycles_alive_iff (maxDepth : Nat) (sink : Sink) (sources : List String)
    (h : KeepsWithin kept steps (fresh ⟨maxDepth, true⟩ sink) sources) :
    ∃ runs, runAll steps (fresh ⟨maxDepth, true⟩ sink) sources = some runs ∧ ∀ run ∈ runs,
      (∀ i, run.2.machine.heap.bindings i ≠ [] → i = globals ∨ kept i = true) ∧
      ((∀ i, run.2.machine.heap.OnCycle i → Alive run i) ↔
        ∀ i, kept i = true → run.2.machine.heap.OnCycle i → Alive run i) := by
  obtain ⟨runs, hruns, hall⟩ := exists_runs_of_keepsWithin rfl boundWithin_freshHeap h
  refine ⟨runs, hruns, fun run hrun => ?_⟩
  have hbound := (hall run hrun).kept_of_bindings
  refine ⟨hbound, fun halive i _ => halive i, fun halive i hi => ?_⟩
  obtain ⟨j, hj, hbindings, hji⟩ := hi.exists_bindings
  obtain rfl | hkept := hbound j hbindings
  · exact .inl hji
  · exact (halive j hkept hj).trans hji

end

/-- A function that defines a function and calls it, and a call of it. -/
def localFunction : String :=
  "outer() \x7b inner() \x7b 'a'; \x7d; inner(); \x7d; outer();"

/-- A function that returns a function, a call of it, and then nothing that leads to the result. -/
def droppedFunction : List String :=
  ["make() \x7b get() \x7b 'a'; \x7d; \x7d; g = make();", "g = 'b';"]

/-- The session of the first program keeps no frame, so all its cycles are alive. In the other
session one frame is kept. -/
theorem cycles_alive_iff_localFunction :
    (KeepsWithin (fun _ => false) 9 (fresh ⟨5, true⟩ .unbounded) [localFunction] ∧
      ∃ runs, runAll 9 (fresh ⟨5, true⟩ .unbounded) [localFunction] = some runs ∧
        ∀ run ∈ runs, ∀ i, run.2.machine.heap.OnCycle i → Alive run i) ∧
    KeepsWithin (· == 9) 9 (fresh ⟨5, true⟩ .unbounded) droppedFunction ∧
      ∃ runs, runAll 9 (fresh ⟨5, true⟩ .unbounded) droppedFunction = some runs ∧
        ∀ run ∈ runs, ((∀ i, run.2.machine.heap.OnCycle i → Alive run i) ↔
          (run.2.machine.heap.OnCycle 9 → Alive run 9)) := by
  have hkept : ∀ {kept sources}, (session (runUsing (evalWith (callKeeping kept ⟨5, true⟩) 9))
      (fresh ⟨5, true⟩ .unbounded) sources).isSome →
        KeepsWithin kept 9 (fresh ⟨5, true⟩ .unbounded) sources := Option.isSome_iff_ne_none.mp
  have hlocal : KeepsWithin (fun _ => false) 9 (fresh ⟨5, true⟩ .unbounded) [localFunction] :=
    hkept (by decide +kernel)
  have hdropped : KeepsWithin (· == 9) 9 (fresh ⟨5, true⟩ .unbounded) droppedFunction :=
    hkept (by decide +kernel)
  obtain ⟨runs, hruns, hall⟩ := cycles_alive_iff 5 .unbounded _ hlocal
  obtain ⟨runs', hruns', hall'⟩ := cycles_alive_iff 5 .unbounded _ hdropped
  refine ⟨⟨hlocal, runs, hruns, fun run hrun => ?_⟩, hdropped, runs', hruns', fun run hrun => ?_⟩
  · exact (hall run hrun).2.mpr (by simp)
  · exact (hall' run hrun).2.trans (by simp)

/-- A run has left a cycle of the scopes `i` and `j` behind: its value has no functions, and what
the older scopes lead to is older too. -/
def LeavesBehind [SearchContext] (run : Except SourceError Value × Interpreter)
    (i j : ScopeId) : Prop :=
  let h := run.2.machine.heap
  (h.Holds i j ∧ h.Holds j i) ∧ (∀ v ∈ run.1.toOption, v.closures.isEmpty) ∧ 0 < i ∧
    ∀ k < i, (∀ p ∈ h.parent? k, p < i) ∧ ∀ b ∈ h.bindings k, ∀ f ∈ b.2.closures, f.scope < i

instance [SearchContext] (run : Except SourceError Value × Interpreter) (i j : ScopeId) :
    Decidable (LeavesBehind run i j) :=
  inferInstanceAs (Decidable (_ ∧ _ ∧ _ ∧ _))

/-- Scopes that a run leaves behind are on a cycle, and nothing leads to them. -/
theorem not_alive_of_leavesBehind [SearchContext] {run : Except SourceError Value × Interpreter}
    {i j : ScopeId}
    (h : LeavesBehind run i j) : run.2.machine.heap.OnCycle i ∧ ¬ Alive run i := by
  obtain ⟨⟨hij, hji⟩, hvalue, hpos, hclosed⟩ := h
  have holder : ∀ k ∈ {k | k < i}, ∀ l, run.2.machine.heap.Holds k l → l ∈ {k | k < i} := by
    intro k hk l hl
    obtain hp | ⟨b, hb, f, hf, rfl⟩ := Heap.holds_iff.mp hl
    · exact (hclosed k hk).1 l hp
    · exact (hclosed k hk).2 b hb f hf
  refine ⟨.tail (.single hij) hji, ?_⟩
  rintro (hpath | ⟨v, hv, f, hf, -⟩)
  · exact lt_irrefl i (Heap.mem_of_path holder hpos hpath)
  · have hempty := hvalue v (by simp [hv, Except.toOption])
    rw [List.isEmpty_iff.mp hempty] at hf
    cases hf

/-- A cycle may be left behind: the frame of `make` and the scope of `get` lead to each other, and
nothing else leads to them once `g` means something else. -/
theorem not_cycles_alive :
    ¬ ∀ maxDepth sink sources steps runs,
      runAll steps (fresh ⟨maxDepth, true⟩ sink) sources = some runs →
        ∀ run ∈ runs, ∀ i, run.2.machine.heap.OnCycle i → Alive run i := by
  intro halive
  have hcheck : (runAll 9 (fresh ⟨5, true⟩ .unbounded) droppedFunction).any
      (·.any fun run => decide (LeavesBehind run 9 10)) := by
    decide +kernel
  cases hruns : runAll 9 (fresh ⟨5, true⟩ .unbounded) droppedFunction with
  | none => simp [hruns] at hcheck
  | some runs =>
    rw [hruns] at hcheck
    obtain ⟨run, hrun, hleft⟩ := List.any_eq_true.mp hcheck
    obtain ⟨hcycle, hdead⟩ := not_alive_of_leavesBehind (of_decide_eq_true hleft)
    exact hdead (halive 5 .unbounded _ 9 runs hruns run hrun 9 hcycle)

end Interpreter

end ScopeScript
