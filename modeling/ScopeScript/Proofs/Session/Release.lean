import ScopeScript.Pattern.Library
import ScopeScript.Proofs.Eval.Release
import ScopeScript.Proofs.Session.Basic

/-!
# When clearing frames can be observed

Sessions of two interpreters that differ in whether a call clears its frame. They show the same
as long as no call loses its frame, that is, returns a value that reaches the frame without
capturing it and finds something bound there. A function held in a binding of another function
is such a value. In that case the sessions can differ: a name of the inner function that means
a local of the call means an outer variable once the frame is cleared.
-/

namespace ScopeScript

namespace Heap

/-- All functions that are bound have their scopes in the heap. -/
def Closed (h : Heap) : Prop := ∀ i j, h.Holds i j → j < h.scopes.size

namespace Closed

variable {h : Heap}

/-- Nothing is bound in the empty heap. -/
theorem empty : Heap.empty.Closed := by
  intro i j hj
  have hi : Heap.empty.scopes.size ≤ i := Nat.zero_le i
  cases hj with
  | parent hp => simp [parent?_of_le hi] at hp
  | bound hb => simp [bindings_of_le hi] at hb

variable (hclosed : h.Closed)

include hclosed

/-- A new root leaves the heap closed. -/
theorem newRoot : h.newRoot.1.Closed := by
  intro i j hj
  cases hj with
  | parent hp => exact lt_size_of_parent? hp
  | bound hb hf hscope =>
    rw [bindings_newRoot] at hb
    have hlt := hclosed i j (.bound hb hf hscope)
    rw [size_newRoot]
    exact Nat.lt_succ_of_lt hlt

/-- A heap stays closed when functions are bound whose scopes are there. -/
theorem bind {v : Value} (hv : ∀ f ∈ v.closures, f.scope < h.scopes.size) (i : ScopeId)
    (name : String) : (h.bind i name v).Closed := by
  intro j k hk
  rw [size_bind]
  cases hk with
  | parent hp => exact lt_size_of_parent? (by simpa using hp)
  | bound hb hf hscope =>
    obtain rfl | hb := mem_bindings_bind hb
    · exact hscope ▸ hv _ hf
    · exact hclosed j k (.bound hb hf hscope)

/-- In a closed heap all scopes may be live. -/
theorem agreeOn : h.AgreeOn {i | i < h.scopes.size} h where
  size_eq := rfl
  parent?_eq _ := rfl
  bindings_eq _ _ := rfl
  lt_size _ hi := hi
  closed i _ j hj := hclosed i j hj

end Closed

end Heap

namespace Interpreter

/-- In a fresh interpreter every function has its scope in the heap. -/
theorem closed_freshHeap : freshHeap.Closed := by
  have hfold : ∀ (names : List String) (h : Heap), h.Closed →
      (names.foldl bindBuiltin h).Closed := by
    intro names
    induction names with
    | nil => exact fun _ => id
    | cons name rest ih =>
      intro h hclosed
      refine ih _ (hclosed.newRoot.bind (fun f hf => ?_) globals name)
      rw [Value.closures, List.mem_singleton] at hf
      simp [hf, Heap.newRoot, Heap.push]
  exact hfold _ _ Heap.Closed.empty.newRoot

section

variable [SearchContext]

/-- A session loses no frame: it runs to its end under a check that stops it wherever a frame
is lost. -/
def LosesNoFrame (maxDepth : Nat) (sink : Sink) (sources : List String) : Prop :=
  ∃ lost steps, (∀ h frame v, Heap.Loses h frame v → lost h frame v = true) ∧
    session (runUsing (evalWith (callUnless lost maxDepth) steps))
      (fresh ⟨maxDepth, false⟩ sink) sources ≠ none

/-- Functions that are retained are equal, and so is all that is shown of them. -/
theorem retention_exact : retention.Exact where
  expr _ := rfl
  value _ _ _ hv := (Heap.lift_live_iff.mp hv).1
  span _ _ := id

/-- A session that loses no frame shows the same by the rules, whether frames are cleared or
not, and ends. -/
theorem session_of_losesNoFrame {maxDepth : Nat} {sink : Sink} {sources : List String}
    (hkept : LosesNoFrame maxDepth sink sources) :
    ∃ shown steps, ∀ clears, session (fun i => i.runWithin steps)
      (fresh ⟨maxDepth, clears⟩ sink) sources = some shown := by
  obtain ⟨lost, steps, hlost, hends⟩ := hkept
  obtain ⟨shown, hshown⟩ := Option.ne_none_iff_exists'.mp hends
  refine ⟨shown, steps, fun clears => ?_⟩
  have hev := evalUnless_related hlost maxDepth (le_refl steps) clears
  have hm : retention.machine {i | i < freshHeap.scopes.size}
      (fresh ⟨maxDepth, false⟩ sink).machine (fresh ⟨maxDepth, clears⟩ sink).machine :=
    ⟨rfl, rfl, closed_freshHeap.agreeOn⟩
  have hglobals : globals < freshHeap.scopes.size := by decide +kernel
  rw [session_runWithin]
  exact session_related retention_exact hev hm ⟨rfl, hglobals⟩ hshown

/-- **When clearing frames goes unnoticed.** Leaving a call leaves all bindings that the result
reaches as they were exactly if it does not lose the frame, and a session that loses no frame
shows the same results and the same output whether frames are cleared or not. -/
theorem clearing_unobservable (maxDepth : Nat) (sink : Sink) (sources : List String) :
    (∀ (m : Machine) frame v, (∀ i, m.heap.Reaches v i →
      (m.leave frame (!m.heap.captures frame v)).heap.bindings i = m.heap.bindings i) ↔
      ¬ m.heap.Loses frame v) ∧
    (LosesNoFrame maxDepth sink sources →
      ∀ steps steps' shown shown',
        session (fun i => i.runWithin steps) (fresh ⟨maxDepth, true⟩ sink) sources = some shown →
        session (fun i => i.runWithin steps') (fresh ⟨maxDepth, false⟩ sink) sources =
          some shown' → shown = shown') := by
  refine ⟨bindings_leave_iff, fun hkept steps steps' shown shown' h h' => ?_⟩
  obtain ⟨expected, enough, hends⟩ := session_of_losesNoFrame hkept
  -- Both sessions are compared with the one that ends, at the larger number of steps.
  have hcleared : some shown = some expected :=
    (session_steps_le (le_max_left steps enough) h).symm.trans
      (session_steps_le (le_max_right steps enough) (hends true))
  have hkept : some shown' = some expected :=
    (session_steps_le (le_max_left steps' enough) h').symm.trans
      (session_steps_le (le_max_right steps' enough) (hends false))
  exact (Option.some.inj hcleared).trans (Option.some.inj hkept).symm

end

/-- A program in which a call of `keep` returns a function that captures its frame. -/
def returnedFunction : String :=
  "keep(x) \x7b get() \x7b x; \x7d; get; \x7d; g = keep('a'); g();"

/-- A check that objects to every function that does not capture the frame. -/
def returnsFunction (h : Heap) (frame : ScopeId) (v : Value) : Bool :=
  !v.closures.isEmpty && !h.captures frame v

/-- The session of the program above shows the same in both interpreters. -/
theorem clearing_unobservable_returnedFunction :
    ∃ shown shown',
      session (fun i => i.runWithin 9) (fresh ⟨5, true⟩ .unbounded) [returnedFunction] =
        some shown ∧
      session (fun i => i.runWithin 9) (fresh ⟨5, false⟩ .unbounded) [returnedFunction] =
        some shown' ∧ shown = shown' := by
  have hkept : LosesNoFrame 5 .unbounded [returnedFunction] := by
    refine ⟨returnsFunction, 9, fun h frame v hlost => ?_, ?_⟩
    · obtain ⟨⟨f, hf, -⟩, hcaptures, -⟩ := hlost
      have hne : v.closures ≠ [] := List.ne_nil_of_mem hf
      simp [returnsFunction, hcaptures, hne]
    · have hends : (session (runUsing (evalWith (callUnless returnsFunction 5) 9))
          (fresh ⟨5, false⟩ .unbounded) [returnedFunction]).isSome := by decide +kernel
      exact Option.isSome_iff_ne_none.mp hends
  have hcleared : (session (fun i => i.runWithin 9) (fresh ⟨5, true⟩ .unbounded)
      [returnedFunction]).isSome := by decide +kernel
  have hretained : (session (fun i => i.runWithin 9) (fresh ⟨5, false⟩ .unbounded)
      [returnedFunction]).isSome := by decide +kernel
  obtain ⟨shown, hshown⟩ := Option.isSome_iff_exists.mp hcleared
  obtain ⟨shown', hshown'⟩ := Option.isSome_iff_exists.mp hretained
  exact ⟨shown, shown', hshown, hshown',
    (clearing_unobservable 5 .unbounded _).2 hkept 9 9 shown shown' hshown hshown'⟩

/-- A program in which `outer` returns a function that holds the function `inner` in a binding.
The name `x` in `inner` means the local of `outer`. -/
def heldFunction : String :=
  "x = 'b'; hold(fn) \x7b get() \x7b fn; \x7d; get; \x7d; " ++
    "outer() \x7b x = 'a'; inner() \x7b x; \x7d; hold(inner); \x7d; " ++
    "g = outer(); i = g(); i();"

/-- Clearing frames can be observed: the name in `inner` comes to mean the global variable. -/
theorem clearing_observable_heldFunction :
    ¬ ∀ maxDepth sink sources steps steps' shown shown',
      session (fun i => i.runWithin steps) (fresh ⟨maxDepth, true⟩ sink) sources = some shown →
      session (fun i => i.runWithin steps') (fresh ⟨maxDepth, false⟩ sink) sources = some shown' →
        shown = shown' := by
  intro hsame
  have hcleared : (session (fun i => i.runWithin 9) (fresh ⟨5, true⟩ .unbounded)
      [heldFunction]).map (·.map fun p => p.1.toOption.map Value.text) = some [some "b"] := by
    decide +kernel
  have hretained : (session (fun i => i.runWithin 9) (fresh ⟨5, false⟩ .unbounded)
      [heldFunction]).map (·.map fun p => p.1.toOption.map Value.text) = some [some "a"] := by
    decide +kernel
  obtain ⟨shown, hshown, htexts⟩ := Option.map_eq_some_iff.mp hcleared
  obtain ⟨shown', hshown', htexts'⟩ := Option.map_eq_some_iff.mp hretained
  rw [hsame 5 .unbounded [heldFunction] 9 9 shown shown' hshown hshown', htexts'] at htexts
  exact absurd htexts (by decide)

end Interpreter

end ScopeScript
