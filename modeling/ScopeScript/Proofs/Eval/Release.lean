import ScopeScript.Proofs.Eval.Footprint
import ScopeScript.Proofs.Eval.Simulation
import ScopeScript.Proofs.Scope.Reach

/-!
# Clearing frames

Evaluation with frames that are cleared when a call returns, beside evaluation with frames that
are kept. The two work on different heaps, which agree on the live scopes: those of the running
evaluation and all that these lead to. A frame leaves the live scopes when its call returns,
unless the result reaches it. If every result that reaches its frame captures it, or finds
nothing bound there, clearing touches no live scope, and the two evaluations cannot be told
apart.

The evaluation that the comparison starts from keeps all frames and stops where a call would
lose its frame. Whatever it computes is computed by both.
-/

namespace ScopeScript

/-! ## Heaps that agree on the live scopes -/

namespace Heap

/-- Heaps of one shape with the same bindings in the scopes of `L`, which lead nowhere else. -/
structure AgreeOn (L : Set ScopeId) (h h' : Heap) : Prop where
  size_eq : h.scopes.size = h'.scopes.size
  parent?_eq : ∀ i, h.parent? i = h'.parent? i
  bindings_eq : ∀ i ∈ L, h.bindings i = h'.bindings i
  lt_size : ∀ i ∈ L, i < h.scopes.size
  closed : ∀ i ∈ L, ∀ j, h.Holds i j → j ∈ L

/-- Functions that are equal and live. -/
abbrev LiveClosure (L : Set ScopeId) : Closure → Closure → Prop :=
  Closure.Lift Eq fun i i' => i = i' ∧ i ∈ L

/-- Functions that are equal and live are equal. -/
theorem LiveClosure.eq {L : Set ScopeId} {f f' : Closure} (hf : LiveClosure L f f') : f = f' := by
  obtain ⟨name, params, body, scope⟩ := f
  obtain ⟨hname, hparams, hbody, hscope, -⟩ := hf
  cases f'
  simp_all

/-- A live value is equal to the one that it corresponds to, and its functions are live. -/
theorem lift_live_iff {L : Set ScopeId} {v v' : Value} :
    Value.Lift (LiveClosure L) v v' ↔ v = v' ∧ ∀ f ∈ v.closures, f.scope ∈ L := by
  have hself : (∀ f ∈ v.closures, LiveClosure L f f) ↔ ∀ f ∈ v.closures, f.scope ∈ L :=
    forall₂_congr fun f _ => ⟨fun hf => hf.scope.2, fun hf => ⟨rfl, rfl, by simp, rfl, hf⟩⟩
  constructor
  · intro hv
    obtain rfl := (hv.mono fun _ _ => LiveClosure.eq).eq
    exact ⟨rfl, hself.mp ((Value.lift_self_iff v).mp hv)⟩
  · rintro ⟨rfl, hlive⟩
    exact (Value.lift_self_iff v).mpr (hself.mpr hlive)

namespace AgreeOn

variable {L L' : Set ScopeId} {h h' : Heap} (ha : AgreeOn L h h') {i : ScopeId}

include ha

/-- Fewer scopes may be live, as long as they lead nowhere else. -/
theorem restrict (hsub : L' ⊆ L) (hclosed : ∀ i ∈ L', ∀ j, h.Holds i j → j ∈ L') :
    AgreeOn L' h h' where
  size_eq := ha.size_eq
  parent?_eq := ha.parent?_eq
  bindings_eq i hi := ha.bindings_eq i (hsub hi)
  lt_size i hi := ha.lt_size i (hsub hi)
  closed := hclosed

/-- Names mean the same in a live scope, and their values are live. -/
theorem lookup? (hi : i ∈ L) (name : String) :
    Option.Rel (Value.Lift (LiveClosure L)) (h.lookup? i name) (h'.lookup? i name) := by
  induction i using Nat.strong_induction_on with
  | _ i ih =>
    rw [lookup?_eq h, lookup?_eq h', ← ha.bindings_eq i hi, ← ha.parent?_eq i]
    cases hget : Scope.get? name (h.bindings i) with
    | some v =>
      refine .some (lift_live_iff.mpr ⟨rfl, fun f hf => ?_⟩)
      exact ha.closed i hi _ (.bound (Scope.mem_of_get? hget) hf rfl)
    | none =>
      cases hp : h.parent? i with
      | none => exact .none
      | some p => exact ih p (lt_of_parent? hp) (ha.closed i hi p (.parent hp))

/-- Heaps still agree when a live value is bound in a live scope. -/
theorem bind (hi : i ∈ L) {v : Value} (hv : ∀ f ∈ v.closures, f.scope ∈ L) (name : String) :
    AgreeOn L (h.bind i name v) (h'.bind i name v) where
  size_eq := by simpa using ha.size_eq
  parent?_eq j := by simpa using ha.parent?_eq j
  bindings_eq j hj := by
    by_cases hne : j = i
    · have hlt := ha.lt_size i hi
      rw [hne, bindings_bind_self hlt, bindings_bind_self (ha.size_eq ▸ hlt), ha.bindings_eq i hi]
    · rw [bindings_bind_of_ne hne, bindings_bind_of_ne hne, ha.bindings_eq j hj]
  lt_size j hj := by simpa using ha.lt_size j hj
  closed j hj k hk := by
    cases hk with
    | parent hp => exact ha.closed j hj k (.parent (by simpa using hp))
    | bound hb hf hscope =>
      obtain rfl | hb := mem_bindings_bind hb
      · exact hscope ▸ hv _ hf
      · exact ha.closed j hj k (.bound hb hf hscope)

/-- A scope made in a live one is live. -/
theorem newChild (hi : i ∈ L) :
    AgreeOn (insert h.scopes.size L) (h.newChild i).1 (h'.newChild i).1 where
  size_eq := by simpa using ha.size_eq
  parent?_eq j := by
    by_cases hj : j = h.scopes.size
    · have hlt := ha.lt_size i hi
      have hparent' := parent?_newChild_self (ha.size_eq ▸ hlt : i < h'.scopes.size)
      rw [hj, parent?_newChild_self hlt, ha.size_eq, hparent']
    · rw [parent?_newChild_of_ne hj, parent?_newChild_of_ne (ha.size_eq ▸ hj), ha.parent?_eq j]
  bindings_eq j hj := by
    rw [bindings_newChild, bindings_newChild]
    obtain rfl | hj := hj
    · rw [bindings_of_le le_rfl, bindings_of_le ha.size_eq.ge]
    · exact ha.bindings_eq j hj
  lt_size j hj := by
    rw [size_newChild]
    obtain rfl | hj := hj
    · exact Nat.lt_succ_self _
    · exact (ha.lt_size j hj).trans (Nat.lt_succ_self _)
  closed j hj k hk := by
    obtain rfl | hj := hj
    · cases hk with
      | parent hp => exact .inr (parent?_newChild_eq hp ▸ hi)
      | bound hb => simp [bindings_of_le le_rfl] at hb
    · have hne := (ha.lt_size j hj).ne
      exact .inr (ha.closed j hj k (hk.congr (parent?_newChild_of_ne hne).symm (by simp)))

/-- Clearing goes unnoticed in a scope that is not live or has no bindings. -/
theorem clear_right (hempty : i ∈ L → h.bindings i = []) : AgreeOn L h (h'.clear i) where
  size_eq := by simpa using ha.size_eq
  parent?_eq j := by simpa using ha.parent?_eq j
  bindings_eq j hj := by
    by_cases hne : j = i
    · subst hne
      rw [bindings_clear_self, hempty hj]
    · rw [bindings_clear_of_ne hne, ha.bindings_eq j hj]
  lt_size := ha.lt_size
  closed := ha.closed

/-- What was live leads nowhere else after an evaluation that leaves it untouched. -/
theorem closed_of_untouched {h₁ : Heap} (hu : h.Untouched h₁) :
    ∀ i ∈ L, ∀ j, h₁.Holds i j → j ∈ L := by
  intro i hi j hj
  have hlt := ha.lt_size i hi
  exact ha.closed i hi j (hj.congr (hu.parent? i hlt).symm (hu.bindings i hlt).symm)

/-- A live value captures the same scopes in both heaps. -/
theorem captures_eq (frame : ScopeId) (v : Value) : h.captures frame v = h'.captures frame v := by
  have hv : Value.Lift Eq v v := (Value.lift_self_iff v).mpr fun _ _ => rfl
  refine captures_congr (fun f f' hf => ?_) hv
  rw [hf, isWithin_congr ha.size_eq ha.parent?_eq]

end AgreeOn

end Heap

/-! ## The comparison -/

open Eval

variable [SearchContext]

/-- Functions called without clearing a frame, up to the first call that returns with a value
for which `lost` holds: there the evaluation stops. -/
def callUnless (lost : Heap → ScopeId → Value → Bool) (maxDepth : Nat) (ev : Evaluator) : Caller :=
  fun f args span m =>
    match callFunction ⟨maxDepth, false⟩ ev f args span m with
    | .done v m' => if lost m'.heap m.heap.scopes.size v then .unfinished else .done v m'
    | .failed e m' => .failed e m'
    | .unfinished => .unfinished

/-- Evaluations whose heaps agree on the live scopes. -/
def retention : Simulation where
  World := Set ScopeId
  Later L L' := L ⊆ L'
  machine L m m' := m.sink = m'.sink ∧ m.depth = m'.depth ∧ m.heap.AgreeOn L m'.heap
  scope L i i' := i = i' ∧ i ∈ L
  expr := Eq
  span := Eq
  lax := True
  isPreorder := { refl := Set.Subset.refl, trans := fun _ _ _ => Set.Subset.trans }
  scope_later hL hi := ⟨hi.1, hL hi.2⟩
  node := Expr.Node.of_eq _ _
  expr_span := congrArg Expr.span
  sink_eq hm := hm.1
  depth_eq hm := hm.2.1
  with_heap hm _ _ := ⟨rfl, rfl, hm.2.2⟩
  lookup := by
    rintro L m m' i _ hm ⟨rfl, hi⟩ name
    exact hm.2.2.lookup? hi name
  bind := by
    rintro L m m' i _ v v' hm ⟨rfl, hi⟩ hv name
    obtain ⟨rfl, hlive⟩ := Heap.lift_live_iff.mp hv
    exact ⟨hm.1, hm.2.1, hm.2.2.bind hi hlive name⟩
  newChild := by
    rintro L m m' i _ hm ⟨rfl, hi⟩
    refine ⟨insert m.heap.scopes.size L, fun j => .inr, ?_, ?_, ?_⟩
    · exact ⟨hm.1, hm.2.1, hm.2.2.newChild hi⟩
    · simp [hm.2.2.size_eq]
    · exact .inl (Heap.newChild_snd _ _)

variable {lost : Heap → ScopeId → Value → Bool} {maxDepth : Nat} {ev ev' : Evaluator}

/-- Leaving a frame that is not live any more goes unnoticed. -/
theorem leave_related {L : Set ScopeId} {m m' : Machine} (hm : retention.machine L m m')
    {frame : ScopeId} {clear : Bool}
    (hempty : clear = true → frame ∈ L → m.heap.bindings frame = []) :
    retention.machine L (m.leave frame false) (m'.leave frame clear) := by
  obtain ⟨heap, sink, depth, patterns⟩ := m
  obtain ⟨heap', sink', depth', patterns'⟩ := m'
  obtain ⟨hsink, hdepth, hheap⟩ := hm
  refine ⟨hsink, congrArg (· - 1) hdepth, ?_⟩
  cases clear with
  | false => exact hheap
  | true => exact Heap.AgreeOn.clear_right hheap (hempty rfl)

/-- Leaving a call by the rules changes something that the result reaches exactly when the frame
is lost. -/
theorem bindings_leave_iff (m : Machine) (frame : ScopeId) (v : Value) :
    (∀ i, m.heap.Reaches v i →
      (m.leave frame (!m.heap.captures frame v)).heap.bindings i = m.heap.bindings i) ↔
      ¬ m.heap.Loses frame v := by
  obtain ⟨h, sink, depth, patterns⟩ := m
  simp only [Machine.leave]
  constructor
  · rintro hsame ⟨hreaches, hcaptures, hbindings⟩
    have hframe := hsame frame hreaches
    simp only [hcaptures, Bool.not_false, if_true, Heap.bindings_clear_self] at hframe
    exact hbindings hframe.symm
  · intro hkept i hi
    split
    · next hclear =>
      by_cases hne : i = frame
      · subst hne
        have hcaptures : h.captures i v = false := by simpa using hclear
        have hempty : h.bindings i = [] := by
          by_contra hbindings
          exact hkept ⟨hi, hcaptures, hbindings⟩
        rw [Heap.bindings_clear_self, hempty]
      · exact Heap.bindings_clear_of_ne hne
    · rfl

/-- A frame left with a value that does not lose it: what is live from then on is what was live
before the call and what the value reaches, unless the value captures the frame or finds nothing
bound there. -/
theorem return_related {L L₂ : Set ScopeId} {frame : ScopeId} (hframe : frame ∉ L) (hsub : L ⊆ L₂)
    {m m' : Machine} (hm : retention.machine L₂ m m')
    (hclosed : ∀ i ∈ L, ∀ j, m.heap.Holds i j → j ∈ L) {v v' : Value}
    (hv : retention.value L₂ v v') (hkept : ¬ m.heap.Loses frame v) (clears : Bool) :
    ∃ L' : Set ScopeId, L ⊆ L' ∧
      retention.machine L' (m.leave frame false)
        (m'.leave frame (clears && !m'.heap.captures frame v')) ∧
      retention.value L' v v' := by
  obtain ⟨rfl, hlive⟩ := Heap.lift_live_iff.mp hv
  obtain ⟨hsink, hdepth, hheap⟩ := hm
  rw [← hheap.captures_eq]
  by_cases hstays : m.heap.captures frame v = true ∨ m.heap.bindings frame = []
  · refine ⟨L₂, hsub, leave_related ⟨hsink, hdepth, hheap⟩ fun hclear _ => ?_, hv⟩
    exact hstays.resolve_left (by simp_all)
  · have hreaches : ¬ m.heap.Reaches v frame := fun hreaches =>
      hkept ⟨hreaches, by simp_all, fun hempty => hstays (.inr hempty)⟩
    have hclosed' : ∀ i ∈ L ∪ {i | m.heap.Reaches v i}, ∀ j, m.heap.Holds i j →
        j ∈ L ∪ {i | m.heap.Reaches v i} := by
      rintro i (hi | ⟨f, hf, hpath⟩) j hj
      · exact .inl (hclosed i hi j hj)
      · exact .inr ⟨f, hf, hpath.tail hj⟩
    have hsub' : L ∪ {i | m.heap.Reaches v i} ⊆ L₂ :=
      Set.union_subset hsub fun i hi => Heap.mem_of_reaches hheap.closed hlive hi
    refine ⟨L ∪ {i | m.heap.Reaches v i}, Set.subset_union_left, ?_, ?_⟩
    · refine leave_related ⟨hsink, hdepth, hheap.restrict hsub' hclosed'⟩ fun _ hmem => ?_
      exact absurd hmem (not_or.mpr ⟨hframe, hreaches⟩)
    · exact Heap.lift_live_iff.mpr ⟨rfl, fun f hf => .inr ⟨f, hf, .refl⟩⟩

/-- Calls that lose no frame correspond to calls that clear what they can, or nothing. -/
theorem callUnless_related
    (hlost : ∀ h frame v, h.Loses frame v → lost h frame v = true)
    (hwrites : ∀ e env, Keeps (WritesOnly env fun _ => True) (ev e env))
    (hev : retention.Evaluators ev ev') (clears : Bool) :
    retention.Callers (callUnless lost maxDepth ev) (callFunction ⟨maxDepth, clears⟩ ev') := by
  intro (L : Set ScopeId) f f' args args' s s' hf hargs hs m m' hm
  have hdepth := hm.2.1
  have hsize := hm.2.2.size_eq
  have hname := hf.name
  by_cases hdeep : m.depth ≥ maxDepth
  · simp only [callUnless, callFunction, ← hdepth, ← hname, hdeep, if_true]
    exact .failed subset_rfl hm (.recursionLimit _ _ hs)
  obtain ⟨(L₁ : Set ScopeId), hL₁, hm₁, hframe⟩ := Simulation.enter_related hm hf hargs
  have hbody := Simulation.evalSequence_related hev hframe hf.body .undefined _ _ hm₁
  have huntouched : ∀ m₁, (evalSequence ev m.heap.scopes.size .undefined f.body
      (m.enter f args).1).machine? = some m₁ → m.heap.Untouched m₁.heap :=
    fun _ => untouched_body hwrites
  simp only [callUnless, callFunction, ← hdepth, hdeep, if_false, runBody, Machine.enter_snd,
    ← hsize] at hbody ⊢
  -- The frame is behind all that was live before the call.
  have hframe : m.heap.scopes.size ∉ L := fun hmem => (hm.2.2.lt_size _ hmem).ne rfl
  generalize evalSequence ev _ _ _ _ = o at hbody huntouched
  generalize evalSequence ev' _ _ _ _ = o' at hbody
  cases hbody with
  | unfinished => exact .unfinished fun hlax => absurd trivial hlax
  | @failed L₂ e e' m₂ m₂' hL₂ hm₂ he =>
    have hL : L ⊆ L₂ := subset_trans hL₁ hL₂
    have hclosed := hm.2.2.closed_of_untouched (huntouched m₂ rfl)
    have hback : retention.machine L m₂ m₂' := ⟨hm₂.1, hm₂.2.1, hm₂.2.2.restrict hL hclosed⟩
    exact .failed subset_rfl (leave_related hback fun _ hmem => absurd hmem hframe) he
  | @done L₂ v v' m₂ m₂' hL₂ hm₂ hv =>
    have hL : L ⊆ L₂ := subset_trans hL₁ hL₂
    have hclosed := hm.2.2.closed_of_untouched (huntouched m₂ rfl)
    by_cases hkept : m₂.heap.Loses m.heap.scopes.size v
    · have hstop : lost (m₂.leave m.heap.scopes.size false).heap m.heap.scopes.size v = true :=
        hlost _ _ _ hkept
      simp only [Bool.false_and, hstop, if_true]
      exact .unfinished fun hlax => absurd trivial hlax
    · obtain ⟨L', hL', hm', hv'⟩ := return_related hframe hL hm₂ hclosed hv hkept clears
      simp only [Bool.false_and]
      split
      · exact .unfinished fun hlax => absurd trivial hlax
      · exact .done hL' hm' hv'

/-- Stopping early writes nothing either. -/
theorem callUnless_writes (lost : Heap → ScopeId → Value → Bool) (maxDepth : Nat)
    (hwrites : ∀ e env, Keeps (WritesOnly env fun _ => True) (ev e env)) (f : Closure)
    (args : List Value) (span : Span) :
    Keeps WritesNothing (callUnless lost maxDepth ev f args span) := by
  intro m m' h
  have hcall := callFunction_writes hwrites ⟨maxDepth, false⟩ f args span m
  rw [callUnless] at h
  cases hrun : callFunction ⟨maxDepth, false⟩ ev f args span m with
  | done v m₁ =>
    rw [hrun] at h hcall
    dsimp only at h
    split at h
    · cases h
    · exact hcall m' h
  | failed e m₁ =>
    rw [hrun] at h hcall
    exact hcall m' h
  | unfinished =>
    rw [hrun] at h
    cases h

/-- **Evaluations that lose no frame** correspond to evaluations by the rules, whether frames
are cleared or not, as soon as these have the steps. -/
theorem evalUnless_related (hlost : ∀ h frame v, h.Loses frame v → lost h frame v = true)
    (maxDepth : Nat) {steps steps' : Nat} (hle : steps ≤ steps') (clears : Bool) :
    retention.Evaluators (evalWith (callUnless lost maxDepth) steps)
      (eval ⟨maxDepth, clears⟩ steps') := by
  refine Simulation.evalWith_related (fun n n' hev => ?_) hle fun hlax => absurd trivial hlax
  refine callUnless_related hlost (fun e env => ?_) hev clears
  exact evalWith_writes (fun _ => callUnless_writes lost maxDepth) n e env _ fun _ _ => trivial

end ScopeScript
