import ScopeScript.Proofs.Eval.Alike
import ScopeScript.Proofs.Eval.Footprint

/-!
# Kept frames

A call that returns clears its frame unless its result captures it. So of the scopes that an
evaluation makes only those frames have bindings in the end whose calls gave a result that captured
them. To say which these are, an evaluation is told beforehand which frames may be kept, and stops
where another one is. As long as it does not stop it is the evaluation by the rules.
-/

namespace ScopeScript

open Eval

namespace Heap

/-- What an evaluation in `env` may do to the heap: it writes to `env` and to new scopes, and leaves
bindings in new scopes only where they are among `kept`. -/
structure BindsWithin (kept : ScopeId → Bool) (env : ScopeId) (h h' : Heap) : Prop where
  footprint : Footprint env (fun _ => True) h h'
  kept_of_bindings : ∀ i ≥ h.scopes.size, h'.bindings i ≠ [] → kept i = true

variable {kept : ScopeId → Bool} {env : ScopeId} {h h' h'' : Heap}

/-- A heap that stays the same binds within any scopes. -/
theorem BindsWithin.refl (h : Heap) : BindsWithin kept env h h where
  footprint := .refl h
  kept_of_bindings _ hi hbindings := absurd (bindings_of_le hi) hbindings

/-- What binds within some scopes, twice in a row. -/
theorem BindsWithin.trans (h₁ : BindsWithin kept env h h') (h₂ : BindsWithin kept env h' h'')
    (henv : env < h.scopes.size) : BindsWithin kept env h h'' where
  footprint := h₁.footprint.trans h₂.footprint
  kept_of_bindings i hi hbindings := by
    obtain hnew | hold := Nat.lt_or_ge i h'.scopes.size
    · rw [h₂.footprint.bindings i hnew (henv.trans_le hi).ne'] at hbindings
      exact h₁.kept_of_bindings i hi hbindings
    · exact h₂.kept_of_bindings i hold hbindings

/-- What makes no bindings in new scopes. -/
theorem Footprint.bindsWithin (hf : Footprint env (fun _ => True) h h')
    (hempty : ∀ i ≥ h.scopes.size, h'.bindings i = []) : BindsWithin kept env h h' where
  footprint := hf
  kept_of_bindings i hi hbindings := absurd (hempty i hi) hbindings

end Heap

variable [SearchContext]

/-- Functions called by the rules, up to the first call that returns with a value that captures its
frame although the frame is not among `kept`: there the evaluation stops. -/
def callKeeping (kept : ScopeId → Bool) (rules : Rules) (ev : Evaluator) : Caller :=
  fun f args span m =>
    match callFunction rules ev f args span m with
    | .done v m' =>
      if m'.heap.captures m.heap.scopes.size v && !kept m.heap.scopes.size then .unfinished
      else .done v m'
    | .failed e m' => .failed e m'
    | .unfinished => .unfinished

/-- Between the two states only `env`, if it is there, and new scopes were written to, and new
scopes have bindings only where they are among `kept`. -/
def BindsOnly (kept : ScopeId → Bool) (env : ScopeId) (m m' : Machine) : Prop :=
  env < m.heap.scopes.size → m.heap.BindsWithin kept env m'.heap

instance (kept : ScopeId → Bool) (env : ScopeId) : IsPreorder Machine (BindsOnly kept env) where
  refl m _ := .refl m.heap
  trans _ _ _ h₁ h₂ henv :=
    (h₁ henv).trans (h₂ (henv.trans_le (h₁ henv).footprint.size_le)) henv

variable {kept : ScopeId → Bool} {rules : Rules} {env : ScopeId} {ev ev' : Evaluator}

/-- Binding a name binds in no new scope. -/
theorem bindName_bindsOnly (env : ScopeId) (name : String) (v : Value) :
    Keeps (BindsOnly kept env) (bindName env name v) := by
  intro m m' h henv
  cases h
  refine (Heap.footprint_bind henv trivial v).bindsWithin fun i hi => ?_
  exact Heap.bindings_of_le (by simpa using hi)

/-- A scope is made without bindings. -/
theorem newChild_bindsOnly (env : ScopeId) : Keeps (BindsOnly kept env) (newChild env) := by
  intro m m' h henv
  cases h
  refine ((Heap.untouched_newChild m.heap env).footprint henv).bindsWithin fun i hi => ?_
  rw [Heap.bindings_newChild, Heap.bindings_of_le hi]

/-- Writing a line binds nothing. -/
theorem writeLine_bindsOnly (text : String) : Keeps (BindsOnly kept env) (writeLine text) := by
  intro m m' h _
  rw [heap_of_writeLine h]
  exact .refl m.heap

/-! ## Calls -/

/-- What a call that ends leaves in the heap: nothing changes if it is refused, and otherwise its
frame is cleared behind the body, unless the result captures it. -/
theorem heap_of_callFunction (hclears : rules.clearsFrames = true) {f : Closure}
    {args : List Value} {span : Span} {m m' : Machine}
    (h : (callFunction rules ev f args span m).machine? = some m') :
    m' = m ∨ ∃ m₁,
      (evalSequence ev m.heap.scopes.size .undefined f.body (m.enter f args).1).machine? =
        some m₁ ∧
      (m'.heap = m₁.heap.clear m.heap.scopes.size ∨ m'.heap = m₁.heap ∧
        ∃ v, callFunction rules ev f args span m = .done v m' ∧
          m'.heap.captures m.heap.scopes.size v = true) := by
  by_cases hdeep : m.depth ≥ rules.maxDepth
  · rw [callFunction, if_pos hdeep] at h
    cases h
    exact .inl rfl
  have hcall : callFunction rules ev f args span m = runBody rules ev f args m := if_neg hdeep
  rw [hcall] at h ⊢
  simp only [runBody, Machine.enter_snd, hclears, Bool.true_and] at h ⊢
  generalize evalSequence ev _ _ _ _ = o at h ⊢
  cases o with
  | done v m₁ =>
    cases h
    dsimp only
    cases hcaptures : m₁.heap.captures m.heap.scopes.size v with
    | false => exact .inr ⟨m₁, rfl, .inl rfl⟩
    | true => exact .inr ⟨m₁, rfl, .inr ⟨rfl, v, rfl, hcaptures⟩⟩
  | failed e m₁ =>
    cases h
    exact .inr ⟨m₁, rfl, .inl rfl⟩
  | unfinished => cases h

/-- A call that the check lets pass is a call by the rules, and the frame is among `kept` if the
result captures it. -/
theorem callFunction_of_callKeeping {f : Closure} {args : List Value} {span : Span}
    {m m' : Machine} (h : (callKeeping kept rules ev f args span m).machine? = some m') :
    (callFunction rules ev f args span m).machine? = some m' ∧
      ∀ v, callFunction rules ev f args span m = .done v m' →
        m'.heap.captures m.heap.scopes.size v = true → kept m.heap.scopes.size = true := by
  rw [callKeeping] at h
  cases hcall : callFunction rules ev f args span m with
  | done v m₁ =>
    rw [hcall] at h
    dsimp only at h
    split at h
    · cases h
    · next hkept =>
      cases h
      refine ⟨rfl, ?_⟩
      rintro _ ⟨⟩ hcaptures
      simpa [hcaptures] using hkept
  | failed e m₁ =>
    rw [hcall] at h
    exact ⟨h, nofun⟩
  | unfinished =>
    rw [hcall] at h
    cases h

/-- A call that is carried out binds in the scopes that are kept only, if its body does. -/
theorem callKeeping_bindsOnly (hclears : rules.clearsFrames = true)
    (hev : ∀ e env, Keeps (BindsOnly kept env) (ev e env)) (f : Closure) (args : List Value)
    (span : Span) : Keeps (BindsOnly kept env) (callKeeping kept rules ev f args span) := by
  intro m m' h henv
  obtain ⟨hcall, hpassed⟩ := callFunction_of_callKeeping h
  obtain rfl | ⟨m₁, hrun, hleave⟩ := heap_of_callFunction hclears hcall
  · exact .refl m'.heap
  have hbody : (m.enter f args).1.heap.BindsWithin kept m.heap.scopes.size m₁.heap :=
    evalSequence_keeps (fun e _ => hev e _) .undefined _ m₁ hrun (m.frame_lt_size_enter f args)
  have huntouched : m.heap.Untouched m₁.heap :=
    (m.untouched_enter f args).trans_footprint hbody.footprint le_rfl
  -- A new scope that is not the frame was made by the body.
  have hinner : ∀ i ≥ m.heap.scopes.size, i ≠ m.heap.scopes.size → m₁.heap.bindings i ≠ [] →
      kept i = true := by
    intro i hi hne hbindings
    refine hbody.kept_of_bindings i ?_ hbindings
    have hsize := m.size_enter f args
    omega
  obtain hcleared | ⟨hsame, v, hv, hcaptures⟩ := hleave
  · rw [hcleared]
    refine ⟨(huntouched.clear le_rfl).footprint henv, fun i hi hbindings => ?_⟩
    by_cases hne : i = m.heap.scopes.size
    · rw [hne, Heap.bindings_clear_self] at hbindings
      exact absurd rfl hbindings
    · rw [Heap.bindings_clear_of_ne hne] at hbindings
      exact hinner i hi hne hbindings
  · rw [hsame]
    refine ⟨huntouched.footprint henv, fun i hi hbindings => ?_⟩
    by_cases hne : i = m.heap.scopes.size
    · exact hne ▸ hpassed v hv hcaptures
    · exact hinner i hi hne hbindings

/-- Calls that keep no other frames are calls by the rules. -/
theorem callKeeping_related (hev : moreSteps.Evaluators ev ev') :
    moreSteps.Callers (callKeeping kept rules ev) (callFunction rules ev') := by
  intro w f f' args args' s s' hf hargs hs m m' hm
  have hcall := callFunction_alike rules hev w f f' args args' s s' hf hargs hs m m' hm
  rw [callKeeping]
  generalize callFunction rules ev f args s m = o at hcall
  generalize callFunction rules ev' f' args' s' m' = o' at hcall
  cases hcall with
  | done hw hm hv =>
    dsimp only
    split
    · exact .unfinished fun hlax => absurd trivial hlax
    · exact .done hw hm hv
  | failed hw hm he => exact .failed hw hm he
  | unfinished ho => exact .unfinished ho

/-! ## Expressions -/

/-- An evaluation leaves bindings in no new scopes but frames that may be kept. -/
theorem evalKeeping_bindsOnly (hclears : rules.clearsFrames = true) (steps : Nat) (e : Expr)
    (env : ScopeId) :
    Keeps (BindsOnly kept env) (evalWith (callKeeping kept rules) steps e env) := by
  induction steps generalizing e env with
  | zero => exact Keeps.stop
  | succ steps ih =>
    exact evalStep_keeps (fun name (_ : True) => bindName_bindsOnly env name)
      (newChild_bindsOnly env) writeLine_bindsOnly (callKeeping_bindsOnly hclears ih)
      (fun e _ => ih e env) steps e fun _ _ => trivial

/-- An evaluation that keeps no other frames is the evaluation by the rules. -/
theorem evalKeeping_related (steps : Nat) :
    moreSteps.Evaluators (evalWith (callKeeping kept rules) steps) (eval rules steps) :=
  Simulation.evalWith_related (fun _ _ => callKeeping_related) le_rfl fun hlax =>
    absurd trivial hlax

end ScopeScript
