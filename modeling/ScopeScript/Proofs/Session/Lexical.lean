import ScopeScript.Proofs.Eval.Output
import ScopeScript.Proofs.Eval.Watch
import ScopeScript.Proofs.Session.Basic

/-!
# Sessions in which scopes follow the text

The record of what scopes are made for goes on from one text to the next. A fresh interpreter
starts with a record of its own scopes, and every text that is run adds the scopes that it makes.
What a session shows is the same if it is watched, with the whole record, so no check fails however
often functions call each other or themselves, and whether the session ends or not.
-/

namespace ScopeScript

variable [SearchContext]

namespace Interpreter

variable {texts : List String} {w : List Origin} {i : Interpreter}

/-- **A text that is run follows the texts** from the record of the global scope on. -/
theorem runUsing_follows (hm : Accords texts w i.machine.heap) (hglobals : Chained w [] [globals])
    (rules : Rules) (steps : Nat) {source : String} (hsource : source ∈ texts) :
    ∃ w', w <+: w' ∧
      (∀ k : Watch, k.texts = texts → w' <+: k.origins →
        i.runUsing (k.eval rules steps []) source = i.runUsing (eval rules steps) source) ∧
      ∀ result j, i.runUsing (eval rules steps) source = some (result, j) →
        Accords texts w' j.machine.heap := by
  simp only [runUsing]
  cases hread : readProgram source with
  | error e =>
    refine ⟨w, List.prefix_rfl, fun _ _ _ => rfl, ?_⟩
    rintro result j ⟨⟩
    exact hm
  | ok program =>
    have hinside : ∀ e ∈ program, Inside texts [] e := fun e he => .statement hsource hread he
    obtain ⟨w', hw, heq, haccords, -⟩ :=
      evalSequence_follows ((eval_follows texts rules steps).all hglobals hinside)
        onRecord_undefined i.machine hm
    refine ⟨w', hw, fun k hk hle => ?_, fun result j h => ?_⟩
    · have hrun : evalSequence (k.eval rules steps []) globals .undefined program i.machine =
          evalSequence (eval rules steps) globals .undefined program i.machine := heq k hk hle
      simp only [Eval.flushed, hrun]
    · dsimp only at h
      have hflushed : ∀ m', (Eval.flushed (evalSequence (eval rules steps) globals .undefined
          program) i.machine).machine? = some m' → _ := fun _ => Eval.machine?_flushed
      generalize Eval.flushed _ _ = o at h hflushed
      cases o with
      | done v m' =>
        cases h
        exact haccords m' (hflushed m' rfl)
      | failed e m' =>
        cases h
        exact haccords m' (hflushed m' rfl)
      | unfinished => cases h

/-- A session follows its texts. -/
theorem session_follows (hm : Accords texts w i.machine.heap) (hglobals : Chained w [] [globals])
    (rules : Rules) (steps : Nat) {sources : List String} (hsources : ∀ s ∈ sources, s ∈ texts) :
    ∃ w', w <+: w' ∧ ∀ k : Watch, k.texts = texts → w' <+: k.origins →
      session (runUsing (k.eval rules steps [])) i sources =
        session (runUsing (eval rules steps)) i sources := by
  induction sources generalizing w i with
  | nil => exact ⟨w, List.prefix_rfl, fun _ _ _ => rfl⟩
  | cons source rest ih =>
    rw [List.forall_mem_cons] at hsources
    obtain ⟨w₁, hw₁, heq₁, haccords⟩ := runUsing_follows hm hglobals rules steps hsources.1
    cases hrun : i.runUsing (eval rules steps) source with
    | none =>
      refine ⟨w₁, hw₁, fun k hk hle => ?_⟩
      rw [session, session, heq₁ k hk hle, hrun]
    | some p =>
      obtain ⟨result, j⟩ := p
      obtain ⟨w₂, hw₂, heq₂⟩ := ih (haccords result j hrun) (hglobals.mono hw₁) hsources.2
      refine ⟨w₂, hw₁.trans hw₂, fun k hk hle => ?_⟩
      rw [session, session, heq₁ k hk (hw₂.trans hle), hrun]
      simp only [heq₂ k hk hle]

/-- The session of a fresh interpreter is its own watched session, for some record. -/
theorem exists_record (rules : Rules) (sink : Sink) (steps : Nat) (sources : List String) :
    ∃ origins : List Origin, ∀ alarm : Eval Value,
      session (runUsing (Watch.eval ⟨sources, origins, alarm⟩ rules steps []))
          (fresh rules sink) sources =
        session (fun i => i.runWithin steps) (fresh rules sink) sources := by
  have hglobals : Chained (List.replicate freshHeap.scopes.size .root) [] [globals] :=
    .globals (by rw [List.getElem?_replicate, if_pos (by decide +kernel)])
  obtain ⟨origins, -, heq⟩ := session_follows (i := fresh rules sink) (accords_freshHeap sources)
    hglobals rules steps fun _ => id
  refine ⟨origins, fun alarm => ?_⟩
  rw [session_runWithin]
  exact heq ⟨sources, origins, alarm⟩ rfl List.prefix_rfl

/-- **Scopes follow the text.** For every session of a fresh interpreter there is a record of what
each of its scopes is made for with which no check of the watched evaluation fails: what a failed
check would turn to makes no difference, in sessions that end and in those that do not. So wherever
an expression is evaluated that lies within the bodies of some functions, the chain of the current
scope is the frame of a call of the innermost one, its scope, a frame of a call of the next one,
its scope, and so on to the global scope. Every function has, from its definition on, a scope
without bindings that lies in the scope in which its definition was evaluated. No scope is deeper
than twice the nesting that texts may have, and one, and no more scopes than these are looked at
when a name is looked up or a scope is searched for. -/
theorem scopes_follow_text (rules : Rules) (sink : Sink) (steps : Nat) (sources : List String) :
    (∃ origins : List Origin, ∀ alarm : Eval Value,
      session (runUsing (Watch.eval ⟨sources, origins, alarm⟩ rules steps []))
          (fresh rules sink) sources =
        session (fun i => i.runWithin steps) (fresh rules sink) sources) ∧
    ∀ (h : Heap) (i : ScopeId), h.depth i = (h.chain i).length ∧
      (∀ name, h.lookup? i name =
        (h.chain i).findSome? fun j => Scope.get? name (h.bindings j)) ∧
      ∀ outer, h.isWithin i outer = true ↔ outer ∈ h.chain i := by
  constructor
  · exact exists_record rules sink steps sources
  · exact fun h i => ⟨rfl, h.lookup?_eq_findSome? i, fun _ => Heap.isWithin_iff_mem_chain⟩

end Interpreter

end ScopeScript
