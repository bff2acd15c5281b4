import ScopeScript.Pattern.Library
import ScopeScript.Proofs.Eval.Failure
import ScopeScript.Proofs.Expr.Subtree
import ScopeScript.Proofs.Session.Lexical

/-!
# The places of errors

A watched evaluation checks of every expression that it lies in the text, so its errors point at
nodes of programs that have been read, also where bodies are evaluated that stand in earlier texts.
For the record of the session the watched evaluation is the evaluation. The check knows all texts of
the session; that an error points at a text that has been run already follows from the session that
ends with this text.
-/

namespace ScopeScript

open Eval

/-- An expression is a node of the program of one of the texts. -/
def IsNodeIn (texts : List String) (e : Expr) : Prop :=
  ∃ source ∈ texts, ∃ program, readProgram source = .ok program ∧
    ∃ statement ∈ program, e.IsNodeOf statement

/-- An error is no unknown operation, and if it has a place it points at a node of the texts. -/
def RuntimeError.LiesIn (texts : List String) (e : RuntimeError) : Prop :=
  (∀ op span, e ≠ .unknownOperation op span) ∧
    ∀ span, e.span? = some span → ∃ d, IsNodeIn texts d ∧ e.PointsAt d

variable {texts : List String} {context : List Expr} {e : Expr}

namespace RuntimeError

/-- An error that points at a node of the texts lies in them. -/
theorem LiesIn.of_pointsAt {err : RuntimeError} (hd : IsNodeIn texts e) (h : err.PointsAt e) :
    err.LiesIn texts := by
  refine ⟨?_, fun _ _ => ⟨e, hd, h⟩⟩
  rintro op span rfl
  cases h

/-- The refusal of a pattern has no place. -/
theorem liesIn_invalidPattern (pattern reason : String) :
    (invalidPattern pattern reason).LiesIn texts :=
  ⟨nofun, nofun⟩

/-- A failure of the output has no place. -/
theorem liesIn_output (reason : String) : (output reason).LiesIn texts := ⟨nofun, nofun⟩

end RuntimeError

open RuntimeError

namespace Expr

/-- What is evaluated with a node is one of its parts. -/
theorem mem_children_of_mem_parts {c d : Expr} (hc : c ∈ d.parts) : c ∈ d.children := by
  cases d with
  | definition name params body span =>
    rw [parts] at hc
    split at hc
    · exact List.mem_append_left _ hc
    · exact hc
  | _ => exact hc

/-- The body of a function is among the parts of its definition. -/
theorem mem_children_of_mem_functionBody {c d : Expr} (hc : c ∈ d.functionBody) :
    c ∈ d.children := by
  cases d with
  | definition name params body span =>
    rw [functionBody, if_pos (isFunction_of_mem_functionBody hc)] at hc
    exact List.mem_append_right _ hc
  | _ => cases hc

end Expr

/-- The parts of a node of the texts are nodes of the texts. -/
theorem IsNodeIn.child {d : Expr} (h : IsNodeIn texts d) (he : e ∈ d.children) :
    IsNodeIn texts e := by
  obtain ⟨source, hsource, program, hread, statement, hstatement, hnode⟩ := h
  exact ⟨source, hsource, program, hread, statement, hstatement, hnode.head he⟩

/-- What lies in the texts is a node of one of their programs. -/
theorem Inside.isNodeIn (h : Inside texts context e) : IsNodeIn texts e := by
  induction h with
  | statement hsource hread he => exact ⟨_, hsource, _, hread, _, he, .refl⟩
  | part _ he ih => exact ih.child (Expr.mem_children_of_mem_parts he)
  | body _ he ih => exact ih.child (Expr.mem_children_of_mem_functionBody he)

/-- Every operator in the texts has a meaning. -/
theorem IsNodeIn.numberOperation? {op : String} {left right : Expr} {opSpan : Span}
    (h : IsNodeIn texts (.operation op left right opSpan)) :
    ScopeScript.numberOperation? op ≠ none := by
  obtain ⟨source, -, program, hread, statement, hstatement, hnode⟩ := h
  obtain ⟨ts, htokens, hparse⟩ := Interpreter.tokenize_of_readProgram hread
  exact numberOperation?_of_parse htokens hparse hstatement hnode

namespace Interpreter

/-- Reading a program ends with no error of evaluating it. -/
theorem readProgram_ne_runtime {source : String} {e : RuntimeError} :
    readProgram source ≠ .error (.runtime e) := by
  intro h
  rw [readProgram] at h
  split at h
  · cases h
  · split at h <;> cases h

/-- The runtime error of a run that fails with one. -/
def runtimeError? : Except SourceError Value → Option RuntimeError
  | .error (.runtime e) => some e
  | _ => none

/-- A result with a runtime error is that error. -/
theorem runtimeError?_eq_some {result : Except SourceError Value} {e : RuntimeError}
    (h : runtimeError? result = some e) : result = .error (.runtime e) := by
  unfold runtimeError? at h
  split at h <;> cases h
  rfl

end Interpreter

section

variable [SearchContext]

/-- Whatever the state, a computation fails with errors of a kind only. -/
def FailsWith (E : RuntimeError → Prop) (x : Eval Value) : Prop :=
  Ensures (fun _ => True) (fun _ => True) (fun e _ => E e) x

/-! ## Watched evaluations -/

namespace Watch

variable {k : Watch} {E : RuntimeError → Prop}

/-- What passes the check before it lies in the text. -/
theorem guard_failsWith {ev : Evaluator} {env : ScopeId} (halarm : FailsWith E k.alarm)
    (hev : Inside k.texts context e → FailsWith E (ev e env)) :
    FailsWith E (k.guard context ev e env) := by
  intro m hm
  rw [guard]
  split
  · next hchecks => exact hev hchecks.1.inside m hm
  · exact halarm m hm

/-- A call fails with the error of the limit or as its body does. -/
theorem call_failsWith {rules : Rules} {ev : List Expr → Evaluator} (halarm : FailsWith E k.alarm)
    (hev : ∀ context e env, FailsWith E (ev context e env)) (f : Closure) (args : List Value)
    {span : Span} (hlimit : E (.recursionLimit rules.maxDepth f.name span)) :
    FailsWith E (k.call rules ev f args span) := by
  have hcall : FailsWith E (callFunction rules (ev (k.bodies f)) f args span) := by
    refine callFunction_ensures (fun _ _ => hlimit) fun m _ e m₁ hbody => ?_
    have hmeets := evalSequence_ensures (fun e => hev (k.bodies f) e m.heap.scopes.size) .undefined
      f.body (m.enter f args).1 trivial
    rw [hbody] at hmeets
    exact hmeets
  intro m hm
  rw [call]
  split
  · exact hcall m hm
  · exact halarm m hm

/-- **A watched evaluation fails** with errors that lie in the texts, unless its alarm does not. -/
theorem eval_failsWith (halarm : FailsWith (LiesIn k.texts) k.alarm) (rules : Rules) (steps : Nat)
    (context : List Expr) (e : Expr) (env : ScopeId) :
    FailsWith (LiesIn k.texts) (k.eval rules steps context e env) := by
  have hwrite : ∀ text, Ensures (fun _ => True) (fun _ => True) (fun e _ => LiesIn k.texts e)
      (writeLine text) := by
    intro text m _
    rw [writeLine]
    dsimp only
    split
    · trivial
    · exact liesIn_output _
  induction steps generalizing context e env with
  | zero => exact guard_failsWith halarm fun _ => .stop
  | succ steps ih =>
    refine guard_failsWith halarm fun hinside => ?_
    have hnode := hinside.isNodeIn
    refine evalStep_ensures (fun e => ih context e env) hwrite
      (fun pattern reason _ _ => liesIn_invalidPattern pattern reason)
      (fun err _ _ => .of_pointsAt hnode) ?_ ?_ steps
    · rintro op left right opSpan rfl hop
      exact absurd hop hnode.numberOperation?
    · rintro callee args span rfl f vs
      exact call_failsWith halarm ih f vs (.of_pointsAt hnode (.recursionLimit _ _ _ _ _))

end Watch

end

/-! ## Sessions -/

namespace Interpreter

section

variable [SearchContext]

variable {i : Interpreter} {sources : List String}
  {shown : List (Except SourceError Value × Sink)}

/-- A session of several texts begins with the run of the first one. -/
theorem exists_of_session_cons {run : Runner} {source : String}
    (h : session run i (source :: sources) = some shown) :
    ∃ result j later, run i source = some (result, j) ∧ session run j sources = some later ∧
      shown = (result, j.machine.sink) :: later := by
  rw [session] at h
  cases hrun : run i source with
  | none => simp [hrun] at h
  | some p =>
    rw [hrun] at h
    obtain ⟨later, hlater, heq⟩ := Option.map_eq_some_iff.mp h
    exact ⟨p.1, p.2, later, rfl, hlater, heq.symm⟩

/-- Of a session, its first texts alone show the same. -/
theorem session_take {run : Runner} (h : session run i sources = some shown) (n : Nat) :
    session run i (sources.take n) = some (shown.take n) := by
  induction n generalizing i sources shown with
  | zero => rfl
  | succ n ih =>
    cases sources with
    | nil =>
      cases h
      rfl
    | cons source rest =>
      obtain ⟨result, j, later, hrun, hlater, rfl⟩ := exists_of_session_cons h
      simp only [List.take_succ_cons, session, hrun, ih hlater, Option.map_some]

/-- A run that fails with a runtime error fails so after its program has been read. -/
theorem exists_of_runUsing_failed {ev : Evaluator} {source : String} {e : RuntimeError}
    {j : Interpreter} (h : i.runUsing ev source = some (.error (.runtime e), j)) :
    ∃ program, flushed (evalSequence ev globals .undefined program) i.machine =
      .failed e j.machine := by
  rw [runUsing] at h
  cases hread : readProgram source with
  | error e₁ =>
    rw [hread] at h
    cases h
    exact absurd hread readProgram_ne_runtime
  | ok program =>
    rw [hread] at h
    dsimp only at h
    refine ⟨program, ?_⟩
    generalize flushed _ i.machine = o at h ⊢
    cases o <;> cases h
    rfl

/-- A session fails with errors of the evaluations only. -/
theorem failsWith_of_session {E : RuntimeError → Prop} (hflush : E (.output "flush failed"))
    {ev : Evaluator}
    (hev : ∀ e env, FailsWith E (ev e env)) (h : session (runUsing ev) i sources = some shown) :
    ∀ e s, (.error (.runtime e), s) ∈ shown → E e := by
  induction sources generalizing i shown with
  | nil =>
    cases h
    simp
  | cons source rest ih =>
    obtain ⟨result, j, later, hrun, hlater, rfl⟩ := exists_of_session_cons h
    intro e s hmem
    obtain heq | hmem := List.mem_cons.mp hmem
    · cases heq
      obtain ⟨program, hfailed⟩ := exists_of_runUsing_failed hrun
      have hprogram := flushed_ensures (evalSequence_ensures (fun e => hev e globals) .undefined
        program) (fun _ => hflush) i.machine trivial
      rw [hfailed] at hprogram
      exact hprogram
    · exact ih hlater e s hmem

/-- **Errors have their place in the text.** Whatever texts a fresh interpreter runs one after the
other, no run fails with an unknown operation, and an error that carries a span points at a node of
the program that fails or of one that was run before: a name that is not bound at a symbol, an
operand without numeric reading at the operator, a value that is no function and a call nested too
deep at the call, and a parameter that is no name at that parameter of the definition. -/
theorem errors_point_at_nodes (rules : Rules) (sink : Sink) (steps : Nat) (sources : List String)
    {shown : List (Except SourceError Value × Sink)}
    (h : session (fun i => i.runWithin steps) (fresh rules sink) sources = some shown) {k : Nat}
    {e : RuntimeError} {s : Sink} (hk : shown[k]? = some (.error (.runtime e), s)) :
    (∀ op span, e ≠ .unknownOperation op span) ∧
      ∀ span, e.span? = some span →
        ∃ d, IsNodeIn (sources.take (k + 1)) d ∧ e.PointsAt d := by
  obtain ⟨origins, hwatched⟩ := exists_record rules sink steps (sources.take (k + 1))
  have hfirst := session_take h (k + 1)
  rw [← hwatched Eval.stop] at hfirst
  have hmem : (.error (.runtime e), s) ∈ shown.take (k + 1) :=
    List.mem_of_getElem? ((List.getElem?_take_of_lt (Nat.lt_succ_self k)).trans hk)
  exact failsWith_of_session (liesIn_output _)
    (Watch.eval_failsWith (k := ⟨_, origins, Eval.stop⟩) .stop rules steps []) hfirst e s hmem

end

/-- A function whose body has a name that is not bound, and a call under another name. -/
def unboundInBody : List String := ["f(x) \x7b x + y; \x7d;", "g = f; g(1);"]

/-- The error of the second text, which points into the first one. -/
def unboundName : RuntimeError := .undefinedVariable "y" ⟨⟨1, 12⟩, ⟨1, 13⟩⟩

/-- The error of the second text points at a node of the first one. -/
theorem errors_point_at_nodes_unboundInBody :
    ∃ shown s,
      session (fun i => i.runWithin 9) (fresh ⟨5, true⟩ .unbounded) unboundInBody = some shown ∧
      shown[1]? = some (.error (.runtime unboundName), s) ∧
      (∀ op span, unboundName ≠ .unknownOperation op span) ∧
      ∀ span, unboundName.span? = some span →
        ∃ d, IsNodeIn unboundInBody d ∧ unboundName.PointsAt d := by
  have hfails : ((session (fun i => i.runWithin 9) (fresh ⟨5, true⟩ .unbounded)
      unboundInBody).bind fun shown => shown[1]?.bind fun p => runtimeError? p.1) =
      some unboundName := by
    decide +kernel
  obtain ⟨shown, hshown, hfails⟩ := Option.bind_eq_some_iff.mp hfails
  obtain ⟨⟨result, s⟩, hsecond, hfails⟩ := Option.bind_eq_some_iff.mp hfails
  obtain rfl := runtimeError?_eq_some hfails
  exact ⟨shown, s, hshown, hsecond, errors_point_at_nodes _ _ 9 _ hshown hsecond⟩

end Interpreter

end ScopeScript
