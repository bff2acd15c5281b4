import ScopeScript.Proofs.Eval.Footprint

/-!
# How evaluations fail

The errors that an evaluation may end with are those of the expression itself, those of its parts,
those of patterns that cannot be read, and those of the output. The errors of an expression itself
point at it. This is said of one step, whatever evaluates the parts and calls the functions,
together with what holds of the state before and after each part and of the state that an error
leaves.
-/

namespace ScopeScript

/-- An error points at a node: it carries the span of the node, and says what the node says. -/
inductive RuntimeError.PointsAt : RuntimeError → Expr → Prop
  | undefinedVariable (name : String) (span : Span) :
    PointsAt (.undefinedVariable name span) (.symbol name span)
  | invalidOperand (op typeName : String) (left right : Expr) (opSpan : Span) :
    PointsAt (.invalidOperand op typeName opSpan) (.operation op left right opSpan)
  | notCallable (value : String) (callee : Expr) (args : List Expr) (span : Span) :
    PointsAt (.notCallable value span) (.call callee args span)
  | recursionLimit (limit : Nat) (function : String) (callee : Expr) (args : List Expr)
    (span : Span) : PointsAt (.recursionLimit limit function span) (.call callee args span)
  /-- The place is that of the parameter. -/
  | invalidParameter {param : Expr} (name : Name) (params body : List Expr) (span : Span) :
    param ∈ params → param.asSymbol? = none →
      PointsAt (.invalidParameter name.text param.span) (.definition name params body span)

/-! ## Errors of functions -/

/-- An operand is refused at the operator, by the name of its type. -/
theorem exists_of_operandNumber {op : String} {span : Span} {v : Value} {e : RuntimeError}
    (h : operandNumber op span v = .error e) :
    ∃ typeName, e = .invalidOperand op typeName span := by
  rw [operandNumber] at h
  split at h
  · cases h
  · cases h
    exact ⟨_, rfl⟩

/-- An operation fails because of an operand, or because its operator has no meaning. -/
theorem operate_cases {op : String} {a b : Value} {span : Span} {e : RuntimeError}
    (h : operate op a b span = .error e) :
    (∃ typeName, e = .invalidOperand op typeName span) ∨
      numberOperation? op = none ∧ e = .unknownOperation op span := by
  rw [operate] at h
  split at h
  · cases h
  · split at h
    · rw [arithmetic] at h
      left
      cases ha : operandNumber op span a with
      | error e₁ =>
        rw [ha] at h
        cases h
        exact exists_of_operandNumber ha
      | ok x =>
        cases hb : operandNumber op span b with
        | error e₂ =>
          rw [ha, hb] at h
          cases h
          exact exists_of_operandNumber hb
        | ok y =>
          rw [ha, hb] at h
          cases h
    · next hnone =>
      cases h
      exact .inr ⟨hnone, rfl⟩

/-- Parameters are refused at one that is no symbol. -/
theorem exists_of_parameterNames {function : String} {params : List Expr} {e : RuntimeError}
    (h : parameterNames function params = .error e) :
    ∃ param ∈ params, param.asSymbol? = none ∧ e = .invalidParameter function param.span := by
  induction params with
  | nil => cases h
  | cons p rest ih =>
    rw [parameterNames] at h
    split at h
    · cases hrest : parameterNames function rest with
      | ok names =>
        rw [hrest] at h
        cases h
      | error e₁ =>
        rw [hrest] at h
        cases h
        obtain ⟨param, hparam, hsymbol, he⟩ := ih hrest
        exact ⟨param, List.mem_cons_of_mem _ hparam, hsymbol, he⟩
    · next hsymbol =>
      cases h
      exact ⟨p, List.mem_cons_self, hsymbol, rfl⟩

/-! ## How computations end -/

variable [SearchContext]

/-- How a computation may end: in a state with `Q`, or with an error and a state that `E` allows. -/
def Outcome.Meets {α : Type} (Q : Machine → Prop) (E : RuntimeError → Machine → Prop) :
    Outcome α → Prop
  | .done _ m => Q m
  | .failed e m => E e m
  | .unfinished => True

namespace Eval

/-- From states with `P` on, a computation ends in states with `Q`, or with errors that `E` allows.
-/
def Ensures {α : Type} (P Q : Machine → Prop) (E : RuntimeError → Machine → Prop) (x : Eval α) :
    Prop :=
  ∀ m, P m → (x m).Meets Q E

namespace Ensures

variable {α β : Type} {P Q R : Machine → Prop} {E : RuntimeError → Machine → Prop}

/-- Giving a value ends in the state as it is. -/
theorem pure (hPQ : ∀ m, P m → Q m) (a : α) : Ensures P Q E (Pure.pure a : Eval α) := hPQ

/-- Not ending ensures everything. -/
theorem stop : Ensures P Q E (Eval.stop : Eval α) := fun _ _ => trivial

/-- Failing ends with the error and in the state as it is. -/
theorem fail {e : RuntimeError} (he : ∀ m, P m → E e m) : Ensures P Q E (Eval.fail e : Eval α) := he

/-- A result that is there ends in the state as it is, or with its error. -/
theorem lift (hPQ : ∀ m, P m → Q m) {x : Except RuntimeError α}
    (hx : ∀ e, x = .error e → ∀ m, P m → E e m) : Ensures P Q E (Eval.lift x) := by
  cases x with
  | ok a => exact pure hPQ a
  | error e => exact fail (hx e rfl)

/-- What one computation ensures, the next one may start from. -/
theorem bind {x : Eval α} {f : α → Eval β} (hx : Ensures P R E x)
    (hf : ∀ a, Ensures R Q E (f a)) : Ensures P Q E (x >>= f) := by
  intro m hm
  have hxm := hx m hm
  change (Eval.bind x f m).Meets Q E
  rw [Eval.bind]
  generalize x m = o at hxm
  cases o with
  | done a m' => exact hf a m' hxm
  | failed e m' => exact hxm
  | unfinished => trivial

/-- A computation ensures less from fewer states on. -/
theorem mono {P' Q' : Machine → Prop} {x : Eval α} (hx : Ensures P Q E x)
    (hP : ∀ m, P' m → P m) (hQ : ∀ m, Q m → Q' m) : Ensures P' Q' E x := by
  intro m hm
  have hxm := hx m (hP m hm)
  generalize x m = o at hxm
  cases o with
  | done a m' => exact hQ m' hxm
  | failed e m' => exact hxm
  | unfinished => trivial

end Ensures

end Eval

open Eval

/-! ## Errors of evaluations -/

/-- A search fails because of its pattern only. -/
theorem exists_of_searchResult {args : List Value} {kind : SearchKind} {e : RuntimeError}
    (h : searchResult args kind = .error e) :
    ∃ pattern reason, e = .invalidPattern pattern reason := by
  rw [searchResult] at h
  split at h
  · cases h
  · next pattern _ _ =>
    rw [compiledPattern] at h
    cases hcompile : searchLibrary.compile pattern with
    | ok compiled =>
      rw [hcompile] at h
      cases h
    | error reason =>
      rw [hcompile] at h
      cases h
      exact ⟨_, _, rfl⟩

section Combinators

variable {P : Machine → Prop} {E : RuntimeError → Machine → Prop} {ev : Evaluator} {env : ScopeId}
  (hev : ∀ e, Ensures P P E (ev e env))

section

include hev

/-- Sequences end as their expressions do. -/
theorem evalSequence_ensures (last : Value) (es : List Expr) :
    Ensures P P E (evalSequence ev env last es) := by
  induction es generalizing last with
  | nil => exact .pure (fun _ => id) last
  | cons e rest ih => exact (hev e).bind ih

/-- Lists of expressions end as the expressions do. -/
theorem evalAll_ensures (es : List Expr) : Ensures P P E (evalAll ev env es) := by
  induction es with
  | nil => exact .pure (fun _ => id) []
  | cons e rest ih =>
    exact (hev e).bind fun v => ih.bind fun vs => .pure (fun _ => id) (v :: vs)

/-- An argument that may be missing ends as expressions do. -/
theorem evalOptional_ensures (e? : Option Expr) : Ensures P P E (evalOptional ev env e?) := by
  cases e? with
  | none => exact .pure (fun _ => id) _
  | some e => exact hev e

/-- Choices end as expressions do. -/
theorem evalChoice_ensures (args body : List Expr) :
    Ensures P P E (evalChoice ev env args body) := by
  cases args with
  | nil => exact .pure (fun _ => id) _
  | cons condition rest =>
    refine (hev condition).bind fun c => ?_
    split
    · exact evalOptional_ensures hev _
    · exact evalOptional_ensures hev _
    · exact evalSequence_ensures hev _ _
    · exact evalOptional_ensures hev _

/-- Loops end as expressions do. -/
theorem evalRounds_ensures (condition : Expr) (body : List Expr) (rounds : Nat) :
    Ensures P P E (evalRounds ev env condition body rounds) := by
  induction rounds with
  | zero => exact .stop
  | succ rounds ih =>
    refine (hev condition).bind fun c => ?_
    split
    · exact (evalSequence_ensures hev _ _).bind fun _ => ih
    · exact .pure (fun _ => id) _

/-- Special forms end as expressions do. -/
theorem evalSpecial_ensures (rounds : Nat) (args body : List Expr) (form : SpecialForm) :
    Ensures P P E (evalSpecial ev rounds env args body form) := by
  cases form with
  | choice => exact evalChoice_ensures hev args body
  | loop =>
    cases args with
    | nil => exact .pure (fun _ => id) _
    | cons condition rest => exact evalRounds_ensures hev condition _ rounds

end

variable (hwrite : ∀ text, Ensures P P E (writeLine text))
  (hpattern : ∀ pattern reason m, P m → E (.invalidPattern pattern reason) m)

include hwrite in
/-- Printing ends as writing a line does. -/
theorem printAll_ensures (vs : List Value) : Ensures P P E (printAll vs) := by
  induction vs with
  | nil => exact .pure (fun _ => id) _
  | cons v rest ih => exact (hwrite _).bind fun _ => ih

section

include hpattern

/-- Searches end, or fail because of their pattern. -/
theorem search_ensures (args : List Value) (kind : SearchKind) :
    Ensures P P E (search args kind) := by
  rw [search_eq_lift]
  refine .lift (fun _ => id) fun e he m hm => ?_
  obtain ⟨pattern, reason, rfl⟩ := exists_of_searchResult he
  exact hpattern pattern reason m hm

include hwrite

/-- Native builtins end as writing a line and searching do. -/
theorem callNative_ensures (args : List Value) (n : Native) :
    Ensures P P E (callNative args n) := by
  cases n with
  | print => exact printAll_ensures hwrite args
  | searchIndexes => exact search_ensures hpattern args .indexes
  | searchElements => exact search_ensures hpattern args .elements
  | indexAccess => exact .pure (fun _ => id) _
  | indexCount => exact .pure (fun _ => id) _

end

include hev hwrite hpattern

/-- **A step ends** as its parts, calls and writes do, or with an error of the expression itself. An
operator without meaning is one. -/
theorem evalStep_ensures {e : Expr} (hself : ∀ err m, P m → RuntimeError.PointsAt err e → E err m)
    (hunknown : ∀ op left right opSpan, e = .operation op left right opSpan →
      numberOperation? op = none → ∀ m, P m → E (.unknownOperation op opSpan) m) {call : Caller}
    (hcall : ∀ callee args span, e = .call callee args span →
      ∀ f vs, Ensures P (fun _ => True) E (call f vs span)) (rounds : Nat) :
    Ensures P (fun _ => True) E (evalStep call ev rounds e env) := by
  have hquiet : ∀ {α : Type} {x : Eval α}, Ensures P P E x → Ensures P (fun _ => True) E x :=
    fun hx => hx.mono (fun _ => id) fun _ _ => trivial
  cases e with
  | number text span => exact .pure (fun _ _ => trivial) _
  | string text span => exact .pure (fun _ _ => trivial) _
  | symbol name span =>
    have hlookup : Ensures P P E (lookup? env name) := fun _ hm => hm
    refine hlookup.bind fun v? => ?_
    cases v? with
    | none => exact .fail fun m hm => hself _ m hm (.undefinedVariable name span)
    | some v => exact .pure (fun _ _ => trivial) v
  | operation op left right opSpan =>
    refine (hev left).bind fun a => (hev right).bind fun b => ?_
    refine .lift (fun _ _ => trivial) fun err herr m hm => ?_
    obtain ⟨typeName, rfl⟩ | ⟨hop, rfl⟩ := operate_cases herr
    · exact hself _ m hm (.invalidOperand op typeName left right opSpan)
    · exact hunknown op left right opSpan rfl hop m hm
  | assignment target value span =>
    have hbind : ∀ v, Ensures P (fun _ => True) E (bindName env target.text v) :=
      fun _ _ _ => trivial
    exact (hev value).bind fun v => (hbind v).bind fun _ => .pure (fun _ _ => trivial) v
  | definition name params body span =>
    simp only [evalStep, evalDefinition]
    split
    · next form _ => exact hquiet (evalSpecial_ensures hev rounds params body form)
    · have hnames : Ensures P (fun _ => True) E (Eval.lift (parameterNames name.text params)) := by
        refine .lift (fun _ _ => trivial) fun err herr m hm => ?_
        obtain ⟨param, hparam, hsymbol, rfl⟩ := exists_of_parameterNames herr
        exact hself _ m hm (.invalidParameter name params body span hparam hsymbol)
      have hmade : ∀ names, Ensures (fun _ => True) (fun _ => True) E (do
          let closure ← Eval.newChild env
          let value := Value.function ⟨name.text, names, body, closure⟩
          Eval.bindName env name.text value
          return value) := fun _ _ _ => trivial
      exact hnames.bind hmade
  | call callee args span =>
    refine (hev callee).bind fun v => ?_
    cases v with
    | function f =>
      dsimp only
      split
      · next form _ => exact hquiet (evalSpecial_ensures hev rounds args [] form)
      · exact hquiet ((evalAll_ensures hev args).bind fun vs =>
          callNative_ensures hwrite hpattern vs _)
      · exact (evalAll_ensures hev args).bind (hcall callee args span rfl f)
    | _ => exact .fail fun m hm => hself _ m hm (.notCallable _ callee args span)

end Combinators

/-! ## Calls and runs -/

variable {P : Machine → Prop} {E : RuntimeError → Machine → Prop}

/-- A call that fails is refused, or its body fails and the frame may be cleared. -/
theorem callFunction_ensures {rules : Rules} {ev : Evaluator} {f : Closure} {args : List Value}
    {span : Span} (hlimit : ∀ m, P m → E (.recursionLimit rules.maxDepth f.name span) m)
    (hbody : ∀ m, P m → ∀ e m₁,
      evalSequence ev m.heap.scopes.size .undefined f.body (m.enter f args).1 = .failed e m₁ →
        E e (m₁.leave m.heap.scopes.size rules.clearsFrames)) :
    Ensures P (fun _ => True) E (callFunction rules ev f args span) := by
  intro m hm
  have hfailed := hbody m hm
  rw [callFunction]
  split
  · exact hlimit m hm
  · simp only [runBody, Machine.enter_snd]
    generalize evalSequence ev _ _ _ _ = o at hfailed
    cases o with
    | done v m₁ => trivial
    | failed e m₁ => exact hfailed e m₁ rfl
    | unfinished => trivial

/-- A run fails as the evaluation does, or because its output cannot be flushed. -/
theorem flushed_ensures {x : Eval Value} (hx : Ensures P (fun _ => True) E x)
    (hflush : ∀ m, E (.output "flush failed") m) : Ensures P (fun _ => True) E (flushed x) := by
  have hflush : ∀ Q, Ensures Q Q E Eval.flush := by
    intro Q m hm
    rw [Eval.flush]
    split
    · exact hflush m
    · exact hm
  intro m hm
  have hxm := hx m hm
  rw [flushed]
  generalize x m = o at hxm
  cases o with
  | done v m₁ => exact (hflush _).bind (fun _ => .pure (fun _ => id) v) m₁ hxm
  | failed e m₁ => exact (hflush (E e)).bind (fun _ => .fail fun _ => id) m₁ hxm
  | unfinished => trivial

end ScopeScript
