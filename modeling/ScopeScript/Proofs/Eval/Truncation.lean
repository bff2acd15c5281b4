import ScopeScript.Pattern.Library
import ScopeScript.Proofs.Eval.CallDepth
import ScopeScript.Proofs.Eval.Limit
import ScopeScript.Proofs.Eval.Moment

/-!
# Output that is cut off

Two evaluations of one program, one with an output without bound and one with an output that is full
after some number of bytes. They go on in lock step as long as everything fits. Nothing in a program
can catch an error of the output, so the bounded evaluation ends at the first line that does not
fit, with as much of it written as there is room for. The unbounded one has written more by then,
and it never takes anything back.
-/

namespace ScopeScript

open Eval Interpreter

/-! ## Bounded output -/

/-- As many bytes as there are, or more, are all of them. -/
theorem extract_of_size_le {bytes : ByteArray} {n : Nat} (h : bytes.size ≤ n) :
    bytes.extract 0 n = bytes := by
  ext1
  rw [ByteArray.data_extract, Array.extract_eq_self_of_le h]

/-- A prefix that reaches into the second text has all of the first one. -/
theorem extract_append_of_size_le {before : ByteArray} {n : Nat} (h : before.size ≤ n)
    (bytes : ByteArray) :
    (before ++ bytes).extract 0 n = before ++ bytes.extract 0 (n - before.size) := by
  rw [ByteArray.extract_append, extract_of_size_le h, Nat.zero_sub]

/-- Without a bound everything is written. -/
theorem Sink.write_of_unbounded {s : Sink} (hlimit : s.limit = none) (text : String) :
    s.write text = ({ s with written := s.written ++ text.toUTF8 }, true) := by
  rw [Sink.write, hlimit]
  rfl

/-- A bounded sink takes as much as there is room for. -/
theorem Sink.write_bounded {s : Sink} {limit : Nat} (hsize : s.written.size ≤ limit)
    (text : String) :
    Sink.write { s with limit := some limit } text =
      ({ s with written := (s.written ++ text.toUTF8).extract 0 limit, limit := some limit },
        decide ((s.written ++ text.toUTF8).size ≤ limit)) := by
  rw [Sink.write, ByteArray.size_append, Option.map_some]
  dsimp only
  split
  · next hroom =>
    have hfits : s.written.size + text.toUTF8.size ≤ limit := by omega
    rw [decide_eq_true hfits, extract_of_size_le (ByteArray.size_append.trans_le hfits)]
  · next hroom =>
    have hfull : ¬ s.written.size + text.toUTF8.size ≤ limit := by omega
    rw [decide_eq_false hfull, extract_append_of_size_le hsize]

section

variable [SearchContext]

/-- The state with an output that takes so many bytes in all. -/
def Machine.bounded (limit : Nat) (m : Machine) : Machine :=
  { m with sink := { m.sink with limit := some limit } }

namespace Machine

variable (m : Machine) (limit : Nat)

/-- A bound on the output does not touch the heap. -/
@[simp] theorem heap_bounded : (m.bounded limit).heap = m.heap := rfl

/-- A bound on the output does not touch the depth. -/
@[simp] theorem depth_bounded : (m.bounded limit).depth = m.depth := rfl

/-- Entering a call is the same with bounded output. -/
theorem enter_bounded (f : Closure) (args : List Value) :
    (m.bounded limit).enter f args = ((m.enter f args).1.bounded limit, (m.enter f args).2) := rfl

/-- Leaving a call is the same with bounded output. -/
theorem leave_bounded (frame : ScopeId) (clear : Bool) :
    (m.bounded limit).leave frame clear = (m.leave frame clear).bounded limit := rfl

end Machine

/-- The outcome with an output that takes so many bytes in all. -/
def Outcome.bounded {α : Type} (limit : Nat) : Outcome α → Outcome α
  | .done a m => .done a (m.bounded limit)
  | .failed e m => .failed e (m.bounded limit)
  | .unfinished => .unfinished

/-- The moment with an output that takes so many bytes in all. -/
def Moment.bounded (limit : Nat) : Moment → Moment
  | .start e env m => .start e env (m.bounded limit)
  | .finish e env v m => .finish e env v (m.bounded limit)

/-- Of the moments of an unbounded evaluation those at which no more than so many bytes are written
are seen in the bounded one. -/
def UpTo (limit : Nat) (seen : Moment → Prop) (x : Moment) : Prop :=
  x.machine.sink.written.size ≤ limit → seen (x.bounded limit)

/-- The output stays unbounded if it is, and nothing is taken back. -/
def Appends (m m' : Machine) : Prop := m'.sink.limit = m.sink.limit ∧ WritesMore m m'

instance : IsPreorder Machine Appends where
  refl m := ⟨rfl, refl m⟩
  trans _ _ _ h h' := ⟨h'.1.trans h.1, IsTrans.trans _ _ _ h.2 h'.2⟩

/-- The same output is as unbounded as before, with nothing taken back. -/
theorem Appends.of_sink_eq {m m' : Machine} (h : m'.sink = m.sink) : Appends m m' :=
  ⟨congrArg Sink.limit h, .of_sink_eq h⟩

/-- A further text leaves the output as unbounded as before, with nothing taken back. -/
theorem Appends.of_write {m m' : Machine} {text : String}
    (h : m'.sink = (m.sink.write text).1) : Appends m m' := by
  refine ⟨?_, .of_write h⟩
  rw [h, Sink.write]
  split
  · rfl
  · split <;> rfl

/-- What has been written beyond the bound does not change the part that fits. -/
theorem Appends.extract {m m' : Machine} (h : Appends m m') {limit : Nat}
    (hsize : limit < m.sink.written.size) :
    limit < m'.sink.written.size ∧
      m'.sink.written.extract 0 limit = m.sink.written.extract 0 limit := by
  obtain ⟨-, bytes, hbytes⟩ := h
  rw [hbytes, ByteArray.size_append, ByteArray.extract_append, Nat.zero_sub,
    Nat.sub_eq_zero_of_le hsize.le, ByteArray.extract_same, ByteArray.append_empty]
  exact ⟨Nat.lt_add_right _ hsize, rfl⟩

/-! ## Lock step -/

variable {α β : Type} {limit : Nat}

/-- The same outcomes, but for results that `V` relates and for the bound, unless the output of the
first is full. Then the second has written more, and the first as much of it as there is room for.
-/
inductive UpToFull (limit : Nat) (V : α → β → Prop) : Outcome α → Outcome β → Prop
  | done {a b} {m : Machine} : V a b → m.sink.written.size ≤ limit →
    UpToFull limit V (.done a (m.bounded limit)) (.done b m)
  | failed (e : RuntimeError) {m : Machine} : m.sink.written.size ≤ limit →
    UpToFull limit V (.failed e (m.bounded limit)) (.failed e m)
  | unfinished : UpToFull limit V .unfinished .unfinished
  | full {m : Machine} {o : Outcome β} :
    (∀ m', o.machine? = some m' → limit < m'.sink.written.size ∧
      m.sink.written = m'.sink.written.extract 0 limit) →
    UpToFull limit V (.failed (.output "full") m) o

/-- A computation with bounded output and one without bound. -/
structure Truncated (limit : Nat) (V : α → β → Prop) (x : Eval α) (y : Eval β) : Prop where
  outcome : ∀ m : Machine, m.sink.limit = none → m.sink.written.size ≤ limit →
    UpToFull limit V (x (m.bounded limit)) (y m)
  appends : Keeps Appends y
  result : ∀ m b m', y m = .done b m' → ∃ a, V a b

namespace Truncated

/-- What does not depend on the output. -/
theorem quiet {V : α → α → Prop} (hV : ∀ a, V a a) {x : Eval α}
    (hx : ∀ m : Machine, x (m.bounded limit) = (x m).bounded limit)
    (hsink : Keeps (fun m m' => m'.sink = m.sink) x) : Truncated limit V x x where
  outcome m _ hsize := by
    have hkept := hsink m
    rw [hx]
    generalize x m = o at hkept
    cases o with
    | done a m' => exact .done (hV a) ((hkept m' rfl).symm ▸ hsize)
    | failed e m' => exact .failed e ((hkept m' rfl).symm ▸ hsize)
    | unfinished => exact .unfinished
  appends m m' h := .of_sink_eq (hsink m m' h)
  result _ b _ _ := ⟨b, hV b⟩

/-- Giving values that are related. -/
theorem pure {V : α → β → Prop} {a : α} {b : β} (hab : V a b) :
    Truncated limit V (Pure.pure a) (Pure.pure b) where
  outcome _ _ hsize := .done hab hsize
  appends := Keeps.pure b
  result := by
    rintro m b m' ⟨⟩
    exact ⟨a, hab⟩

/-- Failing with the same error. -/
theorem fail {V : α → β → Prop} (e : RuntimeError) :
    Truncated limit V (Eval.fail e) (Eval.fail e) where
  outcome _ _ hsize := .failed e hsize
  appends := Keeps.fail e
  result := by
    rintro m b m' ⟨⟩

/-- A computation with bounded output and one without, and what follows them. -/
theorem bind {α' β' : Type} {V : α → β → Prop} {V' : α' → β' → Prop} {x : Eval α} {y : Eval β}
    {f : α → Eval α'} {g : β → Eval β'} (hxy : Truncated limit V x y)
    (hfg : ∀ a b, V a b → Truncated limit V' (f a) (g b)) :
    Truncated limit V' (x >>= f) (y >>= g) where
  outcome m hlimit hsize := by
    have hout := hxy.outcome m hlimit hsize
    have happends := hxy.appends m
    have hresult := hxy.result m
    change UpToFull limit V' (Eval.bind x f _) (Eval.bind y g m)
    rw [Eval.bind, Eval.bind]
    generalize x (m.bounded limit) = o at hout
    generalize y m = o' at hout happends hresult
    cases hout with
    | done hab hsize₁ =>
      have hlimit₁ := (happends _ rfl).1.trans hlimit
      exact (hfg _ _ hab).outcome _ hlimit₁ hsize₁
    | failed e hsize₁ => exact .failed e hsize₁
    | unfinished => exact .unfinished
    | full hfull =>
      -- The second goes on, if it does, and writes behind the bound only.
      refine .full fun m' hm' => ?_
      cases o' with
      | done b m₁ =>
        obtain ⟨a, hab⟩ := hresult b m₁ rfl
        obtain ⟨hmore, hwritten⟩ := hfull m₁ rfl
        obtain ⟨hmore', hsame⟩ := ((hfg a b hab).appends m₁ m' hm').extract hmore
        exact ⟨hmore', hwritten.trans hsame.symm⟩
      | failed e m₁ => exact hfull m' hm'
      | unfinished => cases hm'
  appends m m' h := by
    change (Eval.bind y g m).machine? = some m' at h
    rw [Eval.bind] at h
    have happends := hxy.appends m
    have hresult := hxy.result m
    generalize y m = o at h happends hresult
    cases o with
    | done b m₁ =>
      obtain ⟨a, hab⟩ := hresult b m₁ rfl
      exact IsTrans.trans _ _ _ (happends m₁ rfl) ((hfg a b hab).appends m₁ m' h)
    | failed e m₁ => exact happends m' h
    | unfinished => cases h
  result m b' m' h := by
    change Eval.bind y g m = .done b' m' at h
    rw [Eval.bind] at h
    have hresult := hxy.result m
    generalize y m = o at h hresult
    cases o with
    | done b m₁ =>
      obtain ⟨a, hab⟩ := hresult b m₁ rfl
      exact (hfg a b hab).result m₁ b' m' h
    | failed e m₁ => cases h
    | unfinished => cases h

/-- A line that does not fit is written as far as there is room. -/
theorem writeLine (text : String) :
    Truncated limit (fun _ _ => True) (Eval.writeLine text) (Eval.writeLine text) where
  outcome m hlimit hsize := by
    have hwrite := Sink.write_bounded hsize (text.push '\n')
    simp only [Eval.writeLine, Machine.bounded, hwrite, Sink.write_of_unbounded hlimit, if_true,
      decide_eq_true_eq]
    split
    · next hroom =>
      rw [extract_of_size_le hroom]
      exact .done (m := { m with sink := { m.sink with written := _ } }) trivial hroom
    · next hroom =>
      refine .full ?_
      rintro m' ⟨⟩
      exact ⟨Nat.lt_of_not_le hroom, rfl⟩
  appends := writeLine_keeps_of_sink .of_write text
  result _ _ _ _ := ⟨(), trivial⟩

end Truncated

/-- Evaluations with bounded output and without bound. -/
def truncating (limit : Nat) : Coupling where
  World := Unit
  Later _ _ := True
  isPreorder := isPreorder_unit
  closure _ := Eq
  span := Eq
  Coupled V w := Truncated limit (V w)
  closure_name hf := congrArg Closure.name hf
  closure_later _ hf := hf
  pure := Truncated.pure
  fail he := he.eq ▸ Truncated.fail _
  bind hxy hfg := hxy.bind fun a b hab => hfg () trivial a b hab
  writeLine _ text := .writeLine text

/-! ## Calls and expressions -/

variable {rules : Rules} {ev ev' : Evaluator}

/-- Evaluators with bounded output and without bound. -/
def TruncatedEvaluators (limit : Nat) (ev ev' : Evaluator) : Prop :=
  ∀ e env, Truncated limit (Value.Lift Eq) (ev e env) (ev' e env)

/-- Expressions go with themselves if their evaluations do. -/
theorem TruncatedEvaluators.exprs (hev : TruncatedEvaluators limit ev ev') (env : ScopeId)
    (es : List Expr) : (truncating limit).Exprs () ev ev' env env es es :=
  List.forall₂_same.mpr fun e _ _ _ => hev e env

/-- A call is left the same way whether its body fails for the bound or not. -/
theorem callFunction_truncated (hev : TruncatedEvaluators limit ev ev') (f : Closure)
    (args : List Value) (span : Span) :
    Truncated limit (Value.Lift Eq) (callFunction rules ev f args span)
      (callFunction rules ev' f args span) where
  outcome m hlimit hsize := by
    have hbody := ((truncating limit).evalSequence_coupled (hev.exprs m.heap.scopes.size f.body)
      .undefined).outcome (m.enter f args).1 hlimit hsize
    rw [callFunction, callFunction, Machine.depth_bounded]
    split
    · exact .failed _ hsize
    simp only [runBody, Machine.enter_bounded, Machine.enter_snd]
    generalize evalSequence ev _ _ _ _ = o at hbody
    generalize evalSequence ev' _ _ _ _ = o' at hbody
    cases hbody with
    | done hv hsize₁ =>
      obtain rfl := hv.eq
      simp only [Machine.heap_bounded, Machine.leave_bounded]
      exact .done (Value.lift_eq_refl _) hsize₁
    | failed e hsize₁ =>
      simp only [Machine.leave_bounded]
      exact .failed e hsize₁
    | unfinished => exact .unfinished
    | full hfull =>
      refine .full fun m' h => ?_
      cases o' with
      | done v m₁ =>
        cases h
        exact hfull m₁ rfl
      | failed e m₁ =>
        cases h
        exact hfull m₁ rfl
      | unfinished => cases h
  appends := callFunction_keeps_of_sink .of_sink_eq rules (fun e env => (hev e env).appends) f args
    span
  result _ b _ _ := ⟨b, b.lift_eq_refl⟩

/-- One step goes on in lock step until the output is full. -/
theorem evalStep_truncated (hev : TruncatedEvaluators limit ev ev') {call call' : Caller}
    (hcall : ∀ f args span,
      Truncated limit (Value.Lift Eq) (call f args span) (call' f args span)) (rounds : Nat) :
    TruncatedEvaluators limit (evalStep call ev rounds) (evalStep call' ev' rounds) := by
  intro e env
  refine (truncating limit).evalStep_self (w := ()) Iff.rfl Iff.rfl ?_ ?_ ?_ ?_
    (fun c _ _ => hev c env) (fun _ _ f vs span => hcall f vs span) rounds e
  · refine fun _ name => .quiet (fun v? => ?_) (fun _ => rfl) (Keeps.lookup? env name)
    cases v? with
    | none => exact .none
    | some v => exact .some v.lift_eq_refl
  · exact fun _ name v => .quiet (fun _ => trivial) (fun _ => rfl)
      (bindName_keeps_of_sink id env name v)
  · exact fun _ => .quiet (fun _ => rfl) (fun _ => rfl) (newChild_keeps_of_sink id env)
  · exact fun _ => .quiet Value.lift_eq_refl (fun _ => rfl) Keeps.stop

/-! ## Moments -/

/-- What is seen at its moments is the evaluation, or it stops. -/
theorem seeing_eq_or (seen : Moment → Prop) (ev : Evaluator) (e : Expr) (env : ScopeId)
    (m : Machine) :
    seeing seen ev e env m = ev e env m ∨ seeing seen ev e env m = .unfinished := by
  rw [seeing]
  split
  · exact .inl rfl
  · exact .inr rfl

/-- The moment behind an expression is seen with bounded output if it is seen without bound while
everything fits. -/
theorem UpToFull.finish_iff {o o' : Outcome Value} (h : UpToFull limit (Value.Lift Eq) o o')
    (seen : Moment → Prop) {e : Expr} {env : ScopeId} :
    (∀ v m, o' = .done v m → UpTo limit seen (.finish e env v m)) ↔
      ∀ v m, o = .done v m → seen (.finish e env v m) := by
  cases h with
  | done hv hsize =>
    obtain rfl := hv.eq
    constructor
    · rintro hseen _ _ ⟨⟩
      exact hseen _ _ rfl hsize
    · rintro hseen _ _ ⟨⟩ -
      exact hseen _ _ rfl
  | failed | unfinished => constructor <;> rintro - _ _ ⟨⟩
  | full hfull =>
    constructor
    · rintro - _ _ ⟨⟩
    · rintro - v m rfl hsize
      exact absurd hsize (hfull m rfl).1.not_ge

/-- With bounded output an evaluation stops at a moment where it does so without bound. -/
theorem TruncatedEvaluators.seeing (hev : TruncatedEvaluators limit ev ev')
    (seen : Moment → Prop) :
    TruncatedEvaluators limit (seeing seen ev) (seeing (UpTo limit seen) ev') := by
  refine fun e env => ⟨fun m hlimit hsize => ?_, fun m m' h => ?_, fun m b m' h => ?_⟩
  · have hout := (hev e env).outcome m hlimit hsize
    have hstart : UpTo limit seen (.start e env m) ↔ seen (.start e env (m.bounded limit)) :=
      ⟨fun h => h hsize, fun h _ => h⟩
    rw [ScopeScript.seeing, ScopeScript.seeing, hstart, hout.finish_iff seen]
    split
    · exact hout
    · exact .unfinished
  · obtain heq | heq := seeing_eq_or (UpTo limit seen) ev' e env m
    · exact (hev e env).appends m m' (heq ▸ h)
    · rw [heq] at h
      cases h
  · exact ⟨b, b.lift_eq_refl⟩

/-- **Bounded and unbounded evaluation** go on in lock step until the output is full, from one
moment that is seen to the next. -/
theorem evalSeeing_truncated (seen : Moment → Prop) (rules : Rules) (steps : Nat) :
    TruncatedEvaluators limit (evalSeeing seen rules steps)
      (evalSeeing (UpTo limit seen) rules steps) := by
  induction steps with
  | zero => exact fun e env => .quiet Value.lift_eq_refl (fun _ => rfl) Keeps.stop
  | succ steps ih => exact (evalStep_truncated ih (callFunction_truncated ih) steps).seeing seen

/-! ## Programs -/

section Programs

variable (limit)

/-- With bounded output a program stops at a moment where it does so without bound. -/
theorem evalSequenceSeeing_truncated (seen : Moment → Prop) (rules : Rules) (steps : Nat)
    (program : List Expr) (env : ScopeId) :
    Truncated limit (Value.Lift Eq)
      (evalSequence (evalSeeing seen rules steps) env .undefined program)
      (evalSequence (evalSeeing (UpTo limit seen) rules steps) env .undefined program) :=
  (truncating limit).evalSequence_coupled
    ((evalSeeing_truncated seen rules steps).exprs env program) .undefined

/-- A program with bounded output does what it does without bound, up to where the output is full.
-/
theorem evalProgram_truncated (rules : Rules) (steps : Nat) (program : List Expr)
    (env : ScopeId) :
    Truncated limit (Value.Lift Eq) (evalProgram rules steps program env)
      (evalProgram rules steps program env) := by
  have hall := evalSequenceSeeing_truncated limit (fun _ => True) rules steps program env
  have hupTo : ∀ x, UpTo limit (fun _ => True) x := fun _ _ => trivial
  rwa [evalSeeing_of_forall fun _ => trivial, evalSeeing_of_forall hupTo] at hall

end Programs

/-- Either everything fits, or the bounded output is full with the part that fits. -/
theorem UpToFull.eq_or_full {o o' : Outcome Value} (h : UpToFull limit (Value.Lift Eq) o o')
    {m : Machine} (hm : o'.machine? = some m) :
    m.sink.written.size ≤ limit ∧ o = o'.bounded limit ∨
      limit < m.sink.written.size ∧ ∃ m₂, o = .failed (.output "full") m₂ ∧
        m₂.sink.written = m.sink.written.extract 0 limit := by
  cases h with
  | done hv hsize =>
    obtain rfl := hv.eq
    cases hm
    exact .inl ⟨hsize, rfl⟩
  | failed e hsize =>
    cases hm
    exact .inl ⟨hsize, rfl⟩
  | unfinished => cases hm
  | full hfull => exact .inr ⟨(hfull m hm).1, _, rfl, (hfull m hm).2⟩

/-- All moments of the bounded evaluation are moments of the unbounded one at which everything
fits. -/
theorem StaysWithin.of_bounded {seen : Moment → Prop} {steps : Nat} {program : List Expr}
    {env : ScopeId} {m : Machine} (h : StaysWithin (UpTo limit seen) rules steps program env m)
    (hlimit : m.sink.limit = none) (hsize : m.sink.written.size ≤ limit) :
    StaysWithin seen rules steps program env (m.bounded limit) := by
  have htruncated := evalSequenceSeeing_truncated limit seen rules steps program env
  have hout := htruncated.outcome m hlimit hsize
  intro hunfinished
  rw [StaysWithin] at h
  rw [hunfinished] at hout
  generalize evalSequence _ _ _ _ m = o at h hout
  cases hout
  exact h rfl

/-- The state with an output that has room for so many bytes more. -/
def Machine.withRoom (room : Nat) (m : Machine) : Machine :=
  m.bounded (m.sink.written.size + room)

/-- An outcome with bounded output leaves the same state behind but for the bound. -/
@[simp] theorem Outcome.machine?_bounded (o : Outcome α) (limit : Nat) :
    (o.bounded limit).machine? = o.machine?.map (Machine.bounded limit) := by
  cases o <;> rfl

/-- **Bounding the output.** Take a program whose run ends with an output without bound that can be
flushed, and let the output have room for some bytes only. The run ends as well, with as much
written as there is room for. If there is room for all, it ends the same way, in the same state but
for the bound. Otherwise it fails because the output is full, with no call in progress that was not
before. Nothing behind the line that does not fit is evaluated then: every moment of the bounded
evaluation is one of the unbounded one at which everything fits, and the heap is that of such a
moment, with frames of calls cleared. -/
theorem run_of_bounded_sink (rules : Rules) (program : List Expr) (env : ScopeId) {m : Machine}
    (hlimit : m.sink.limit = none) (hflush : m.sink.flushFails = false) {steps : Nat}
    (hends : runProgram rules steps program env m ≠ .unfinished) (room : Nat) :
    ∃ m₁ m₂ out,
      (runProgram rules steps program env m).machine? = some m₁ ∧
      (runProgram rules steps program env (m.withRoom room)).machine? = some m₂ ∧
      m₁.sink.written = m.sink.written ++ out ∧
      m₂.sink.written = m.sink.written ++ out.extract 0 room ∧
      (out.size ≤ room → runProgram rules steps program env (m.withRoom room) =
        (runProgram rules steps program env m).bounded (m.sink.written.size + room)) ∧
      (room < out.size →
        runProgram rules steps program env (m.withRoom room) = .failed (.output "full") m₂ ∧
        m₂.depth = m.depth ∧
        ∀ seen, StaysWithin (UpTo (m.sink.written.size + room) seen) rules steps program env m →
          StaysWithin seen rules steps program env (m.withRoom room) ∧
          LeftBehind seen m.heap.scopes.size m₂.heap) := by
  have hsize : m.sink.written.size ≤ m.sink.written.size + room := Nat.le_add_right _ _
  have hbounded : runProgram rules steps program env (m.withRoom room) =
      evalProgram rules steps program env (m.withRoom room) := runProgram_eq_evalProgram hflush
  rw [runProgram_eq_evalProgram hflush] at hends ⊢
  rw [hbounded]
  have htruncated := evalProgram_truncated (m.sink.written.size + room) rules steps program env
  obtain ⟨m₁, hm₁⟩ := Option.isSome_iff_exists.mp (Outcome.isSome_machine?_iff.mpr hends)
  obtain ⟨-, out, hout⟩ := htruncated.appends m m₁ hm₁
  have hsize₁ : m₁.sink.written.size = m.sink.written.size + out.size := by
    rw [hout, ByteArray.size_append]
  obtain ⟨hfits, heq⟩ | ⟨hfull, m₂, hfailed, hwritten⟩ :=
    (htruncated.outcome m hlimit hsize).eq_or_full hm₁
  · have hroom : out.size ≤ room := by omega
    refine ⟨m₁, m₁.bounded (m.sink.written.size + room), out, hm₁, ?_, hout, ?_, fun _ => heq,
      fun hmore => absurd hroom hmore.not_ge⟩
    · rw [Machine.withRoom, heq, Outcome.machine?_bounded, hm₁]
      rfl
    · rw [extract_of_size_le hroom]
      exact hout
  · have hroom : room < out.size := by omega
    rw [hout, extract_append_of_size_le hsize, Nat.add_sub_cancel_left] at hwritten
    have hm₂ : (evalProgram rules steps program env (m.withRoom room)).machine? = some m₂ :=
      congrArg Outcome.machine? hfailed
    have hdepth : m₂.depth = m.depth :=
      evalProgram_keepsDepth rules steps program env (m.withRoom room) m₂ hm₂
    refine ⟨m₁, m₂, out, hm₁, hm₂, hout, hwritten, fun hless => absurd hroom hless.not_gt,
      fun _ => ⟨hfailed, hdepth, fun seen hstays => ?_⟩⟩
    have hseen := hstays.of_bounded hlimit hsize
    exact ⟨hseen, hseen.leftBehind hfailed⟩

end

/-- A function that prints, a call of it, and what stands behind the call. -/
def printBeforeBinding : List Expr :=
  (readProgram "f(x) \x7b print(x); \x7d; f('ab'); a = 'c'; print(a);").toOption.getD []

/-- With room for two bytes the program fails at its second line, and leaves behind what it has
bound before. -/
theorem run_of_bounded_sink_printBeforeBinding :
    ∃ m₂, runProgram ⟨1, true⟩ 9 printBeforeBinding globals
        ((fresh ⟨1, true⟩ .unbounded).machine.withRoom 2) = .failed (.output "full") m₂ ∧
      m₂.sink.written = "ab".toUTF8 ∧ m₂.depth = 0 ∧
      ∀ seen, StaysWithin (UpTo 2 seen) ⟨1, true⟩ 9 printBeforeBinding globals
        (fresh ⟨1, true⟩ .unbounded).machine → LeftBehind seen 8 m₂.heap := by
  have hwritten : (runProgram ⟨1, true⟩ 9 printBeforeBinding globals
      (fresh ⟨1, true⟩ .unbounded).machine).machine?.map (·.sink.written) =
        some "ab\nc\n".toUTF8 := by decide +kernel
  have hends : runProgram ⟨1, true⟩ 9 printBeforeBinding globals
      (fresh ⟨1, true⟩ .unbounded).machine ≠ .unfinished :=
    Outcome.isSome_machine?_iff.mp (by decide +kernel)
  have hscopes : (fresh ⟨1, true⟩ .unbounded).machine.heap.scopes.size = 8 := by decide +kernel
  obtain ⟨m₁, m₂, out, hm₁, -, hout, htruncated, -, hfull⟩ :=
    run_of_bounded_sink ⟨1, true⟩ printBeforeBinding globals rfl rfl hends 2
  rw [hm₁, Option.map_some, Option.some.injEq] at hwritten
  obtain rfl : out = "ab\nc\n".toUTF8 :=
    ByteArray.empty_append.symm.trans (hout.symm.trans hwritten)
  obtain ⟨hfailed, hdepth, hstays⟩ := hfull (by decide)
  exact ⟨m₂, hfailed, htruncated.trans (by decide +kernel), hdepth,
    fun seen h => hscopes ▸ (hstays seen h).2⟩

end ScopeScript
