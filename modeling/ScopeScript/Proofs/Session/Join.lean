import Mathlib.Data.List.Infix
import ScopeScript.Pattern.Library
import ScopeScript.Proofs.Eval.Alike
import ScopeScript.Proofs.Eval.Output
import ScopeScript.Proofs.Expr.Join
import ScopeScript.Proofs.Session.Basic

/-!
# Texts run in turn and texts joined

Running texts one after the other, up to the first error, does what running the joined text
does, as long as each text can be read and all but the last one end a statement. The two leave
the same scopes with the same bindings and the same output, and end with the same value or
error; only the places in the bodies of functions and in errors differ, since a text further
behind starts later in the joined text. Output that cannot be flushed is left out: every run
flushes, and the joined text does so once.
-/

namespace ScopeScript

open Eval ScopeScript.Expr

/-! ## Moved places -/

/-- An expression and the same one at places moved by one of the maps of `G`. -/
def Expr.Moved (G : (Location → Location) → Prop) (e e' : Expr) : Prop :=
  ∃ g, G g ∧ e' = e.relocate g

/-- A span and the same one moved by one of the maps of `G`. -/
def Span.Moved (G : (Location → Location) → Prop) (s s' : Span) : Prop :=
  ∃ g, G g ∧ s' = s.relocate g

variable {G : (Location → Location) → Prop}

/-- Trees that are moved alike are moved one by one. -/
theorem forall₂_moved {g : Location → Location} (hg : G g) (es : List Expr) :
    List.Forall₂ (Expr.Moved G) es (relocateAll g es) := by
  induction es with
  | nil => exact .nil
  | cons e rest ih => exact .cons ⟨g, hg, rfl⟩ ih

/-- A moved node has its parts moved. -/
theorem node_moved (e e' : Expr) (he : Expr.Moved G e e') :
    Expr.Node (Expr.Moved G) (Span.Moved G) e e' := by
  obtain ⟨g, hg, rfl⟩ := he
  have hexpr : ∀ e, Expr.Moved G e (e.relocate g) := fun e => ⟨g, hg, rfl⟩
  have hspan : ∀ s, Span.Moved G s (s.relocate g) := fun s => ⟨g, hg, rfl⟩
  cases e with
  | number text s => exact .number text
  | string text s => exact .string text
  | symbol name s => exact .symbol name (hspan s)
  | operation op left right s => exact .operation op (hexpr left) (hexpr right) (hspan s)
  | call callee args s => exact .call (hexpr callee) (forall₂_moved hg args) (hspan s)
  | definition name params body s =>
    exact .definition rfl (forall₂_moved hg params) (forall₂_moved hg body)
  | assignment target value s => exact .assignment rfl (hexpr value)

/-- The span of a tree moves with it. -/
theorem span_moved (e e' : Expr) (he : Expr.Moved G e e') : Span.Moved G e.span e'.span := by
  obtain ⟨g, hg, rfl⟩ := he
  exact ⟨g, hg, span_relocate g e⟩

namespace Interpreter

/-! ## Reading joined texts -/

/-- Whether a text has tokens and ends a statement: the last one, if there is one, is a
semicolon. -/
def endsStatement (source : String) : Bool :=
  match tokenize source with
  | .ok ts => ts.getLast?.all (·.kind == .semicolon)
  | .error _ => false

/-- A text has a program whose expressions are those of `p` before they were moved. -/
def Reads (G : (Location → Location) → Prop) (source : String) (p : List Expr) : Prop :=
  ∃ q, readProgram source = .ok q ∧ List.Forall₂ (Expr.Moved G) q p

/-- Tokens end a statement if the last one is a semicolon. -/
theorem endsStatement_iff {source : String} {ts : List Token} (h : tokenize source = .ok ts) :
    endsStatement source = true ↔ EndsWith .semicolon ts := by
  rw [endsStatement, h]
  simp only [EndsWith, Option.all_eq_true, beq_iff_eq, Option.mem_def]

/-- How the places of a text move behind another one. -/
def behind (source : String) : Location → Location :=
  .shift (Location.start.advance source.toList)

/-- **The program of two texts joined**, the first of which ends a statement. -/
theorem readProgram_append {source source' : String} {p p' : List Expr}
    (h : readProgram source = .ok p) (hends : endsStatement source = true)
    (h' : readProgram source' = .ok p') :
    readProgram (source ++ source') = .ok (p ++ relocateAll (behind source) p') := by
  obtain ⟨ts, hts, hp⟩ := tokenize_of_readProgram h
  obtain ⟨ts', hts', hp'⟩ := tokenize_of_readProgram h'
  have hends' := (endsStatement_iff hts).mp hends
  exact readProgram_of_tokenize (tokenize_append hts hts') (parse_append hp hends' hp' _)

/-- Two texts that end a statement do so when they are joined. -/
theorem endsStatement_append {source source' : String} {p p' : List Expr}
    (h : readProgram source = .ok p) (hends : endsStatement source = true)
    (h' : readProgram source' = .ok p') (hends' : endsStatement source' = true) :
    endsStatement (source ++ source') = true := by
  obtain ⟨ts, hts, -⟩ := tokenize_of_readProgram h
  obtain ⟨ts', hts', -⟩ := tokenize_of_readProgram h'
  rw [endsStatement_iff (tokenize_append hts hts')]
  refine ((endsStatement_iff hts).mp hends).append fun t ht => ?_
  rw [List.getLast?_map, Option.mem_def, Option.map_eq_some_iff] at ht
  obtain ⟨u, hu, rfl⟩ := ht
  exact (endsStatement_iff hts').mp hends' u hu

/-- How the places of texts move when these are joined: not at all, which is the case for whatever
was read before, or behind some of the texts. -/
def BehindSome (sources : List String) (g : Location → Location) : Prop :=
  g = id ∨ ∃ before, before <+: sources ∧ g = behind (String.join before)

/-- A text that can be read has a program. -/
theorem exists_of_isOk {source : String} (h : (readProgram source).isOk = true) :
    ∃ p, readProgram source = .ok p := by
  cases hp : readProgram source with
  | error e => simp [hp, Except.isOk, Except.toBool] at h
  | ok p => exact ⟨p, rfl⟩

/-- The program of texts joined that all but the last end a statement. -/
theorem readProgram_join {sources before rest : List String} (hsources : before ++ rest = sources)
    {p : List Expr} (hbefore : readProgram (String.join before) = .ok p)
    (hbeforeEnds : rest ≠ [] → endsStatement (String.join before) = true)
    (hread : ∀ s ∈ rest, (readProgram s).isOk = true)
    (hends : ∀ s ∈ rest.dropLast, endsStatement s = true) :
    ∃ ps, List.Forall₂ (Reads (BehindSome sources)) rest ps ∧
      readProgram (String.join sources) = .ok (p ++ ps.flatten) := by
  induction rest generalizing before p with
  | nil =>
    subst hsources
    exact ⟨[], .nil, by simpa using hbefore⟩
  | cons s rest ih =>
    obtain ⟨q, hq⟩ := exists_of_isOk (hread s List.mem_cons_self)
    have hprefix : before <+: sources := ⟨s :: rest, hsources⟩
    have hjoin : String.join (before ++ [s]) = String.join before ++ s := by
      simp [String.join]
    have hbeforeEnds := hbeforeEnds (by simp)
    have hnext := readProgram_append hbefore hbeforeEnds hq
    rw [← hjoin] at hnext
    have hnextEnds : rest ≠ [] → endsStatement (String.join (before ++ [s])) = true := by
      intro hne
      have hs : s ∈ (s :: rest).dropLast := by
        rw [List.dropLast_cons_of_ne_nil hne]
        exact List.mem_cons_self
      rw [hjoin]
      exact endsStatement_append hbefore hbeforeEnds hq (hends s hs)
    have hrestEnds : ∀ t ∈ rest.dropLast, endsStatement t = true := by
      intro t ht
      have hne : rest ≠ [] := by
        rintro rfl
        simp at ht
      refine hends t ?_
      rw [List.dropLast_cons_of_ne_nil hne]
      exact List.mem_cons_of_mem s ht
    obtain ⟨ps, hps, hjoined⟩ := ih (by simpa using hsources) hnext hnextEnds
      (fun t ht => hread t (List.mem_cons_of_mem s ht)) hrestEnds
    refine ⟨relocateAll (behind (String.join before)) q :: ps, .cons ⟨q, hq, ?_⟩ hps, ?_⟩
    · exact forall₂_moved (.inr ⟨before, hprefix, rfl⟩) q
    · simpa using hjoined

end Interpreter

/-! ## Evaluating one program behind another -/

section

variable [SearchContext]

/-- Evaluations of expressions at other places, step by step. -/
def moved (G : (Location → Location) → Prop) : Simulation :=
  alike (Expr.Moved G) (Span.Moved G) False node_moved span_moved

/-- Computations one after the other may be grouped in either way. -/
theorem bind_assoc {α β γ : Type} (x : Eval α) (f : α → Eval β) (g : β → Eval γ) :
    (x >>= f) >>= g = x >>= fun a => f a >>= g := by
  funext m
  change Eval.bind (Eval.bind x f) g m = Eval.bind x (fun a => Eval.bind (f a) g) m
  simp only [Eval.bind]
  cases x m <;> rfl

/-- Sequences one behind the other are evaluated one after the other. -/
theorem evalSequence_append (ev : Evaluator) (env : ScopeId) (es es' : List Expr) (v : Value) :
    evalSequence ev env v (es ++ es') =
      evalSequence ev env v es >>= fun w => evalSequence ev env w es' := by
  induction es generalizing v with
  | nil => rfl
  | cons e rest ih =>
    rw [List.cons_append, evalSequence, evalSequence, bind_assoc]
    simp only [ih]

/-- The value of a sequence that has an expression is that of its last one. -/
theorem evalSequence_cons (ev : Evaluator) (env : ScopeId) (e : Expr) (rest : List Expr)
    (v w : Value) : evalSequence ev env v (e :: rest) = evalSequence ev env w (e :: rest) := rfl

end

namespace Interpreter

section

variable [SearchContext]

/-- Whether a text can be read and has a statement. -/
def hasStatement (source : String) : Bool :=
  match readProgram source with
  | .ok (_ :: _) => true
  | _ => false

/-- Run texts one after the other up to the first error. The value is that of the last text that
has a statement. -/
def inTurn (steps : Nat) (i : Interpreter) (last : Value) : (sources : List String) →
    Option (Except SourceError Value × Interpreter)
  | [] => some (.ok last, i)
  | source :: rest =>
    match i.runWithin steps source with
    | some (.ok v, i') => inTurn steps i' (if hasStatement source then v else last) rest
    | some (.error e, i') => some (.error e, i')
    | none => none

/-- States with the same output and depth, and with the same bindings in every scope up to moved
places. -/
structure SameState (G : (Location → Location) → Prop) (m m' : Machine) : Prop where
  sink_eq : m.sink = m'.sink
  depth_eq : m.depth = m'.depth
  heap : m.heap.Alike (Expr.Moved G) m'.heap

/-- Runs that end alike up to moved places: with the same value or with the same error, and in the
same state. -/
inductive SameEffect (G : (Location → Location) → Prop) :
    Option (Except SourceError Value × Interpreter) →
    Option (Except SourceError Value × Interpreter) → Prop
  | value {v v' rules m m'} : Value.Alike (Expr.Moved G) v v' → SameState G m m' →
    SameEffect G (some (.ok v, ⟨rules, m⟩)) (some (.ok v', ⟨rules, m'⟩))
  | error {e e' rules m m'} : RuntimeError.Lift (Span.Moved G) e e' → SameState G m m' →
    SameEffect G (some (.error (.runtime e), ⟨rules, m⟩))
      (some (.error (.runtime e'), ⟨rules, m'⟩))
  | unfinished : SameEffect G none none

/-- A run of a text evaluates its program, if the output can be flushed. -/
theorem runWithin_of_flush {rules : Rules} {m : Machine} (hflush : m.sink.flushFails = false)
    (steps : Nat) {source : String} {p : List Expr} (hp : readProgram source = .ok p) :
    runWithin ⟨rules, m⟩ steps source =
      ofOutcome rules (evalSequence (eval rules steps) globals .undefined p m) := by
  have hkeeps := evalProgram_keepsFlush rules steps p globals
  rw [runWithin, hp]
  exact congrArg (ofOutcome rules) (flushed_eq fun m₁ h => (hkeeps m m₁ h).trans hflush)

/-- Texts run in turn do what their programs do that are evaluated one behind the other. -/
theorem inTurn_sameEffect {rules : Rules} {steps : Nat} {sources : List String}
    {ps : List (List Expr)} (hread : List.Forall₂ (Reads G) sources ps) {m m' : Machine}
    (hm : SameState G m m') (hflush : m.sink.flushFails = false) {last last' : Value}
    (hlast : Value.Alike (Expr.Moved G) last last') :
    SameEffect G (inTurn steps ⟨rules, m⟩ last sources)
      (ofOutcome rules (evalSequence (eval rules steps) globals last' ps.flatten m')) := by
  induction hread generalizing m m' last last' with
  | nil => exact .value hlast hm
  | @cons source p sources ps hsource _ ih =>
    obtain ⟨q, hq, hqp⟩ := hsource
    have hev : (moved G).Evaluators (eval rules steps) (eval rules steps) :=
      eval_alike rules (le_refl steps) fun _ => rfl
    have hkeeps := evalProgram_keepsFlush rules steps q globals
    have hkept : ∀ m₁, (evalSequence (eval rules steps) globals .undefined q m).machine? = some m₁ →
        m₁.sink.flushFails = false := fun m₁ h => (hkeeps m m₁ h).trans hflush
    rw [inTurn, runWithin_of_flush hflush steps hq, List.flatten_cons, evalSequence_append]
    cases hqp with
    | nil =>
      have hstatement : hasStatement source = false := by rw [hasStatement, hq]
      rw [hstatement]
      exact ih hm hflush hlast
    | @cons e e' q p he hes =>
      have hstatement : hasStatement source = true := by rw [hasStatement, hq]
      have hrel := Simulation.evalSequence_related hev (w := ()) (rfl : globals = globals)
        (.cons he hes) .undefined m m' ⟨hm.sink_eq, hm.depth_eq, hm.heap⟩
      rw [hstatement, evalSequence_cons _ _ _ _ last' .undefined]
      change SameEffect G _ (ofOutcome rules (Eval.bind _ _ m'))
      rw [Eval.bind]
      generalize evalSequence _ globals .undefined (e :: q) m = o at hrel hkept
      generalize evalSequence _ globals .undefined (e' :: p) m' = o' at hrel
      cases hrel with
      | done _ hm₁ hv => exact ih ⟨hm₁.1, hm₁.2.1, hm₁.2.2⟩ (hkept _ rfl) hv
      | failed _ hm₁ he => exact .error he ⟨hm₁.1, hm₁.2.1, hm₁.2.2⟩
      | unfinished ho =>
        rw [ho id]
        exact .unfinished

/-- Any state is like itself, if places may stay. -/
theorem sameState_refl (hid : G id) (m : Machine) : SameState G m m :=
  ⟨rfl, rfl, .refl (fun e => ⟨id, hid, (relocate_id e).symm⟩) m.heap⟩

/-- **Texts run in turn and texts joined.** From any state whose output can be flushed, two texts
run in turn have the effect of the joined text, if both can be read and the first ends a
statement; the places of the second move behind the first. So do any number of texts, if all can
be read and all but the last end a statement. -/
theorem inTurn_eq_joined (i : Interpreter) (hflush : i.machine.sink.flushFails = false)
    (steps : Nat) :
    (∀ source source', (readProgram source).isOk = true → endsStatement source = true →
      (readProgram source').isOk = true →
      SameEffect (fun g => g = id ∨ g = behind source)
        (inTurn steps i .undefined [source, source']) (i.runWithin steps (source ++ source'))) ∧
    ∀ sources, (∀ s ∈ sources, (readProgram s).isOk = true) →
      (∀ s ∈ sources.dropLast, endsStatement s = true) →
      SameEffect (BehindSome sources) (inTurn steps i .undefined sources)
        (i.runWithin steps (String.join sources)) := by
  obtain ⟨rules, m⟩ := i
  constructor
  · intro source source' hsource hends hsource'
    obtain ⟨p, hp⟩ := exists_of_isOk hsource
    obtain ⟨p', hp'⟩ := exists_of_isOk hsource'
    have hmoved := forall₂_moved (G := fun g => g = id ∨ g = behind source) (.inl rfl) p
    rw [relocateAll_id] at hmoved
    have hreads : List.Forall₂ (Reads fun g => g = id ∨ g = behind source) [source, source']
        [p, relocateAll (behind source) p'] :=
      .cons ⟨p, hp, hmoved⟩ (.cons ⟨p', hp', forall₂_moved (.inr rfl) p'⟩ .nil)
    rw [runWithin_of_flush hflush steps (readProgram_append hp hends hp')]
    simpa using inTurn_sameEffect hreads (sameState_refl (.inl rfl) m) hflush .undefined
  · intro sources hread hends
    have hempty : readProgram (String.join []) = .ok [] := by cbv
    have hemptyEnds : endsStatement (String.join []) = true := by decide +kernel
    obtain ⟨ps, hps, hjoined⟩ := readProgram_join (List.nil_append sources) hempty
      (fun _ => hemptyEnds) hread hends
    rw [runWithin_of_flush hflush steps hjoined]
    exact inTurn_sameEffect hps (sameState_refl (.inl rfl) m) hflush .undefined

end

/-- A text that defines a function, one that calls it, and one that fails behind a call. -/
def threeTexts : List String := ["f(x) \x7b x; \x7d; ", "y = f('a');", "f(y); z;"]

/-- The texts above, run in turn, end, and they have the effect of the joined text. So have the
first two. -/
theorem inTurn_eq_joined_threeTexts :
    (fresh ⟨5, true⟩ .unbounded).machine.sink.flushFails = false ∧
    (inTurn 9 (fresh ⟨5, true⟩ .unbounded) .undefined threeTexts).isSome = true ∧
    SameEffect (fun g => g = id ∨ g = behind threeTexts[0])
      (inTurn 9 (fresh ⟨5, true⟩ .unbounded) .undefined [threeTexts[0], threeTexts[1]])
      ((fresh ⟨5, true⟩ .unbounded).runWithin 9 (threeTexts[0] ++ threeTexts[1])) ∧
    SameEffect (BehindSome threeTexts)
      (inTurn 9 (fresh ⟨5, true⟩ .unbounded) .undefined threeTexts)
      ((fresh ⟨5, true⟩ .unbounded).runWithin 9 (String.join threeTexts)) := by
  have hread : ∀ s ∈ threeTexts, (readProgram s).isOk = true := by decide +kernel
  have hends : ∀ s ∈ threeTexts.dropLast, endsStatement s = true := by decide +kernel
  have hboth := inTurn_eq_joined (fresh ⟨5, true⟩ .unbounded) rfl 9
  refine ⟨rfl, by decide +kernel, hboth.1 _ _ ?_ ?_ ?_, hboth.2 threeTexts hread hends⟩
  · exact hread _ (List.getElem_mem _)
  · exact hends _ (by decide)
  · exact hread _ (List.getElem_mem _)

end Interpreter

end ScopeScript
