import ScopeScript.Pattern.Library
import ScopeScript.Proofs.Expr.Layout
import ScopeScript.Proofs.Session.Basic

/-!
# Layout

Texts whose tokens have the same kinds and lexemes may differ in white space, in line breaks and
in the quotes around strings, and with these in the place of everything that is read from them.
Running them does the same: the results, the output and the states afterwards are equal up to the
spans in errors and in the bodies of functions.
-/

namespace ScopeScript

open ScopeScript.Expr

/-- Expressions that agree are nodes of one kind, with parts that agree. -/
theorem node_agree (e e' : Expr) (he : e.Agree e') :
    Expr.Node Expr.Agree (fun _ _ => True) e e' := by
  have hlist : ∀ {es es' : List Expr}, eraseAll es = eraseAll es' →
      List.Forall₂ Expr.Agree es es' := forall₂_agree_of_eraseAll
  cases e with
  | number text =>
    cases e' <;> cases he
    exact .number text
  | string text =>
    cases e' <;> cases he
    exact .string text
  | symbol name =>
    cases e' <;> cases he
    exact .symbol name trivial
  | operation op left right =>
    cases e' with
    | operation =>
      obtain ⟨rfl, hleft, hright, -⟩ := operation.inj he
      exact .operation op hleft hright trivial
    | _ => cases he
  | call callee args =>
    cases e' with
    | call =>
      obtain ⟨hcallee, hargs, -⟩ := call.inj he
      exact .call hcallee (hlist hargs) trivial
    | _ => cases he
  | definition name params body =>
    cases e' with
    | definition name' =>
      obtain ⟨hname, hparams, hbody, -⟩ := definition.inj he
      have htext : name.text = name'.text := (Name.mk.inj hname).1
      exact .definition htext (hlist hparams) (hlist hbody)
    | _ => cases he
  | assignment target value =>
    cases e' with
    | assignment target' =>
      obtain ⟨htarget, hvalue, -⟩ := assignment.inj he
      have htext : target.text = target'.text := (Name.mk.inj htarget).1
      exact .assignment htext hvalue
    | _ => cases he

namespace Interpreter

/-- Texts whose tokens have the same kinds and lexemes. -/
def SameTokens (source source' : String) : Prop :=
  ∃ ts ts', tokenize source = .ok ts ∧ tokenize source' = .ok ts' ∧ spelling ts = spelling ts'

/-- Errors of a text with tokens that are equal up to their spans. -/
inductive SameError : SourceError → SourceError → Prop
  | parse {e e'} : ParseError.Agree e e' → SameError (.parse e) (.parse e')
  | runtime {e e'} : RuntimeError.Lift (fun _ _ => True) e e' →
    SameError (.runtime e) (.runtime e')

/-- Texts have the same tokens if both have tokens that are spelled alike. -/
theorem sameTokens_of_toOption_eq {source source' : String} (hok : (tokenize source).isOk = true)
    (h : (tokenize source).toOption.map spelling = (tokenize source').toOption.map spelling) :
    SameTokens source source' := by
  cases hts : tokenize source with
  | error e => simp [hts, Except.isOk, Except.toBool] at hok
  | ok ts =>
    rw [hts] at h
    obtain ⟨ts', hts', hspelling⟩ := Option.map_eq_some_iff.mp h.symm
    refine ⟨ts, ts', hts, ?_, hspelling.symm⟩
    cases htokens' : tokenize source' <;> rw [htokens'] at hts' <;> cases hts'
    rfl

/-- Texts with the same tokens have programs that agree, or the same error up to spans. -/
theorem readProgram_agree {source source' : String} (h : SameTokens source source') :
    ExceptRel SameError (List.Forall₂ Expr.Agree) (readProgram source) (readProgram source') := by
  obtain ⟨ts, ts', hts, hts', hagree⟩ := h
  have hparse := parse_agree hagree
  rw [readProgram, readProgram, hts, hts']
  dsimp only
  generalize parse ts = x at hparse
  generalize parse ts' = y at hparse
  cases hparse with
  | error he => exact .error (.parse he)
  | ok hp => exact .ok hp

end Interpreter

section

variable [SearchContext]

/-- Evaluations of expressions that agree, step by step. -/
def layout : Simulation :=
  alike Expr.Agree (fun _ _ => True) False node_agree fun _ _ _ => trivial

end

namespace Interpreter

section

variable [SearchContext]

/-- Interpreters with the same rules, output and depth, and with the same bindings in every scope
up to the spans in the bodies of functions. -/
structure Agree (i i' : Interpreter) : Prop where
  rules_eq : i.rules = i'.rules
  sink_eq : i.machine.sink = i'.machine.sink
  depth_eq : i.machine.depth = i'.machine.depth
  heap : i.machine.heap.Alike Expr.Agree i'.machine.heap

/-- Results of runs that are equal up to spans, in interpreters that agree. -/
structure SameRun (run run' : Except SourceError Value × Interpreter) : Prop where
  result : ExceptRel SameError (Value.Alike Expr.Agree) run.1 run'.1
  agree : Agree run.2 run'.2

variable {i i' : Interpreter}

/-- A run of texts with the same tokens, from interpreters that agree. -/
theorem runWithin_agree (hi : i.Agree i') {source source' : String}
    (h : SameTokens source source') (steps : Nat) :
    Option.Rel SameRun (i.runWithin steps source) (i'.runWithin steps source') := by
  have hread := readProgram_agree h
  rw [runWithin, runWithin]
  generalize readProgram source = x at hread
  generalize readProgram source' = y at hread
  cases hread with
  | error he => exact .some ⟨.error he, hi⟩
  | ok hp =>
    obtain ⟨rules, m⟩ := i
    obtain ⟨rules', m'⟩ := i'
    obtain ⟨rfl, hsink, hdepth, hheap⟩ := hi
    have hev : layout.Evaluators (eval rules steps) (eval rules steps) :=
      eval_alike rules (le_refl steps) fun _ => rfl
    have hrun := Simulation.flushed_related
      (Simulation.evalSequence_related hev (rfl : layout.scope () globals globals) hp
        (.undefined : layout.value () .undefined .undefined))
      m m' ⟨hsink, hdepth, hheap⟩
    dsimp only
    rw [runProgram, runProgram, evalProgram, evalProgram]
    generalize Eval.flushed _ m = o at hrun
    generalize Eval.flushed _ m' = o' at hrun
    cases hrun with
    | done _ hm hv => exact .some ⟨.ok hv, rfl, hm.1, hm.2.1, hm.2.2⟩
    | failed _ hm he => exact .some ⟨.error (.runtime he), rfl, hm.1, hm.2.1, hm.2.2⟩
    | unfinished ho =>
      rw [ho id]
      exact .none

/-- **Layout is unobservable.** Tokens of the same kinds and lexemes have trees that are equal up
to spans, or errors that are. Texts with such tokens, run one by one in interpreters that are equal
up to the spans in the bodies of functions, have the same results up to spans, and after each of
them the interpreters are equal in this way and have the same output. If the steps do not suffice
for the one run, they do not suffice for the other. -/
theorem layout_unobservable (steps : Nat) :
    (∀ ts ts', spelling ts = spelling ts' →
      ExceptRel ParseError.Agree (List.Forall₂ Expr.Agree) (parse ts) (parse ts')) ∧
    ∀ i i' sources sources', Agree i i' → List.Forall₂ SameTokens sources sources' →
      Option.Rel (List.Forall₂ SameRun) (runAll steps i sources) (runAll steps i' sources') :=
  ⟨fun _ _ => parse_agree, fun _ _ _ _ hi hsources =>
    runAll_rel (fun hi hsource => runWithin_agree hi hsource steps) SameRun.agree hsources hi⟩

end

/-- A text that defines a function and calls it, with two errors behind. -/
def plainLayout : List String := ["f(x) \x7b x; \x7d; y = f('a');", "f(y)(1);", "= 2;"]

/-- The same text in other lines and with other quotes. -/
def otherLayout : List String :=
  ["\nf ( x )\n\x7b\n  x ;\n\x7d ;\n\ny=f(\"a\") ;", "f(y)\n(1)\n;", "  =2; "]

/-- Both layouts run to the end alike, with an error in the second and the third text. -/
theorem layout_unobservable_otherLayout :
    (∃ runs, runAll 9 (fresh ⟨5, true⟩ .unbounded) plainLayout = some runs ∧ runs.length = 3) ∧
    Option.Rel (List.Forall₂ SameRun) (runAll 9 (fresh ⟨5, true⟩ .unbounded) plainLayout)
      (runAll 9 (fresh ⟨5, true⟩ .unbounded) otherLayout) := by
  have hends : (runAll 9 (fresh ⟨5, true⟩ .unbounded) plainLayout).map List.length = some 3 := by
    decide +kernel
  have hsame : List.Forall₂ SameTokens plainLayout otherLayout := by
    refine .cons ?_ (.cons ?_ (.cons ?_ .nil))
    · exact sameTokens_of_toOption_eq (by decide +kernel) (by decide +kernel)
    · exact sameTokens_of_toOption_eq (by decide +kernel) (by decide +kernel)
    · exact sameTokens_of_toOption_eq (by decide +kernel) (by decide +kernel)
  have hrefl : Agree (fresh ⟨5, true⟩ .unbounded) (fresh ⟨5, true⟩ .unbounded) :=
    ⟨rfl, rfl, rfl, .refl (fun e => (rfl : e.erase = e.erase)) _⟩
  exact ⟨Option.map_eq_some_iff.mp hends, (layout_unobservable 9).2 _ _ _ _ hrefl hsame⟩

end Interpreter

end ScopeScript
