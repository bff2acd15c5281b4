import Mathlib.Data.List.Forall2
import ScopeScript.Eval.Builtin
import ScopeScript.Eval.Operation

/-!
# Values alike but for their functions

A relation between functions lifts to values: functions are related by it, lists item by item,
and all other values are equal. If related functions have equal names, then operators and
builtins cannot tell related values apart, since of a function they read nothing but its name:
they give related values, or errors that differ at most in their spans.
-/

namespace ScopeScript

/-- Results that are both values, related by `V`, or both errors, related by `E`. -/
inductive ExceptRel {ε ε' α β : Type} (E : ε → ε' → Prop) (V : α → β → Prop) :
    Except ε α → Except ε' β → Prop
  | ok {a b} : V a b → ExceptRel E V (.ok a) (.ok b)
  | error {e e'} : E e e' → ExceptRel E V (.error e) (.error e')

/-- Results that are related, and what follows them. -/
theorem ExceptRel.bind {ε ε' α α' β β' : Type} {E : ε → ε' → Prop} {V : α → β → Prop}
    {V' : α' → β' → Prop} {x : Except ε α} {y : Except ε' β} {f : α → Except ε α'}
    {g : β → Except ε' β'} (hxy : ExceptRel E V x y)
    (hfg : ∀ a b, V a b → ExceptRel E V' (f a) (g b)) : ExceptRel E V' (x >>= f) (y >>= g) := by
  cases hxy with
  | ok hab => exact hfg _ _ hab
  | error he => exact .error he

/-- Errors of one kind with the same texts, and with spans related by `S`. -/
inductive RuntimeError.Lift (S : Span → Span → Prop) : RuntimeError → RuntimeError → Prop
  | undefinedVariable {s s'} (name : String) :
    S s s' → Lift S (.undefinedVariable name s) (.undefinedVariable name s')
  | notCallable {s s'} (value : String) :
    S s s' → Lift S (.notCallable value s) (.notCallable value s')
  | unknownOperation {s s'} (op : String) :
    S s s' → Lift S (.unknownOperation op s) (.unknownOperation op s')
  | invalidOperand {s s'} (op typeName : String) :
    S s s' → Lift S (.invalidOperand op typeName s) (.invalidOperand op typeName s')
  | invalidParameter {s s'} (function : String) :
    S s s' → Lift S (.invalidParameter function s) (.invalidParameter function s')
  | invalidPattern (pattern reason : String) :
    Lift S (.invalidPattern pattern reason) (.invalidPattern pattern reason)
  | recursionLimit {s s'} (limit : Nat) (function : String) :
    S s s' → Lift S (.recursionLimit limit function s) (.recursionLimit limit function s')
  | output (reason : String) : Lift S (.output reason) (.output reason)

/-- Errors are related by any relation of spans that says less. -/
theorem RuntimeError.Lift.mono {S S' : Span → Span → Prop} (hS : ∀ s s', S s s' → S' s s')
    {e e' : RuntimeError} (h : Lift S e e') : Lift S' e e' := by
  cases h <;> constructor <;> apply hS <;> assumption

/-- An error is related to itself. -/
theorem RuntimeError.Lift.refl {S : Span → Span → Prop} (hS : ∀ s, S s s) {e : RuntimeError} :
    Lift S e e := by
  cases e <;> constructor <;> apply hS

/-- Errors with the same spans are equal. -/
theorem RuntimeError.Lift.eq {e e' : RuntimeError} (h : Lift Eq e e') : e = e' := by
  cases h <;> simp_all

namespace Value

/-- Values alike but for their functions, which `R` relates. -/
inductive Lift (R : Closure → Closure → Prop) : Value → Value → Prop
  | number (n : Float) : Lift R (.number n) (.number n)
  | boolean (b : Bool) : Lift R (.boolean b) (.boolean b)
  | string (s : String) : Lift R (.string s) (.string s)
  | list {items items' : List Value} :
    List.Forall₂ (Lift R) items items' → Lift R (.list items) (.list items')
  | function {f f' : Closure} : R f f' → Lift R (.function f) (.function f')
  | undefined : Lift R .undefined .undefined

variable {R R' : Closure → Closure → Prop}

mutual

/-- Values are related by any relation of functions that says less. -/
theorem Lift.mono (hR : ∀ f f', R f f' → R' f f') : ∀ {v v' : Value}, Lift R v v' → Lift R' v v'
  | .number n, _, h => by cases h; exact .number n
  | .boolean b, _, h => by cases h; exact .boolean b
  | .string s, _, h => by cases h; exact .string s
  | .list _, _, h => by cases h with | list hitems => exact .list (forall₂_lift_mono hR hitems)
  | .function _, _, h => by cases h with | function hf => exact .function (hR _ _ hf)
  | .undefined, _, h => by cases h; exact .undefined

/-- Lists of values are related by any relation of functions that says less. -/
theorem forall₂_lift_mono (hR : ∀ f f', R f f' → R' f f') :
    ∀ {vs vs' : List Value}, List.Forall₂ (Lift R) vs vs' → List.Forall₂ (Lift R') vs vs'
  | [], _, h => by cases h; exact .nil
  | _ :: _, _, h => by
    cases h with
    | cons hv hvs => exact .cons (hv.mono hR) (forall₂_lift_mono hR hvs)

end

mutual

/-- Values related by equality of functions are equal. -/
theorem Lift.eq : ∀ {v v' : Value}, Lift Eq v v' → v = v'
  | .number _, _, h => by cases h; rfl
  | .boolean _, _, h => by cases h; rfl
  | .string _, _, h => by cases h; rfl
  | .list _, _, h => by cases h with | list hitems => rw [eq_of_forall₂_lift hitems]
  | .function _, _, h => by cases h with | function hf => rw [hf]
  | .undefined, _, h => by cases h; rfl

/-- Lists of values with the same functions are equal. -/
theorem eq_of_forall₂_lift : ∀ {vs vs' : List Value}, List.Forall₂ (Lift Eq) vs vs' → vs = vs'
  | [], _, h => by cases h; rfl
  | _ :: _, _, h => by cases h with | cons hv hvs => rw [hv.eq, eq_of_forall₂_lift hvs]

end

/-- The texts of several values. -/
theorem codeTexts_cons (v : Value) (rest : List Value) :
    codeTexts (v :: rest) = v.codeText :: codeTexts rest := by
  cases v <;> rfl

/-- The text of a value within a list depends on its own text only. -/
theorem Lift.codeText_eq_of_text {v v' : Value} (h : Lift R v v') (htext : v.text = v'.text) :
    v.codeText = v'.codeText := by
  cases h <;> first | rfl | exact htext

mutual

/-- Related values have the same text. -/
theorem Lift.text_eq (hR : ∀ f f', R f f' → f.name = f'.name) :
    ∀ {v v' : Value}, Lift R v v' → v.text = v'.text
  | .number _, _, h => by cases h; rfl
  | .boolean _, _, h => by cases h; rfl
  | .string _, _, h => by cases h; rfl
  | .list _, _, h => by
    cases h with | list hitems => rw [text, text, codeTexts_eq_of_forall₂ hR hitems]
  | .function _, _, h => by cases h with | function hf => rw [text, text, hR _ _ hf]
  | .undefined, _, h => by cases h; rfl

/-- Lists of values are written alike if functions are by their names. -/
theorem codeTexts_eq_of_forall₂ (hR : ∀ f f', R f f' → f.name = f'.name) :
    ∀ {vs vs' : List Value}, List.Forall₂ (Lift R) vs vs' → codeTexts vs = codeTexts vs'
  | [], _, h => by cases h; rfl
  | _ :: _, _, h => by
    cases h with
    | cons hv hvs =>
      rw [codeTexts_cons, codeTexts_cons, hv.codeText_eq_of_text (hv.text_eq hR),
        codeTexts_eq_of_forall₂ hR hvs]

end

/-- Values are written alike within a list if functions are by their names. -/
theorem Lift.codeText_eq (hR : ∀ f f', R f f' → f.name = f'.name) {v v' : Value}
    (h : Lift R v v') : v.codeText = v'.codeText :=
  h.codeText_eq_of_text (h.text_eq hR)

/-- Related values are true or false alike. -/
theorem Lift.isTruthy_eq {v v' : Value} (h : Lift R v v') : v.isTruthy = v'.isTruthy := by
  cases h <;> rfl

/-- Related values are the same number, or none of them is. -/
theorem Lift.asNumber?_eq {v v' : Value} (h : Lift R v v') : v.asNumber? = v'.asNumber? := by
  cases h <;> rfl

/-- Related values have the same type. -/
theorem Lift.typeName_eq {v v' : Value} (h : Lift R v v') : v.typeName = v'.typeName := by
  cases h <;> rfl

end Value

open Value

variable {R : Closure → Closure → Prop} {S : Span → Span → Prop}

/-! ## Operators -/

/-- Operators of texts give the same for related values. -/
theorem textOperation?_eq (hR : ∀ f f', R f f' → f.name = f'.name) (op : String)
    {a a' b b' : Value} (ha : Lift R a a') (hb : Lift R b b') :
    textOperation? op a b = textOperation? op a' b' := by
  have htext := ha.text_eq hR
  have htext' := hb.text_eq hR
  cases ha <;> cases hb <;> first | rfl | (unfold textOperation?; split <;> simp_all)

/-- Operands that are related are the same number, or are refused alike. -/
theorem operandNumber_rel (op : String) {s s' : Span} (hs : S s s') {v v' : Value}
    (hv : Lift R v v') :
    ExceptRel (RuntimeError.Lift S) Eq (operandNumber op s v) (operandNumber op s' v') := by
  rw [operandNumber, operandNumber, ← hv.asNumber?_eq, ← hv.typeName_eq]
  cases v.asNumber? with
  | some n => exact .ok rfl
  | none => exact .error (.invalidOperand op _ hs)

/-- Operators of numbers give no functions. -/
theorem numberOperation?_lift {op : String} {f : Float → Float → Value}
    (hf : numberOperation? op = some f) (x y : Float) : Lift R (f x y) (f x y) := by
  unfold numberOperation? at hf
  split at hf <;> cases hf
  all_goals first | exact .number _ | exact .boolean _

/-- Operators of texts give no functions. -/
theorem textOperation?_lift {op : String} {a b v : Value} (hv : textOperation? op a b = some v) :
    Lift R v v := by
  unfold textOperation? at hv
  split at hv <;> cases hv
  all_goals first | exact .string _ | exact .boolean _

/-- An operator cannot tell related operands apart. -/
theorem operate_rel (hR : ∀ f f', R f f' → f.name = f'.name) (op : String) {s s' : Span}
    (hs : S s s') {a a' b b' : Value} (ha : Lift R a a') (hb : Lift R b b') :
    ExceptRel (RuntimeError.Lift S) (Lift R) (operate op a b s) (operate op a' b' s') := by
  rw [operate, operate, ← textOperation?_eq hR op ha hb]
  cases htext : textOperation? op a b with
  | some v => exact .ok (textOperation?_lift htext)
  | none =>
    cases hnumber : numberOperation? op with
    | none => exact .error (.unknownOperation op hs)
    | some f =>
      refine (operandNumber_rel op hs ha).bind fun x x' hx => ?_
      refine (operandNumber_rel op hs hb).bind fun y y' hy => ?_
      exact .ok (hx ▸ hy ▸ numberOperation?_lift hnumber x y)

/-! ## Builtins -/

section Natives

variable (hR : ∀ f f', R f f' → f.name = f'.name) {args args' : List Value}
variable (hargs : List.Forall₂ (Lift R) args args')

include hR hargs

/-- A search cannot tell related arguments apart. -/
theorem searchArguments?_eq : searchArguments? args = searchArguments? args' := by
  cases hargs with
  | nil => rfl
  | cons hpattern hrest =>
    cases hrest with
    | nil => rfl
    | cons hsubject _ =>
      have htext := hpattern.text_eq hR
      have htext' := hsubject.text_eq hR
      cases hsubject <;> simp_all [searchArguments?]

end Natives

/-- The answers of a search hold no functions. -/
theorem SearchKind.answer_lift (found : List PatternMatch) (kind : SearchKind) :
    Lift R (kind.answer found) (kind.answer found) := by
  cases kind with
  | indexes => exact .list (by simp [List.forall₂_same, Lift.number])
  | elements =>
    rw [SearchKind.answer]
    split
    · exact .undefined
    · exact .list (by simp [List.forall₂_same, Lift.string])

/-- Lists that are related one by one have related items. -/
theorem forall₂_getElem? {α β : Type} {V : α → β → Prop} {as : List α} {bs : List β}
    (h : List.Forall₂ V as bs) (i : Nat) : Option.Rel V as[i]? bs[i]? := by
  induction h generalizing i with
  | nil => exact .none
  | cons hab _ ih =>
    cases i with
    | zero => exact .some hab
    | succ i => simpa using ih i

/-- Items that may be missing are related, or what takes their place is. -/
theorem rel_getD {α β : Type} {V : α → β → Prop} {a? : Option α} {b? : Option β} {a : α} {b : β}
    (h : Option.Rel V a? b?) (hab : V a b) : V (a?.getD a) (b?.getD b) := by
  cases h with
  | none => exact hab
  | some h => exact h

/-- Items at an index of related values. -/
theorem indexAccess_rel {args args' : List Value} (hargs : List.Forall₂ (Lift R) args args') :
    Lift R (indexAccess args) (indexAccess args') := by
  cases hargs with
  | nil => exact .undefined
  | cons hsubject hrest =>
    cases hrest with
    | nil => exact .undefined
    | cons hindex _ =>
      rw [indexAccess, indexAccess, ← hindex.asNumber?_eq]
      split
      · exact .undefined
      · next i _ =>
        cases hsubject with
        | string s =>
          dsimp only
          cases charAt? s i with
          | none => exact .undefined
          | some c => exact .string _
        | list hitems => exact rel_getD (forall₂_getElem? hitems i) .undefined
        | number | boolean | function | undefined => exact .undefined

/-- Counts of related values. -/
theorem indexCount_rel {args args' : List Value} (hargs : List.Forall₂ (Lift R) args args') :
    Lift R (indexCount args) (indexCount args') := by
  have hself : ∀ count : Nat, Lift R (if count = 0 then .undefined else .number (.ofNat count))
      (if count = 0 then .undefined else .number (.ofNat count)) := by
    intro count
    split
    · exact .undefined
    · exact .number _
  cases hargs with
  | nil => exact hself 0
  | cons hsubject _ =>
    cases hsubject with
    | string s => exact hself s.length
    | list hitems => simpa only [indexCount, hitems.length_eq] using hself _
    | number | boolean | function | undefined => exact hself 0

end ScopeScript
