import ScopeScript.Expr.DebugText
import ScopeScript.Proofs.Expr.Layout
import ScopeScript.Proofs.Expr.Subtree
import ScopeScript.Proofs.Text.Quoted

/-!
# Reading debug texts

The debug text of a tree identifies it up to its spans. The text begins with the kind of the node,
and each of its parts tells where it ends: a quoted text by its closing quote, a list by its
bracket, and an unquoted text because it is a lexeme, so that the character behind it is none of
its class. The last of these is true only of trees that were read from a text.
-/

namespace ScopeScript

open ScopeScript.Lexer

namespace Expr

/-! ## Lexemes in trees -/

/-- What the debug text of a node shows without quotes is a lexeme. -/
def IsLexical : Expr → Prop
  | number text _ => ∀ c ∈ text.toList, isNumberChar c = true
  | definition name _ _ _ => ∀ c ∈ name.text.toList, isNameChar c = true
  | assignment target _ _ => ∀ c ∈ target.text.toList, isNameChar c = true
  | _ => True

/-- All nodes of a tree show lexemes. -/
def AllLexical (e : Expr) : Prop := ∀ c : Expr, c.IsNodeOf e → c.IsLexical

/-- Below a node that shows lexemes all nodes do. -/
theorem AllLexical.child {e c : Expr} (h : e.AllLexical) (hc : c ∈ e.children) : c.AllLexical :=
  fun d hd => h d (hd.tail hc)

/-- The node itself shows a lexeme. -/
theorem AllLexical.root {e : Expr} (h : e.AllLexical) : e.IsLexical := h e .refl

/-! ## Debug texts in front of other texts -/

variable {e e' : Expr} {es es' : List Expr} {r r' : List Char}

/-- The debug text of a number, in front of another text. -/
theorem debugText_number (text : String) (s : Span) (r : List Char) :
    (number text s).debugText.toList ++ r = "Number(".toList ++ (text.toList ++ ')' :: r) := by
  have htext : (number text s).debugText = "Number(" ++ text ++ ")" := rfl
  simp [htext]

/-- The debug text of a string, in front of another text. -/
theorem debugText_string (text : String) (s : Span) (r : List Char) :
    (string text s).debugText.toList ++ r =
      "String(".toList ++ ((quoted text).toList ++ ')' :: r) := by
  have htext : (string text s).debugText = "String(" ++ quoted text ++ ")" := rfl
  simp [htext]

/-- The debug text of a symbol, in front of another text. -/
theorem debugText_symbol (name : String) (s : Span) (r : List Char) :
    (symbol name s).debugText.toList ++ r =
      "Symbol(".toList ++ ((quoted name).toList ++ ')' :: r) := by
  have htext : (symbol name s).debugText = "Symbol(" ++ quoted name ++ ")" := rfl
  simp [htext]

/-- The debug text of an operation, in front of another text. -/
theorem debugText_operation (op : String) (left right : Expr) (s : Span) (r : List Char) :
    (operation op left right s).debugText.toList ++ r =
      "Operation(".toList ++ ((quoted op).toList ++ (", ".toList ++ (left.debugText.toList ++
        (", ".toList ++ (right.debugText.toList ++ ')' :: r))))) := by
  have htext : (operation op left right s).debugText =
      "Operation(" ++ quoted op ++ ", " ++ left.debugText ++ ", " ++ right.debugText ++ ")" := rfl
  simp [htext]

/-- The debug text of a call, in front of another text. -/
theorem debugText_call (callee : Expr) (args : List Expr) (s : Span) (r : List Char) :
    (call callee args s).debugText.toList ++ r =
      "Call(".toList ++ (callee.debugText.toList ++ (", ".toList ++
        ((bracketed (debugTexts args)).toList ++ ')' :: r))) := by
  have htext : (call callee args s).debugText =
      "Call(" ++ callee.debugText ++ ", " ++ bracketed (debugTexts args) ++ ")" := rfl
  simp [htext]

/-- The debug text of a definition, in front of another text. -/
theorem debugText_definition (name : Name) (params body : List Expr) (s : Span) (r : List Char) :
    (definition name params body s).debugText.toList ++ r =
      "FunctionDefinition \x7b name: Name(\"".toList ++ (name.text.toList ++ '"' ::
        ("), params: ".toList ++ ((bracketed (debugTexts params)).toList ++
          (", body: ".toList ++ ((bracketed (debugTexts body)).toList ++
            (" \x7d".toList ++ r)))))) := by
  have htext : (definition name params body s).debugText =
      "FunctionDefinition \x7b name: " ++ ("Name(\"" ++ name.text ++ "\")") ++ ", params: " ++
        bracketed (debugTexts params) ++ ", body: " ++ bracketed (debugTexts body) ++ " \x7d" := rfl
  simp [htext]

/-- The debug text of an assignment, in front of another text. -/
theorem debugText_assignment (target : Name) (value : Expr) (s : Span) (r : List Char) :
    (assignment target value s).debugText.toList ++ r =
      "Assignment(Name(\"".toList ++ (target.text.toList ++ '"' :: ("), ".toList ++
        (value.debugText.toList ++ ')' :: r))) := by
  have htext : (assignment target value s).debugText =
      "Assignment(" ++ ("Name(\"" ++ target.text ++ "\")") ++ ", " ++ value.debugText ++ ")" := rfl
  simp [htext]

/-- The first two characters of a debug text, which tell the kind of the node. -/
def initials : Expr → List Char
  | number _ _ => ['N', 'u']
  | string _ _ => ['S', 't']
  | symbol _ _ => ['S', 'y']
  | operation _ _ _ _ => ['O', 'p']
  | call _ _ _ => ['C', 'a']
  | definition _ _ _ _ => ['F', 'u']
  | assignment _ _ _ => ['A', 's']

/-- A debug text begins with the initials of its node. -/
theorem take_debugText (e : Expr) (r : List Char) :
    (e.debugText.toList ++ r).take 2 = e.initials := by
  cases e with
  | number => rw [debugText_number]; rfl
  | string => rw [debugText_string]; rfl
  | symbol => rw [debugText_symbol]; rfl
  | operation => rw [debugText_operation]; rfl
  | call => rw [debugText_call]; rfl
  | definition => rw [debugText_definition]; rfl
  | assignment => rw [debugText_assignment]; rfl

/-- Nodes with the same debug text have the same initials. -/
theorem initials_eq (h : e.debugText.toList ++ r = e'.debugText.toList ++ r') :
    e.initials = e'.initials := by
  rw [← take_debugText e r, h, take_debugText]

/-- No debug text begins with the bracket that closes a list. -/
theorem head?_debugText_ne (e : Expr) (r : List Char) :
    (e.debugText.toList ++ r).head? ≠ some ']' := by
  intro hhead
  have htake := take_debugText e r
  cases htext : e.debugText.toList ++ r with
  | nil => simp [htext] at hhead
  | cons c rest =>
    rw [htext] at hhead htake
    obtain rfl := Option.some.inj hhead
    cases e <;> simp [initials] at htake

/-- What follows an item of a list up to the closing bracket, in front of other texts. -/
def afterItem : (texts : List String) → (r : List Char) → List Char
  | [], r => ']' :: r
  | text :: rest, r => ',' :: ' ' :: (text.toList ++ afterItem rest r)

/-- The items of a list, in front of the closing bracket. -/
theorem intercalate_append (text : String) (texts : List String) (r : List Char) :
    (", ".intercalate (text :: texts)).toList ++ ']' :: r = text.toList ++ afterItem texts r := by
  induction texts generalizing text with
  | nil => simp [afterItem]
  | cons next rest ih =>
    rw [String.intercalate_cons_cons, String.toList_append, List.append_assoc, ih, afterItem]
    simp

/-- The empty list, in front of another text. -/
theorem bracketed_nil (r : List Char) : (bracketed []).toList ++ r = '[' :: ']' :: r := by
  simp [bracketed]

/-- A list with an item, in front of another text. -/
theorem bracketed_cons (text : String) (texts : List String) (r : List Char) :
    (bracketed (text :: texts)).toList ++ r = '[' :: (text.toList ++ afterItem texts r) := by
  rw [← intercalate_append]
  simp [bracketed]

/-! ## Unique reading -/

/-- No other tree has the debug text of an expression, whatever follows the two. -/
def IsTold (e : Expr) : Prop :=
  e.AllLexical → ∀ (e' : Expr) (r r' : List Char), e'.AllLexical →
    e.debugText.toList ++ r = e'.debugText.toList ++ r' → e.Agree e' ∧ r = r'

/-- Numbers are told by their debug texts, as lexemes end before the parenthesis. -/
theorem isTold_number (text : String) (s : Span) : (number text s).IsTold := by
  intro he e' r r' he' h
  have hinitials := initials_eq h
  cases e' with
  | number text' s' =>
    rw [debugText_number, debugText_number] at h
    obtain ⟨htext, hr⟩ := append_cons_inj (by decide) he.root he'.root (List.append_cancel_left h)
    rw [String.toList_inj] at htext
    subst htext
    exact ⟨rfl, hr⟩
  | _ => simp [initials] at hinitials

/-- Strings are told by their debug texts, as their quotes are read uniquely. -/
theorem isTold_string (text : String) (s : Span) : (string text s).IsTold := by
  intro _ e' r r' _ h
  have hinitials := initials_eq h
  cases e' with
  | string text' s' =>
    rw [debugText_string, debugText_string] at h
    obtain ⟨rfl, hr⟩ := quoted_append_inj (List.append_cancel_left h)
    exact ⟨rfl, (List.cons.inj hr).2⟩
  | _ => simp [initials] at hinitials

/-- Symbols are told by their debug texts, as their quotes are read uniquely. -/
theorem isTold_symbol (name : String) (s : Span) : (symbol name s).IsTold := by
  intro _ e' r r' _ h
  have hinitials := initials_eq h
  cases e' with
  | symbol name' s' =>
    rw [debugText_symbol, debugText_symbol] at h
    obtain ⟨rfl, hr⟩ := quoted_append_inj (List.append_cancel_left h)
    exact ⟨rfl, (List.cons.inj hr).2⟩
  | _ => simp [initials] at hinitials

/-- Operations are told by their debug texts if their operands are. -/
theorem isTold_operation (op : String) {left right : Expr} (s : Span) (hleft : left.IsTold)
    (hright : right.IsTold) : (operation op left right s).IsTold := by
  intro he e' r r' he' h
  have hinitials := initials_eq h
  cases e' with
  | operation op' left' right' s' =>
    rw [debugText_operation, debugText_operation] at h
    obtain ⟨hop, h⟩ := quoted_append_inj (List.append_cancel_left h)
    have h := List.append_cancel_left h
    obtain ⟨hleft, h⟩ :=
      hleft (he.child (by simp [children])) left' _ _ (he'.child (by simp [children])) h
    have h := List.append_cancel_left h
    obtain ⟨hright, h⟩ :=
      hright (he.child (by simp [children])) right' _ _ (he'.child (by simp [children])) h
    refine ⟨?_, (List.cons.inj h).2⟩
    rw [Agree, erase_operation, erase_operation, hop, hleft, hright]
  | _ => simp [initials] at hinitials

/-- Assignments are told by their debug texts if their values are. -/
theorem isTold_assignment (target : Name) {value : Expr} (s : Span) (hvalue : value.IsTold) :
    (assignment target value s).IsTold := by
  intro he e' r r' he' h
  have hinitials := initials_eq h
  cases e' with
  | assignment target' value' s' =>
    rw [debugText_assignment, debugText_assignment] at h
    obtain ⟨htarget, h⟩ := append_cons_inj (by decide) he.root he'.root (List.append_cancel_left h)
    obtain ⟨hvalue, h⟩ := hvalue (he.child (by simp [children])) _ _ _
      (he'.child (by simp [children])) (List.append_cancel_left h)
    refine ⟨?_, (List.cons.inj h).2⟩
    rw [Agree, erase_assignment, erase_assignment, String.toList_inj.mp htarget, hvalue]
  | _ => simp [initials] at hinitials

/-- What follows an item of a list is told apart if the other items are. -/
theorem afterItem_inj (hes : ∀ e ∈ es, e.AllLexical ∧ e.IsTold) (hes' : ∀ e ∈ es', e.AllLexical)
    (h : afterItem (debugTexts es) r = afterItem (debugTexts es') r') :
    eraseAll es = eraseAll es' ∧ r = r' := by
  induction es generalizing es' with
  | nil =>
    cases es' with
    | nil => exact ⟨rfl, (List.cons.inj h).2⟩
    | cons => exact absurd (List.cons.inj h).1 (by decide)
  | cons e rest ih =>
    cases es' with
    | nil => exact absurd (List.cons.inj h).1 (by decide)
    | cons e' rest' =>
      obtain ⟨⟨he, htold⟩, hrest⟩ := List.forall_mem_cons.mp hes
      obtain ⟨he', hrest'⟩ := List.forall_mem_cons.mp hes'
      obtain ⟨hagree, h⟩ := htold he _ _ _ he' (List.cons.inj (List.cons.inj h).2).2
      obtain ⟨hmore, hr⟩ := ih hrest hrest' h
      exact ⟨by rw [eraseAll_cons, eraseAll_cons, hagree, hmore], hr⟩

/-- Lists are told apart if their items are. -/
theorem bracketed_inj (hes : ∀ e ∈ es, e.AllLexical ∧ e.IsTold) (hes' : ∀ e ∈ es', e.AllLexical)
    (h : (bracketed (debugTexts es)).toList ++ r = (bracketed (debugTexts es')).toList ++ r') :
    eraseAll es = eraseAll es' ∧ r = r' := by
  cases es with
  | nil =>
    cases es' with
    | nil => exact ⟨rfl, List.append_cancel_left h⟩
    | cons e' rest' =>
      rw [debugTexts, debugTexts, bracketed_nil, bracketed_cons] at h
      exact absurd (congrArg List.head? (List.cons.inj h).2).symm (head?_debugText_ne _ _)
  | cons e rest =>
    cases es' with
    | nil =>
      rw [debugTexts, debugTexts, bracketed_nil, bracketed_cons] at h
      exact absurd (congrArg List.head? (List.cons.inj h).2) (head?_debugText_ne _ _)
    | cons e' rest' =>
      rw [debugTexts, debugTexts, bracketed_cons, bracketed_cons] at h
      obtain ⟨⟨he, htold⟩, hrest⟩ := List.forall_mem_cons.mp hes
      obtain ⟨he', hrest'⟩ := List.forall_mem_cons.mp hes'
      obtain ⟨hagree, h⟩ := htold he _ _ _ he' (List.cons.inj h).2
      obtain ⟨hmore, hr⟩ := afterItem_inj hrest hrest' h
      exact ⟨by rw [eraseAll_cons, eraseAll_cons, hagree, hmore], hr⟩

/-- Calls are told by their debug texts if their parts are. -/
theorem isTold_call {callee : Expr} {args : List Expr} (s : Span) (hcallee : callee.IsTold)
    (hargs : ∀ c ∈ args, c.IsTold) : (call callee args s).IsTold := by
  intro he e' r r' he' h
  have hinitials := initials_eq h
  cases e' with
  | call callee' args' s' =>
    rw [debugText_call, debugText_call] at h
    obtain ⟨hcallee, h⟩ := hcallee (he.child (by simp [children])) _ _ _
      (he'.child (by simp [children])) (List.append_cancel_left h)
    obtain ⟨hargs, h⟩ := bracketed_inj
      (fun c hc => ⟨he.child (by simp [children, hc]), hargs c hc⟩)
      (fun c hc => he'.child (by simp [children, hc])) (List.append_cancel_left h)
    refine ⟨?_, (List.cons.inj h).2⟩
    rw [Agree, erase_call, erase_call, hcallee, hargs]
  | _ => simp [initials] at hinitials

/-- Definitions are told by their debug texts if their parts are. -/
theorem isTold_definition (name : Name) {params body : List Expr} (s : Span)
    (hparams : ∀ c ∈ params, c.IsTold) (hbody : ∀ c ∈ body, c.IsTold) :
    (definition name params body s).IsTold := by
  intro he e' r r' he' h
  have hinitials := initials_eq h
  cases e' with
  | definition name' params' body' s' =>
    rw [debugText_definition, debugText_definition] at h
    obtain ⟨hname, h⟩ := append_cons_inj (by decide) he.root he'.root (List.append_cancel_left h)
    obtain ⟨hparams, h⟩ := bracketed_inj
      (fun c hc => ⟨he.child (by simp [children, hc]), hparams c hc⟩)
      (fun c hc => he'.child (by simp [children, hc])) (List.append_cancel_left h)
    obtain ⟨hbody, h⟩ := bracketed_inj
      (fun c hc => ⟨he.child (by simp [children, hc]), hbody c hc⟩)
      (fun c hc => he'.child (by simp [children, hc])) (List.append_cancel_left h)
    refine ⟨?_, List.append_cancel_left h⟩
    rw [Agree, erase_definition, erase_definition, String.toList_inj.mp hname, hparams, hbody]
  | _ => simp [initials] at hinitials

mutual

/-- **Debug texts are told apart.** -/
theorem isTold : ∀ e : Expr, e.IsTold
  | number text s => isTold_number text s
  | string text s => isTold_string text s
  | symbol name s => isTold_symbol name s
  | operation op left right s => isTold_operation op s (isTold left) (isTold right)
  | call callee args s => isTold_call s (isTold callee) (isTold_of_mem args)
  | definition name params body s =>
    isTold_definition name s (isTold_of_mem params) (isTold_of_mem body)
  | assignment target value s => isTold_assignment target s (isTold value)

/-- All trees of a list are told by their debug texts. -/
theorem isTold_of_mem : ∀ es : List Expr, ∀ e ∈ es, e.IsTold
  | [] => List.forall_mem_nil _
  | e :: rest => List.forall_mem_cons.mpr ⟨isTold e, isTold_of_mem rest⟩

end

/-! ## Debug texts at other places -/

/-- Debug texts that are equal in front of nothing are equal. -/
theorem debugText_inj_of_append (h : e.debugText.toList ++ [] = e'.debugText.toList ++ []) :
    e.debugText = e'.debugText :=
  String.toList_inj.mp (List.append_cancel_right h)

mutual

/-- The debug text does not show places. -/
theorem debugText_relocate (g : Location → Location) : ∀ e : Expr,
    (e.relocate g).debugText = e.debugText
  | number _ _ => rfl
  | string _ _ => rfl
  | symbol _ _ => rfl
  | operation op left right s => debugText_inj_of_append <| by
    rw [relocate, debugText_operation, debugText_operation, debugText_relocate g left,
      debugText_relocate g right]
  | call callee args s => debugText_inj_of_append <| by
    rw [relocate, debugText_call, debugText_call, debugText_relocate g callee,
      debugTexts_relocateAll g args]
  | definition name params body s => debugText_inj_of_append <| by
    rw [relocate, debugText_definition, debugText_definition, debugTexts_relocateAll g params,
      debugTexts_relocateAll g body, Name.relocate]
  | assignment target value s => debugText_inj_of_append <| by
    rw [relocate, debugText_assignment, debugText_assignment, debugText_relocate g value,
      Name.relocate]

/-- The debug texts of several trees do not show places. -/
theorem debugTexts_relocateAll (g : Location → Location) : ∀ es : List Expr,
    debugTexts (relocateAll g es) = debugTexts es
  | [] => rfl
  | e :: rest => by
    rw [relocateAll, debugTexts, debugTexts, debugText_relocate g e, debugTexts_relocateAll g rest]

end

/-- Trees that are equal up to their spans have one debug text. -/
theorem Agree.debugText_eq (h : e.Agree e') : e.debugText = e'.debugText := by
  rw [← debugText_relocate (fun _ => ⟨0, 0⟩) e, ← debugText_relocate (fun _ => ⟨0, 0⟩) e']
  exact congrArg debugText h

/-- Trees that agree one by one have the same debug texts. -/
theorem debugTexts_eq_of_agree (h : List.Forall₂ Agree es es') :
    debugTexts es = debugTexts es' := by
  induction h with
  | nil => rfl
  | cons hfirst _ ih => rw [debugTexts, debugTexts, hfirst.debugText_eq, ih]

end Expr

open ScopeScript.Expr

/-! ## In programs -/

variable {source source' : String} {ts ts' : List Token} {program program' : List Expr}
  {root e : Expr}

/-- What a node of a program shows without quotes is a lexeme of its text. -/
theorem isLexical_of_parse (htokens : tokenize source = .ok ts) (hparse : parse ts = .ok program)
    (hroot : root ∈ program) (he : e.IsNodeOf root) : e.IsLexical := by
  obtain ⟨ts', hts, hspells⟩ := exists_spells_of_parse hparse hroot he
  have hstands : ∀ t ∈ ts', ∃ before after raw, Stands before after t.kind t.lexeme.toList raw :=
    fun t ht => exists_stands_of_tokenize htokens t (hts ht)
  cases hspells with
  | number text s =>
    obtain ⟨before, after, raw, hnumber⟩ := hstands ⟨.number, text, s⟩ (by simp)
    exact hnumber.run_of_number.1.of_class
  | definition name =>
    obtain ⟨before, after, raw, hname⟩ := hstands ⟨.name, name.text, name.span⟩ (by simp)
    exact hname.run_of_name.of_class
  | assignment target =>
    obtain ⟨before, after, raw, hname⟩ := hstands ⟨.name, target.text, target.span⟩ (by simp)
    exact hname.run_of_name.of_class
  | string | symbol | operation | call => trivial

/-- All nodes of a program show lexemes. -/
theorem allLexical_of_parse (htokens : tokenize source = .ok ts) (hparse : parse ts = .ok program)
    (hroot : root ∈ program) (he : e.IsNodeOf root) : e.AllLexical :=
  fun _ hc => isLexical_of_parse htokens hparse hroot (hc.trans he)

/-- **The debug text of a tree identifies it.** The trees of the programs of two texts, statements
or parts of them, have the same debug text exactly if they are equal up to their spans, and so do
the programs as lists of trees. -/
theorem debugText_eq_iff (htokens : tokenize source = .ok ts) (hparse : parse ts = .ok program)
    (htokens' : tokenize source' = .ok ts') (hparse' : parse ts' = .ok program') :
    (∀ root ∈ program, ∀ root' ∈ program', ∀ e e' : Expr, e.IsNodeOf root → e'.IsNodeOf root' →
      (e.debugText = e'.debugText ↔ e.Agree e')) ∧
    (bracketed (debugTexts program) = bracketed (debugTexts program') ↔
      List.Forall₂ Agree program program') := by
  refine ⟨fun root hroot root' hroot' e e' he he' => ⟨fun h => ?_, Agree.debugText_eq⟩,
    fun h => ?_, fun h => ?_⟩
  · exact (isTold e (allLexical_of_parse htokens hparse hroot he) e' [] []
      (allLexical_of_parse htokens' hparse' hroot' he') (by rw [h])).1
  · have htexts : (bracketed (debugTexts program)).toList ++ [] =
        (bracketed (debugTexts program')).toList ++ [] := by rw [h]
    exact forall₂_agree_of_eraseAll (bracketed_inj
      (fun e he => ⟨allLexical_of_parse htokens hparse he .refl, isTold e⟩)
      (fun e he => allLexical_of_parse htokens' hparse' he .refl) htexts).1
  · exact congrArg bracketed (debugTexts_eq_of_agree h)

/-- A definition and a call on one line. -/
def oneLineLayout : String := "f(x) \x7b print('a', x + 1.5); \x7d; f(2);"

/-- The same tokens on several lines, with other quotes. -/
def manyLinesLayout : String := "f(x)\n\x7b\n  print(\x22a\x22, x + 1.5);\n\x7d;\nf( 2 );"

/-- The program in one line has the debug text of the program in many lines. -/
theorem debugText_eq_iff_twoLayouts :
    ∃ ts program ts' program', tokenize oneLineLayout = .ok ts ∧ parse ts = .ok program ∧
      tokenize manyLinesLayout = .ok ts' ∧ parse ts' = .ok program' ∧
      bracketed (debugTexts program) = bracketed (debugTexts program') := by
  obtain ⟨ts, program, ts', program', htokens, hparse, htokens', hparse', hagree⟩ :
      ∃ ts program ts' program', tokenize oneLineLayout = .ok ts ∧ parse ts = .ok program ∧
        tokenize manyLinesLayout = .ok ts' ∧ parse ts' = .ok program' ∧
        List.Forall₂ Agree program program' :=
    ⟨_, _, _, _, by cbv, by cbv, by cbv, by cbv, by exact .cons rfl (.cons rfl .nil)⟩
  exact ⟨ts, program, ts', program', htokens, hparse, htokens', hparse',
    (debugText_eq_iff htokens hparse htokens' hparse').2.mpr hagree⟩

end ScopeScript
