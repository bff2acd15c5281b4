import ScopeScript.Interpreter
import ScopeScript.Proofs.Expr.Accept
import ScopeScript.Proofs.Scope.Reach

/-!
# Scopes and the text

A record tells of every scope what it was made for: a definition, evaluated in some scope, or a
call. From the record alone one can read off a chain of scopes that matches the bodies in which an
expression lies in its source text. Heaps that accord with their record have exactly these chains,
so their depth is bounded by how deep source texts may be nested, and every function in such a
heap has been made by the definition that is recorded of its scope.
-/

namespace ScopeScript

open ScopeScript.Parser (maxNesting)

/-! ## Where an expression lies in its text -/

namespace Expr

/-- Whether an expression is a definition that makes a function. One that is named like a special
form runs the form instead. -/
def isFunction : Expr → Bool
  | definition name _ _ _ =>
    match Builtin.ofName? name.text with
    | some (.special _) => false
    | _ => true
  | _ => false

/-- The body of the function that a definition makes. -/
def functionBody : Expr → List Expr
  | e@(definition _ _ body _) => if e.isFunction then body else []
  | _ => []

/-- The direct parts of an expression that lie in no body that it does not lie in itself. -/
def parts : Expr → List Expr
  | operation _ left right _ => [left, right]
  | call callee args _ => callee :: args
  | e@(definition _ params body _) => if e.isFunction then params else params ++ body
  | assignment _ value _ => [value]
  | _ => []

/-- A part that is evaluated with a node is nested no deeper. -/
theorem nesting_le_of_mem_parts {e d : Expr} (he : e ∈ d.parts) : e.nesting ≤ d.nesting := by
  cases d with
  | number | string | symbol => simp [parts] at he
  | operation op left right s =>
    simp only [parts, List.mem_cons, List.not_mem_nil, or_false] at he
    obtain rfl | rfl := he
    · exact Nat.le_max_left _ _
    · exact (Nat.le_succ _).trans (Nat.le_max_right _ _)
  | call callee args s =>
    simp only [parts, List.mem_cons] at he
    obtain rfl | he := he
    · exact Nat.le_max_left _ _
    · exact ((nesting_le_nestingAll he).trans (Nat.le_succ _)).trans (Nat.le_max_right _ _)
  | definition name params body s =>
    have hmem : e ∈ params ∨ e ∈ body := by
      rw [parts] at he
      split at he
      · exact .inl he
      · exact List.mem_append.mp he
    obtain he | he := hmem
    · exact ((nesting_le_nestingAll he).trans (Nat.le_succ _)).trans (Nat.le_max_left _ _)
    · exact ((nesting_le_nestingAll he).trans (Nat.le_succ _)).trans (Nat.le_max_right _ _)
  | assignment target value s =>
    obtain rfl := List.mem_singleton.mp he
    exact Nat.le_succ _

/-- Only definitions of functions have the body of a function. -/
theorem isFunction_of_mem_functionBody {e d : Expr} (he : e ∈ d.functionBody) :
    d.isFunction = true := by
  cases d with
  | definition name params body s =>
    rw [functionBody] at he
    split at he
    · assumption
    · cases he
  | _ => cases he

/-- The body of a function is nested less deep than its definition. -/
theorem nesting_lt_of_mem_functionBody {e d : Expr} (he : e ∈ d.functionBody) :
    e.nesting < d.nesting := by
  cases d with
  | definition name params body s =>
    rw [functionBody, if_pos (isFunction_of_mem_functionBody he)] at he
    exact (Nat.lt_succ_of_le (nesting_le_nestingAll he)).trans_le (Nat.le_max_right _ _)
  | _ => cases he

/-- A definition of a function is nested. -/
theorem nesting_pos_of_isFunction {d : Expr} (hd : d.isFunction = true) : 0 < d.nesting := by
  cases d with
  | definition name params body s => exact (Nat.succ_pos _).trans_le (Nat.le_max_right _ _)
  | _ => cases hd

end Expr

/-- An expression lies in one of several source texts, within the bodies of the functions that some
definitions make, innermost first, and within no other bodies. -/
inductive Inside (texts : List String) : List Expr → Expr → Prop
  | statement {source : String} {program : List Expr} {e : Expr} :
    source ∈ texts → readProgram source = .ok program → e ∈ program → Inside texts [] e
  | part {context : List Expr} {d e : Expr} : Inside texts context d → e ∈ d.parts →
    Inside texts context e
  | body {context : List Expr} {d e : Expr} : Inside texts context d → e ∈ d.functionBody →
    Inside texts (d :: context) e

/-- A text that can be read is not nested too deep. -/
theorem nestingAll_le_of_readProgram {source : String} {program : List Expr}
    (h : readProgram source = .ok program) : Expr.nestingAll program ≤ maxNesting := by
  unfold readProgram at h
  split at h
  · cases h
  · split at h
    · cases h
    · next hparse =>
      cases h
      exact (parse_eq_ok_iff.mp hparse).2

namespace Inside

variable {texts : List String} {context : List Expr} {d e : Expr}

/-- Every body counts against the nesting of the text. -/
theorem nesting_le (h : Inside texts context e) : context.length + e.nesting ≤ maxNesting := by
  induction h with
  | statement _ hread he =>
    have := (Expr.nesting_le_nestingAll he).trans (nestingAll_le_of_readProgram hread)
    simpa using this
  | part _ he ih =>
    have := Expr.nesting_le_of_mem_parts he
    omega
  | body _ he ih =>
    have := Expr.nesting_lt_of_mem_functionBody he
    rw [List.length_cons]
    omega

/-- A definition lies within fewer bodies than a text may be nested. -/
theorem length_lt (h : Inside texts context d) (hd : d.isFunction = true) :
    context.length < maxNesting := by
  have := h.nesting_le
  have := Expr.nesting_pos_of_isFunction hd
  omega

end Inside

/-! ## Records -/

/-- What a scope was made for. -/
inductive Origin where
  /-- The global scope, or the scope of a builtin. -/
  | root
  /-- The function of a definition that lies within the bodies of `context` and was evaluated in the
  scope `home`. -/
  | closure (definition : Expr) (context : List Expr) (home : ScopeId)
  /-- A call of the function whose scope is `closure`. -/
  | frame (closure : ScopeId)

variable {origins origins' : List Origin} {context : List Expr} {d : Expr}

/-- The chain of scopes that the record gives for the innermost of the bodies of `context`: the
frame of a call of the function whose body that is, the scope of this function, and then the chain
of the scope that its definition was evaluated in. -/
inductive Chained (origins : List Origin) : (context : List Expr) → (chain : List ScopeId) → Prop
  | globals : origins[Interpreter.globals]? = some .root → Chained origins [] [Interpreter.globals]
  | frame {context : List Expr} {rest : List ScopeId} {d : Expr} {home closure frame : ScopeId} :
    Chained origins context (home :: rest) →
    origins[closure]? = some (.closure d context home) → origins[frame]? = some (.frame closure) →
      Chained origins (d :: context) (frame :: closure :: home :: rest)

/-- The functions that the builtin names are bound to from the start. -/
def IsPlaceholder (f : Closure) : Prop :=
  ∃ name, (name, Value.function f) ∈ Interpreter.freshHeap.bindings Interpreter.globals

/-- A function is one that a definition makes. -/
def IsMadeBy (f : Closure) (d : Expr) : Prop :=
  ∃ name params span, d = .definition name params f.body span ∧ d.isFunction = true ∧
    name.text = f.name ∧ parameterNames f.name params = .ok f.params

/-- The record has the definition of a function, unless it is a placeholder of a builtin. -/
def Recorded (origins : List Origin) (f : Closure) : Prop :=
  IsPlaceholder f ∨
    ∃ d context home, origins[f.scope]? = some (.closure d context home) ∧ IsMadeBy f d

/-- Records that fit the texts and themselves: definitions lie in a text where it is said, and were
evaluated in a scope with a matching chain, and calls are of functions on record. -/
structure Consistent (texts : List String) (origins : List Origin) : Prop where
  closure : ∀ (i : ScopeId) d context home, origins[i]? = some (.closure d context home) →
    Inside texts context d ∧ d.isFunction = true ∧ ∃ rest, Chained origins context (home :: rest)
  frame : ∀ (i : ScopeId) closure, origins[i]? = some (.frame closure) →
    ∃ d context home, origins[closure]? = some (.closure d context home)

/-- The scope that a new scope is made in. -/
def Origin.parent? : Origin → Option ScopeId
  | .root => none
  | .closure _ _ home => some home
  | .frame i => some i

/-- A heap is what its record says: the scope of a function lies in the scope that its definition
was evaluated in and has no bindings, a frame lies in the scope of the function that was called,
and every function that is bound somewhere is on record. -/
structure Accords (texts : List String) (origins : List Origin) (h : Heap) : Prop where
  length_eq : origins.length = h.scopes.size
  consistent : Consistent texts origins
  parent?_eq : ∀ (i : ScopeId) o, origins[i]? = some o → h.parent? i = o.parent?
  empty : ∀ (i : ScopeId) d context home, origins[i]? = some (.closure d context home) →
    h.bindings i = []
  functions : ∀ i name v, (name, v) ∈ h.bindings i → ∀ f ∈ v.closures, Recorded origins f

/-! ## Longer records -/

/-- What a list has at an index stays there as the list grows. -/
theorem getElem?_mono {α : Type} {l l' : List α} (h : l <+: l') {i : Nat} {a : α}
    (hi : l[i]? = some a) : l'[i]? = some a := by
  obtain ⟨more, rfl⟩ := h
  rw [List.getElem?_append_left (List.getElem?_eq_some_iff.mp hi).1, hi]

/-- A chain that is on record stays so. -/
theorem Chained.mono {chain : List ScopeId} (h : Chained origins context chain)
    (hle : origins <+: origins') : Chained origins' context chain := by
  induction h with
  | globals hroot => exact .globals (getElem?_mono hle hroot)
  | frame _ hclosure hframe ih =>
    exact .frame ih (getElem?_mono hle hclosure) (getElem?_mono hle hframe)

/-- What the record says at a place is what it said before or what was added there. -/
theorem getElem?_snoc {α : Type} {l : List α} {i : Nat} {a b : α} (h : (l ++ [b])[i]? = some a) :
    l[i]? = some a ∨ i = l.length ∧ a = b := by
  obtain hlt | hle := Nat.lt_or_ge i l.length
  · exact .inl (by rwa [List.getElem?_append_left hlt] at h)
  · rw [List.getElem?_append_right hle, List.getElem?_singleton] at h
    split at h
    · next hzero => exact .inr ⟨by omega, (Option.some.inj h).symm⟩
    · cases h

/-- A function that is on record stays so. -/
theorem Recorded.mono {f : Closure} (h : Recorded origins f) (hle : origins <+: origins') :
    Recorded origins' f := by
  obtain h | ⟨d, context, home, hscope, hmade⟩ := h
  · exact .inl h
  · exact .inr ⟨d, context, home, getElem?_mono hle hscope, hmade⟩

/-- A record stays consistent if a definition or a call is added that fits it. -/
theorem Consistent.snoc {texts : List String} (hc : Consistent texts origins) {o : Origin}
    (hclosure : ∀ d context home, o = .closure d context home →
      Inside texts context d ∧ d.isFunction = true ∧ ∃ rest, Chained origins context (home :: rest))
    (hframe : ∀ closure, o = .frame closure →
      ∃ d context home, origins[closure]? = some (.closure d context home)) :
    Consistent texts (origins ++ [o]) where
  closure i d context home hi := by
    have h : Inside texts context d ∧ d.isFunction = true ∧
        ∃ rest, Chained origins context (home :: rest) := by
      obtain hi | ⟨-, rfl⟩ := getElem?_snoc hi
      · exact hc.closure i d context home hi
      · exact hclosure d context home rfl
    obtain ⟨hinside, hd, rest, hchain⟩ := h
    exact ⟨hinside, hd, rest, hchain.mono (List.prefix_append origins [o])⟩
  frame i closure hi := by
    have h : ∃ d context home, origins[closure]? = some (.closure d context home) := by
      obtain hi | ⟨-, rfl⟩ := getElem?_snoc hi
      · exact hc.frame i closure hi
      · exact hframe closure rfl
    obtain ⟨d, context, home, hi⟩ := h
    exact ⟨d, context, home, getElem?_mono (List.prefix_append origins [o]) hi⟩

/-- Frame, scope of a function, frame, and so on to the global scope. -/
theorem Chained.length {chain : List ScopeId} (h : Chained origins context chain) :
    chain.length = 2 * context.length + 1 := by
  induction h with
  | globals => rfl
  | frame _ _ _ ih =>
    simp only [List.length_cons] at ih ⊢
    omega

/-- No expression is evaluated in the scope of a function. -/
theorem Chained.head_ne_closure {i : ScopeId} {rest : List ScopeId}
    (h : Chained origins context (i :: rest)) {context' : List Expr} {home : ScopeId} :
    origins[i]? ≠ some (.closure d context' home) := by
  intro hclosure
  cases h with
  | globals hroot => simp [hroot] at hclosure
  | frame _ _ hframe => simp [hframe] at hclosure

/-! ## Chains of the heap -/

namespace Accords

variable {texts : List String} {h : Heap} (ha : Accords texts origins h) {i : ScopeId}

include ha

/-- There are the scopes that are on record. -/
theorem lt_size {o : Origin} (hi : origins[i]? = some o) : i < h.scopes.size := by
  rw [← ha.length_eq]
  exact (List.getElem?_eq_some_iff.mp hi).1

/-- **Chains are as recorded.** -/
theorem chain_eq {rest : List ScopeId} (hchain : Chained origins context (i :: rest)) :
    h.chain i = i :: rest := by
  generalize hall : i :: rest = all at hchain
  induction hchain generalizing i rest with
  | globals hroot =>
    cases hall
    rw [Heap.chain_of_lt (ha.lt_size hroot), ha.parent?_eq _ _ hroot, Origin.parent?,
      Option.elim_none]
  | frame _ hclosure hframe ih =>
    cases hall
    rw [Heap.chain_of_lt (ha.lt_size hframe), ha.parent?_eq _ _ hframe, Origin.parent?,
      Option.elim_some, Heap.chain_of_lt (ha.lt_size hclosure), ha.parent?_eq _ _ hclosure,
      Origin.parent?, Option.elim_some, ih rfl]

/-- **Depth is bounded** by twice the nesting of the texts. -/
theorem depth_le (i : ScopeId) : h.depth i ≤ 2 * maxNesting + 1 := by
  obtain hlt | hle := Nat.lt_or_ge i h.scopes.size
  · obtain ⟨o, hi⟩ : ∃ o, origins[i]? = some o :=
      ⟨_, List.getElem?_eq_getElem (ha.length_eq.symm ▸ hlt)⟩
    cases o with
    | root =>
      rw [Heap.depth, Heap.chain_of_lt hlt, ha.parent?_eq i _ hi]
      exact Nat.le_add_left 1 _
    | closure d context home =>
      obtain ⟨hinside, hd, rest, hchain⟩ := ha.consistent.closure i d context home hi
      have hlength := hchain.length
      have hnesting := hinside.length_lt hd
      rw [Heap.depth, Heap.chain_of_lt hlt, ha.parent?_eq i _ hi, Origin.parent?,
        Option.elim_some, ha.chain_eq hchain, List.length_cons]
      omega
    | frame closure =>
      -- A frame is as deep as an expression of the body would need.
      obtain ⟨d, context, home, hclosure⟩ := ha.consistent.frame i closure hi
      obtain ⟨hinside, hd, rest, hchain⟩ := ha.consistent.closure closure d context home hclosure
      have hlength := (hchain.frame hclosure hi).length
      have hnesting := hinside.length_lt hd
      rw [Heap.depth, ha.chain_eq (hchain.frame hclosure hi), hlength, List.length_cons]
      omega
  · rw [Heap.depth, Heap.chain_of_le hle]
    exact Nat.zero_le _

/-! ## Steps of the heap -/

/-- Names may be bound in every scope that is not the scope of a function. -/
theorem bind (hi : ∀ d context home, origins[i]? ≠ some (.closure d context home)) (name : String)
    {v : Value} (hv : ∀ f ∈ v.closures, Recorded origins f) :
    Accords texts origins (h.bind i name v) where
  length_eq := by simpa using ha.length_eq
  consistent := ha.consistent
  parent?_eq j o ho := by simpa using ha.parent?_eq j o ho
  empty j d context home ho := by
    have hne : j ≠ i := by
      rintro rfl
      exact hi d context home ho
    rw [Heap.bindings_bind_of_ne hne, ha.empty j d context home ho]
  functions j other w hw f hf := by
    obtain rfl | hw := Heap.mem_bindings_bind hw
    · exact hv f hf
    · exact ha.functions j other w hw f hf

/-- A heap accords with its record after a scope was cleared. -/
theorem clear (i : ScopeId) : Accords texts origins (h.clear i) where
  length_eq := by simpa using ha.length_eq
  consistent := ha.consistent
  parent?_eq j o ho := by simpa using ha.parent?_eq j o ho
  empty j d context home ho := by
    by_cases hne : j = i
    · rw [hne, Heap.bindings_clear_self]
    · rw [Heap.bindings_clear_of_ne hne, ha.empty j d context home ho]
  functions j other w hw f hf := by
    by_cases hne : j = i
    · simp [hne] at hw
    · rw [Heap.bindings_clear_of_ne hne] at hw
      exact ha.functions j other w hw f hf

/-- A new scope goes on record with what it is made for. -/
theorem newChild {o : Origin} {p : ScopeId} (hp : p < h.scopes.size) (ho : o.parent? = some p)
    (hconsistent : Consistent texts (origins ++ [o])) :
    Accords texts (origins ++ [o]) (h.newChild p).1 where
  length_eq := by simp [ha.length_eq]
  consistent := hconsistent
  parent?_eq j o' ho' := by
    obtain ho' | ⟨rfl, rfl⟩ := getElem?_snoc ho'
    · rw [Heap.parent?_newChild_of_ne (ha.lt_size ho').ne, ha.parent?_eq j o' ho']
    · rw [ha.length_eq, Heap.parent?_newChild_self hp, ho]
  empty j d context home ho' := by
    rw [Heap.bindings_newChild]
    obtain ho' | ⟨rfl, -⟩ := getElem?_snoc ho'
    · exact ha.empty j d context home ho'
    · exact Heap.bindings_of_le ha.length_eq.ge
  functions j other w hw f hf := by
    rw [Heap.bindings_newChild] at hw
    exact (ha.functions j other w hw f hf).mono (List.prefix_append origins [o])

/-- The scope of a function that a definition makes. -/
theorem newClosure {rest : List ScopeId} (hd : Inside texts context d)
    (hfunction : d.isFunction = true) (hchain : Chained origins context (i :: rest)) :
    Accords texts (origins ++ [.closure d context i]) (h.newChild i).1 := by
  have hlt : i < h.scopes.size := by
    cases hchain with
    | globals hroot => exact ha.lt_size hroot
    | frame _ _ hframe => exact ha.lt_size hframe
  refine ha.newChild hlt rfl (ha.consistent.snoc ?_ (by rintro _ ⟨⟩))
  rintro _ _ _ ⟨⟩
  exact ⟨hd, hfunction, rest, hchain⟩

/-- The frame of a call of a function. -/
theorem newFrame {home : ScopeId} (hclosure : origins[i]? = some (.closure d context home)) :
    Accords texts (origins ++ [.frame i]) (h.newChild i).1 := by
  refine ha.newChild (ha.lt_size hclosure) rfl (ha.consistent.snoc (by rintro _ _ _ ⟨⟩) ?_)
  rintro _ ⟨⟩
  exact ⟨d, context, home, hclosure⟩

/-- A name that means something means a value whose functions are on record. -/
theorem lookup? {name : String} {v : Value} (hv : h.lookup? i name = some v) :
    ∀ f ∈ v.closures, Recorded origins f := by
  induction i using Nat.strong_induction_on with
  | _ i ih =>
    rw [Heap.lookup?_eq] at hv
    cases hget : Scope.get? name (h.bindings i) with
    | some u =>
      rw [hget] at hv
      cases hv
      exact ha.functions i name v (Scope.mem_of_get? hget)
    | none =>
      rw [hget, Option.none_or] at hv
      obtain ⟨p, hp, hv⟩ := Option.bind_eq_some_iff.mp hv
      exact ih p (Heap.lt_of_parent? hp) hv

end Accords

/-! ## The fresh heap -/

open Interpreter (freshHeap globals)

/-- In a fresh interpreter each builtin is bound to its name, with a scope of its own. -/
theorem bindings_freshHeap :
    freshHeap.bindings globals =
      (Builtin.names.zipIdx 1).map fun p => (p.1, .function ⟨p.1, [], [], p.2⟩) := rfl

/-- In a fresh heap only functions are bound, and these in the global scope. -/
theorem exists_function_of_freshHeap {i : ScopeId} {name : String} {v : Value}
    (hv : (name, v) ∈ freshHeap.bindings i) : i = globals ∧ ∃ f, v = .function f := by
  have hempty : ∀ i < freshHeap.scopes.size, i ≠ globals → (freshHeap.bindings i).length = 0 := by
    decide +kernel
  by_cases hi : i = globals
  · rw [hi, bindings_freshHeap] at hv
    obtain ⟨p, -, hp⟩ := List.mem_map.mp hv
    exact ⟨hi, _, (congrArg Prod.snd hp).symm⟩
  · obtain hlt | hle := Nat.lt_or_ge i freshHeap.scopes.size
    · simp [List.eq_nil_of_length_eq_zero (hempty i hlt hi)] at hv
    · simp [Heap.bindings_of_le hle] at hv

/-- A placeholder has the name of a builtin, which is what runs in its place. -/
theorem IsPlaceholder.ofName? {f : Closure} (hf : IsPlaceholder f) :
    (Builtin.ofName? f.name).isSome := by
  have hnames : ∀ p ∈ Builtin.names.zipIdx 1, (Builtin.ofName? p.1).isSome := by decide
  obtain ⟨name, hf⟩ := hf
  rw [bindings_freshHeap] at hf
  obtain ⟨p, hp, hpf⟩ := List.mem_map.mp hf
  obtain rfl := Value.function.inj (congrArg Prod.snd hpf)
  exact hnames p hp

/-- A fresh heap accords with the record that has no definitions and no calls. -/
theorem accords_freshHeap (texts : List String) :
    Accords texts (List.replicate freshHeap.scopes.size .root) freshHeap := by
  have hparent : ∀ i < freshHeap.scopes.size, freshHeap.parent? i = none := by decide +kernel
  have hroot : ∀ {i o}, (List.replicate freshHeap.scopes.size Origin.root)[i]? = some o →
      i < freshHeap.scopes.size ∧ o = .root := by
    intro i o h
    obtain ⟨hi, rfl⟩ := List.getElem?_eq_some_iff.mp h
    exact ⟨by simpa using hi, List.getElem_replicate _⟩
  constructor
  · exact List.length_replicate
  · constructor
    · intro i d context home hi
      cases (hroot hi).2
    · intro i closure hi
      cases (hroot hi).2
  · intro i o hi
    rw [(hroot hi).2, hparent i (hroot hi).1, Origin.parent?]
  · intro i d context home hi
    cases (hroot hi).2
  · intro i name v hv f hf
    obtain ⟨rfl, g, rfl⟩ := exists_function_of_freshHeap hv
    obtain rfl := List.mem_singleton.mp hf
    exact .inl ⟨name, hv⟩

end ScopeScript
