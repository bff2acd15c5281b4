import ScopeScript.Eval.Expr
import ScopeScript.Pattern.Library
import ScopeScript.Proofs.Expr.Accept
import ScopeScript.Proofs.Expr.Node
import ScopeScript.Proofs.Scope.Heap

/-!
# The height of trees

A tree that the parser accepts is nested at most `maxNesting` levels deep, but its paths may be
longer than that. Every operand but the right one, and every callee, stands on the level of its
parent. A left operand is no operation itself, so left operands no more than double the length of a
path. Callees add one node each, and their number has no bound: any number of argument lists may
follow a name, one behind the other, on a single level. Evaluating such a chain of calls nests as
many evaluations.
-/

namespace ScopeScript

open ScopeScript.Parser (maxNesting)

namespace Expr

/-- A way from an expression down to a leaf, with all nodes on it. -/
inductive Path : Expr → List Expr → Prop
  | leaf {e : Expr} : e.children = [] → Path e [e]
  | step {e c : Expr} {nodes : List Expr} : c ∈ e.children → Path c nodes → Path e (e :: nodes)

mutual

/-- How many nodes the longest path has. -/
def height : Expr → Nat
  | operation _ left right _ => max left.height right.height + 1
  | call callee args _ => max callee.height (heightAll args) + 1
  | definition _ params body _ => max (heightAll params) (heightAll body) + 1
  | assignment _ value _ => value.height + 1
  | _ => 1

/-- How many nodes the longest path in several expressions has. -/
def heightAll : List Expr → Nat
  | [] => 0
  | e :: rest => max e.height (heightAll rest)

end

mutual

/-- How many callees there are on a path at most. -/
def calleeDepth : Expr → Nat
  | operation _ left right _ => max left.calleeDepth right.calleeDepth
  | call callee args _ => max (callee.calleeDepth + 1) (calleeDepthAll args)
  | definition _ params body _ => max (calleeDepthAll params) (calleeDepthAll body)
  | assignment _ value _ => value.calleeDepth
  | _ => 0

/-- How many callees there are on a path in several expressions at most. -/
def calleeDepthAll : List Expr → Nat
  | [] => 0
  | e :: rest => max e.calleeDepth (calleeDepthAll rest)

end

/-- No tree of a list is higher than the list. -/
theorem height_le_heightAll {e : Expr} {es : List Expr} (he : e ∈ es) :
    e.height ≤ heightAll es := by
  induction he with
  | head rest => exact Nat.le_max_left _ _
  | tail e' _ ih => exact ih.trans (Nat.le_max_right _ _)

/-- The height of lists one behind the other. -/
theorem heightAll_append (es es' : List Expr) :
    heightAll (es ++ es') = max (heightAll es) (heightAll es') := by
  induction es with
  | nil => exact (Nat.zero_max _).symm
  | cons e rest ih => rw [List.cons_append, heightAll, heightAll, ih, max_assoc]

/-- A tree is one node higher than what is below its root. -/
theorem height_eq (e : Expr) : e.height = heightAll e.children + 1 := by
  cases e with
  | number | string | symbol | call => rfl
  | operation | assignment => simp [height, children, heightAll]
  | definition => rw [children, heightAll_append, height]

/-- No tree is without height. -/
theorem height_pos (e : Expr) : 0 < e.height :=
  e.height_eq ▸ Nat.succ_pos _

/-- The parts of a tree are lower than the tree. -/
theorem height_lt_of_mem_children {c e : Expr} (hc : c ∈ e.children) : c.height < e.height :=
  e.height_eq ▸ Nat.lt_succ_of_le (height_le_heightAll hc)

/-- One of several trees is the highest. -/
theorem exists_heightAll_eq {es : List Expr} (hes : es ≠ []) :
    ∃ e ∈ es, heightAll es = e.height := by
  induction es with
  | nil => exact absurd rfl hes
  | cons e rest ih =>
    obtain hmax | hmax := max_choice e.height (heightAll rest)
    · exact ⟨e, List.mem_cons_self, hmax⟩
    · by_cases hrest : rest = []
      · exact ⟨e, List.mem_cons_self, by simp [hrest, heightAll]⟩
      · obtain ⟨c, hc, hheight⟩ := ih hrest
        exact ⟨c, List.mem_cons_of_mem _ hc, hmax.trans hheight⟩

/-- No path is longer than the tree is high. -/
theorem Path.length_le_height {e : Expr} {nodes : List Expr} (h : Path e nodes) :
    nodes.length ≤ e.height := by
  induction h with
  | @leaf e _ => exact e.height_pos
  | step hc _ ih => exact Nat.succ_le_of_lt (ih.trans_lt (height_lt_of_mem_children hc))

/-- Some path is as long as the tree is high. -/
theorem exists_path_length_eq_height (e : Expr) :
    ∃ nodes, Path e nodes ∧ nodes.length = e.height := by
  induction hn : e.height using Nat.strong_induction_on generalizing e with
  | _ n ih =>
    rw [height_eq] at hn
    by_cases he : e.children = []
    · exact ⟨[e], .leaf he, by simpa [he, heightAll] using hn⟩
    · obtain ⟨c, hc, hmax⟩ := exists_heightAll_eq he
      obtain ⟨nodes, hpath, hlength⟩ := ih c.height (by omega) c rfl
      exact ⟨e :: nodes, .step hc hpath, by rw [List.length_cons, hlength, ← hmax, hn]⟩

mutual

/-- Every callee on a path is one of its nodes. -/
theorem calleeDepth_lt_height : ∀ e : Expr, e.calleeDepth < e.height
  | number _ _ | string _ _ | symbol _ _ => Nat.one_pos
  | operation _ left right _ => by
    have hleft := calleeDepth_lt_height left
    have hright := calleeDepth_lt_height right
    simp only [calleeDepth, height]
    omega
  | call callee args _ => by
    have hcallee := calleeDepth_lt_height callee
    have hargs := calleeDepthAll_le_heightAll args
    simp only [calleeDepth, height]
    omega
  | definition _ params body _ => by
    have hparams := calleeDepthAll_le_heightAll params
    have hbody := calleeDepthAll_le_heightAll body
    simp only [calleeDepth, height]
    omega
  | assignment _ value _ => by
    have hvalue := calleeDepth_lt_height value
    simp only [calleeDepth, height]
    omega

/-- Callees in a list are at most as deep as the list is high. -/
theorem calleeDepthAll_le_heightAll : ∀ es : List Expr, calleeDepthAll es ≤ heightAll es
  | [] => Nat.le_refl 0
  | e :: rest => by
    have he := calleeDepth_lt_height e
    have hrest := calleeDepthAll_le_heightAll rest
    simp only [calleeDepthAll, heightAll]
    omega

end

mutual

/-- **Nesting bounds the height of canonical trees**, but for callees. A tree that may stand left of
an operator has one node less to spare unless it is a leaf. -/
theorem height_le : ∀ e : Expr, e.isCanonical = true →
    e.height ≤ 2 * e.nesting + 1 + e.calleeDepth ∧
      (e.isPrimary = true → e.height ≤ max 1 (2 * e.nesting) + e.calleeDepth)
  | number _ _, _ => by simp [height, nesting, calleeDepth]
  | string _ _, _ => by simp [height, nesting, calleeDepth]
  | symbol _ _, _ => by simp [height, nesting, calleeDepth]
  | operation _ left right _, h => by
    simp only [isCanonical, Bool.and_eq_true] at h
    have hleft := (height_le left h.1.2).2 h.1.1
    have hright := (height_le right h.2).1
    simp only [height, nesting, calleeDepth, isPrimary, Bool.false_eq_true, false_implies, and_true]
    omega
  | call callee args _, h => by
    simp only [isCanonical, Bool.and_eq_true] at h
    have hcallee := (height_le callee h.1.2).2 h.1.1
    have hargs := heightAll_le args h.2
    simp only [height, nesting, calleeDepth, isPrimary, true_implies]
    omega
  | definition _ params body _, h => by
    simp only [isCanonical, Bool.and_eq_true] at h
    have hparams := heightAll_le params h.1
    have hbody := heightAll_le body h.2
    simp only [height, nesting, calleeDepth, isPrimary, true_implies]
    omega
  | assignment _ value _, h => by
    have hvalue := (height_le value h).1
    simp only [height, nesting, calleeDepth, isPrimary, Bool.false_eq_true, false_implies, and_true]
    omega

/-- Lists of canonical trees are bounded in height by their nesting and their callees. -/
theorem heightAll_le : ∀ es : List Expr, allCanonical es = true →
    heightAll es ≤ 2 * nestingAll es + 1 + calleeDepthAll es
  | [], _ => Nat.zero_le _
  | e :: rest, h => by
    rw [allCanonical, Bool.and_eq_true] at h
    have he := (height_le e h.1).1
    have hrest := heightAll_le rest h.2
    simp only [heightAll, nestingAll, calleeDepthAll]
    omega

end

end Expr

open ScopeScript.Expr

/-! ## Chains of calls -/

/-- The name `f` with `n` empty argument lists behind it. -/
def callChain : (n : Nat) → Expr
  | 0 => .symbol "f" .none
  | n + 1 => .call (callChain n) [] .none

/-- The tokens of such a chain without places. -/
def callChainTokens : (n : Nat) → List Token
  | 0 => [⟨.name, "f", .none⟩]
  | n + 1 => callChainTokens n ++ [⟨.leftParen, "(", .none⟩, ⟨.rightParen, ")", .none⟩]

/-- Chains of calls have no places. -/
theorem span_callChain (n : Nat) : (callChain n).span = .none := by
  cases n <;> rfl

/-- Chains of calls are primary. -/
theorem isPrimary_callChain (n : Nat) : (callChain n).isPrimary = true := by
  cases n <;> rfl

/-- Chains of calls are spelled by their tokens. -/
theorem spells_callChain (n : Nat) : Spells (callChain n) (callChainTokens n) := by
  induction n with
  | zero => exact .symbol "f" .none
  | succ n ih =>
    have hcall := Spells.call (o := ⟨.leftParen, "(", .none⟩) (c := ⟨.rightParen, ")", .none⟩) ih
      (isPrimary_callChain n) rfl .nil rfl
    rwa [span_callChain] at hcall

/-- Callees stay on the level where they start. -/
theorem nesting_callChain_le (n : Nat) : (callChain n).nesting ≤ 1 := by
  induction n with
  | zero => exact Nat.zero_le 1
  | succ n ih => exact max_le ih le_rfl

/-- Chains of calls are accepted at any length. -/
theorem parse_callChain (n : Nat) : parse (callChainTokens n) = .ok [callChain n] := by
  have hnesting : nestingAll [callChain n] ≤ 1 := max_le (nesting_callChain_le n) (Nat.zero_le 1)
  exact parse_eq_ok_iff.mpr ⟨.last (spells_callChain n), hnesting.trans (by decide)⟩

/-- The callees of a chain are as deep as the chain is long. -/
theorem calleeDepth_callChain (n : Nat) : (callChain n).calleeDepth = n := by
  induction n with
  | zero => rfl
  | succ n ih => simp [callChain, calleeDepth, calleeDepthAll, ih]

/-- A chain of calls has a path through all of its callees. -/
theorem exists_path_callChain (n : Nat) :
    ∃ nodes, Path (callChain n) nodes ∧ nodes.length = n + 1 := by
  induction n with
  | zero => exact ⟨_, .leaf rfl, rfl⟩
  | succ n ih =>
    obtain ⟨nodes, hpath, hlength⟩ := ih
    exact ⟨_, .step List.mem_cons_self hpath, congrArg (· + 1) hlength⟩

/-- The evaluation of a chain evaluates all callees within one another before it does anything. -/
theorem eval_callChain [SearchContext] (rules : Rules) {env : ScopeId} {m : Machine}
    (hf : m.heap.lookup? env "f" = none) (n : Nat) :
    eval rules n (callChain n) env m = .unfinished ∧
      eval rules (n + 1) (callChain n) env m = .failed (.undefinedVariable "f" .none) m := by
  have hcall : ∀ steps n, eval rules (steps + 1) (callChain (n + 1)) env m =
      Eval.bind (eval rules steps (callChain n) env) _ m := fun _ _ => rfl
  induction n with
  | zero =>
    refine ⟨rfl, ?_⟩
    rw [eval, evalWith, callChain, evalStep]
    change Eval.bind (Eval.lookup? env "f") _ m = _
    rw [Eval.bind, Eval.lookup?, hf]
    rfl
  | succ n ih =>
    rw [hcall, hcall, Eval.bind, Eval.bind, ih.1, ih.2]
    exact ⟨rfl, rfl⟩

/-- The paths of accepted trees are bounded by the nesting and the callees. -/
theorem Path.length_le_of_parse {ts : List Token} {p : List Expr} (h : parse ts = .ok p)
    {e : Expr} (he : e ∈ p) {nodes : List Expr} (hpath : Path e nodes) :
    nodes.length ≤ 2 * maxNesting + 1 + e.calleeDepth := by
  obtain ⟨hspells, hnesting⟩ := parse_eq_ok_iff.mp h
  have hheight := (height_le e (isCanonical_of_mem hspells.allCanonical he)).1
  have hlevel := (nesting_le_nestingAll he).trans hnesting
  have hlength := hpath.length_le_height
  omega

/-- **How long paths can be.** A path in an accepted program has at most `2 * maxNesting + 1` nodes
and one more for each callee, as many as a path of the tree has at most. Among any token lists, one
bound holds of all paths in the accepted programs exactly if one holds of these numbers of callees.
They have no bound among all programs: for every number there is an accepted program with as many
callees on a path, whose evaluation nests as deep. -/
theorem paths_bounded_iff [SearchContext] (texts : Set (List Token)) :
    (∀ ts ∈ texts, ∀ p, parse ts = .ok p → ∀ e ∈ p, ∀ nodes, Path e nodes →
      nodes.length ≤ 2 * maxNesting + 1 + e.calleeDepth) ∧
    ((∃ bound, ∀ ts ∈ texts, ∀ p, parse ts = .ok p → ∀ e ∈ p, ∀ nodes, Path e nodes →
        nodes.length ≤ bound) ↔
      ∃ bound, ∀ ts ∈ texts, ∀ p, parse ts = .ok p → ∀ e ∈ p, e.calleeDepth ≤ bound) ∧
    ∀ n, ∃ ts e, parse ts = .ok [e] ∧ e.calleeDepth = n ∧
      ∀ rules env m, m.heap.lookup? env "f" = none →
        eval rules n e env m = .unfinished ∧ eval rules (n + 1) e env m ≠ .unfinished := by
  refine ⟨fun ts _ p h e he nodes => Path.length_le_of_parse h he, ⟨?_, ?_⟩, fun n => ?_⟩
  · rintro ⟨bound, hbound⟩
    refine ⟨bound, fun ts hts p h e he => ?_⟩
    obtain ⟨nodes, hpath, hlength⟩ := exists_path_length_eq_height e
    have hle := hbound ts hts p h e he nodes hpath
    have hlt := calleeDepth_lt_height e
    omega
  · rintro ⟨bound, hbound⟩
    refine ⟨2 * maxNesting + 1 + bound, fun ts hts p h e he nodes hpath => ?_⟩
    have hle := Path.length_le_of_parse h he hpath
    have hcallees := hbound ts hts p h e he
    omega
  · refine ⟨callChainTokens n, callChain n, parse_callChain n, calleeDepth_callChain n, ?_⟩
    intro rules env m hf
    obtain ⟨hstops, hends⟩ := eval_callChain rules hf n
    exact ⟨hstops, by simp [hends]⟩

/-- Three argument lists behind a name: its paths are bounded, and there is a chain of three callees
whose evaluation is deeper than three. -/
theorem paths_bounded_iff_threeCalls :
    (∀ nodes, Path (callChain 3) nodes → nodes.length ≤ 2 * maxNesting + 1 + 3) ∧
    (∃ bound, ∀ ts ∈ ({callChainTokens 3} : Set (List Token)), ∀ p, parse ts = .ok p →
      ∀ e ∈ p, ∀ nodes, Path e nodes → nodes.length ≤ bound) ∧
    Heap.empty.lookup? 0 "f" = none ∧
      ∃ ts e, parse ts = .ok [e] ∧ e.calleeDepth = 3 ∧
        eval ⟨1, true⟩ 3 e 0 ⟨Heap.empty, .unbounded, 0, .none⟩ = .unfinished := by
  have hread := parse_callChain 3
  have hf : Heap.empty.lookup? 0 "f" = none := Heap.findOutward?_of_le _ (Nat.le_refl 0)
  obtain ⟨hlength, hiff, hchains⟩ := paths_bounded_iff {callChainTokens 3}
  obtain ⟨ts, e, hparse, hdepth, heval⟩ := hchains 3
  refine ⟨fun nodes => hlength _ rfl _ hread _ List.mem_cons_self nodes, hiff.mpr ⟨3, ?_⟩, hf,
    ts, e, hparse, hdepth, (heval ⟨1, true⟩ 0 ⟨Heap.empty, .unbounded, 0, .none⟩ hf).1⟩
  rintro _ rfl p hp e he
  obtain rfl : [callChain 3] = p := Except.ok.inj (hread.symm.trans hp)
  obtain rfl := List.mem_singleton.mp he
  exact (calleeDepth_callChain 3).le

/-- No bound holds of the paths in all accepted programs. -/
theorem not_paths_bounded :
    ¬ ∃ bound, ∀ ts p, parse ts = .ok p → ∀ e ∈ p, ∀ nodes, Path e nodes →
      nodes.length ≤ bound := by
  rintro ⟨bound, hbound⟩
  obtain ⟨nodes, hpath, hlength⟩ := exists_path_callChain bound
  have hle := hbound _ _ (parse_callChain bound) _ List.mem_cons_self nodes hpath
  omega

end ScopeScript
