import UefiTyping.Function.Basic

/-!
# What a body contains

Containment says where an expression may stand in a body: anywhere inside an expression
of a node, at any depth of control flow. It is stated without the walk. The listings of
`walk` hold exactly what is contained.
-/
namespace UefiTyping

/-! ## Inside an expression -/

namespace Expr

/-- An expression is inside another when it is that one or inside one of its parts. -/
inductive Within : Expr → Expr → Prop
  | self (e : Expr) : Within e e
  | part {e part whole : Expr} : part ∈ whole.children → Within e part → Within e whole

theorem sizeOf_lt_of_mem_children {part whole : Expr} (h : part ∈ whole.children) :
    sizeOf part < sizeOf whole := by
  cases whole <;> simp only [children, List.mem_cons, List.not_mem_nil, or_false] at h
  case call callee args site =>
    have := List.sizeOf_lt_of_mem h
    simp only [call.sizeOf_spec]
    omega
  case callThrough target args site =>
    rcases h with rfl | h
    · simp only [callThrough.sizeOf_spec]
      omega
    · have := List.sizeOf_lt_of_mem h
      simp only [callThrough.sizeOf_spec]
      omega
  all_goals
    rcases h with rfl | rfl | rfl <;> simp <;> omega

theorem mem_walk_of_within {e whole : Expr} (h : e.Within whole) : e ∈ whole.walk := by
  induction h with
  | self =>
    rw [walk_eq_cons]
    exact List.mem_cons_self
  | part hpart _ ih =>
    rw [walk_eq_cons]
    exact List.mem_cons_of_mem _ (List.mem_flatMap.2 ⟨_, hpart, ih⟩)

theorem within_of_mem_walk {e whole : Expr} (h : e ∈ whole.walk) : e.Within whole := by
  rw [walk_eq_cons, List.mem_cons, List.mem_flatMap] at h
  rcases h with rfl | ⟨part, hpart, h⟩
  · exact .self e
  · have := sizeOf_lt_of_mem_children hpart
    exact .part hpart (within_of_mem_walk h)
termination_by sizeOf whole

/-- The listing of an expression holds what is inside it. -/
theorem mem_walk_iff {e whole : Expr} : e ∈ whole.walk ↔ e.Within whole :=
  ⟨within_of_mem_walk, mem_walk_of_within⟩

end Expr

/-! ## Inside a body -/

namespace Node

/-- The expressions that stand in a node itself. -/
def expressions : Node → List Expr
  | .block _ statements => statements
  | .ifElse condition _ _ | .whileDo condition _ | .doWhile _ condition => [condition]
  | .forLoop start condition update _ => start.toList ++ condition :: update.toList
  | .ret value => value.toList
  | .switch value _ _ => [value]
  | .statement e => [e]
  | .loop _ | .sequence _ | .breakLoop | .continueLoop | .goto _ | .label _ => []

/-- The nodes that stand directly under a node. -/
def inner : Node → List Node
  | .ifElse _ ifTrue ifFalse => ifTrue ++ ifFalse
  | .whileDo _ body | .doWhile body _ | .forLoop _ _ _ body | .loop body | .sequence body => body
  | .switch _ cases default => cases.flatMap SwitchCase.body ++ default
  | .block .. | .ret _ | .statement _ | .breakLoop | .continueLoop | .goto _ | .label _ => []

/-- A node holds what is inside its own expressions, and what the nodes under it hold. -/
inductive Holds : Node → Expr → Prop
  | here {node : Node} {root e : Expr} : root ∈ node.expressions → e.Within root → Holds node e
  | under {node part : Node} {e : Expr} : part ∈ node.inner → Holds part e → Holds node e

theorem walkEach_eq_flatMap (nodes : List Node) : walkEach nodes = nodes.flatMap walk := by
  induction nodes with
  | nil => rfl
  | cons node nodes ih => rw [walkEach, ih, List.flatMap_cons]

theorem walkCases_eq_flatMap (cases : List (SwitchCase Node)) :
    walkCases cases = (cases.flatMap SwitchCase.body).flatMap walk := by
  induction cases with
  | nil => rfl
  | cons arm cases ih =>
    rw [walkCases, ih, walkEach_eq_flatMap, List.flatMap_cons, List.flatMap_append]

theorem mem_walkOptional_iff {e : Expr} {root : Option Expr} :
    e ∈ walkOptional root ↔ ∃ r ∈ root.toList, e.Within r := by
  cases root <;> simp [walkOptional, Expr.mem_walk_iff]

/-- One level of the walk. -/
theorem mem_walk_iff_level {node : Node} {e : Expr} :
    e ∈ node.walk ↔
      (∃ root ∈ node.expressions, e.Within root) ∨ ∃ part ∈ node.inner, e ∈ part.walk := by
  cases node <;>
    simp only [walk, expressions, inner, walkEach_eq_flatMap, walkCases_eq_flatMap,
      Expr.walkEach_eq_flatMap, mem_walkOptional_iff, Expr.mem_walk_iff, List.mem_append,
      List.mem_flatMap, List.mem_cons, List.not_mem_nil]
  all_goals grind

theorem sizeOf_lt_of_mem_inner {part node : Node} (h : part ∈ node.inner) :
    sizeOf part < sizeOf node := by
  cases node <;> simp only [inner, List.mem_append, List.not_mem_nil] at h
  case ifElse condition ifTrue ifFalse =>
    simp only [ifElse.sizeOf_spec]
    rcases h with h | h
    all_goals
      have := List.sizeOf_lt_of_mem h
      omega
  case switch value cases default =>
    simp only [switch.sizeOf_spec]
    rcases h with h | h
    · obtain ⟨⟨labels, body⟩, harm, h⟩ := List.mem_flatMap.1 h
      have hpart : sizeOf part < sizeOf body := List.sizeOf_lt_of_mem h
      have hbody := List.sizeOf_lt_of_mem harm
      simp only [SwitchCase.mk.sizeOf_spec] at hbody
      omega
    · have := List.sizeOf_lt_of_mem h
      omega
  all_goals
    have := List.sizeOf_lt_of_mem h
    simp
    omega

theorem mem_walk_of_holds {node : Node} {e : Expr} (h : node.Holds e) : e ∈ node.walk := by
  induction h with
  | here hroot hwithin => exact mem_walk_iff_level.2 (.inl ⟨_, hroot, hwithin⟩)
  | under hpart _ ih => exact mem_walk_iff_level.2 (.inr ⟨_, hpart, ih⟩)

theorem holds_of_mem_walk {node : Node} {e : Expr} (h : e ∈ node.walk) : node.Holds e := by
  rcases mem_walk_iff_level.1 h with ⟨root, hroot, hwithin⟩ | ⟨part, hpart, h⟩
  · exact .here hroot hwithin
  · have := sizeOf_lt_of_mem_inner hpart
    exact .under hpart (holds_of_mem_walk h)
termination_by sizeOf node

/-- The listing of a node is what the node holds. -/
theorem mem_walk_iff {node : Node} {e : Expr} : e ∈ node.walk ↔ node.Holds e :=
  ⟨holds_of_mem_walk, mem_walk_of_holds⟩

end Node

namespace DecompiledFunction

/-- A function contains what the nodes of its body hold. -/
def Contains (function : DecompiledFunction) (e : Expr) : Prop :=
  ∃ node ∈ function.body, node.Holds e

theorem mem_walk_iff {function : DecompiledFunction} {e : Expr} :
    e ∈ function.walk ↔ function.Contains e := by
  rw [walk, Node.walkEach_eq_flatMap, List.mem_flatMap]
  exact exists_congr fun node => and_congr_right fun _ => Node.mem_walk_iff

/-- The calls of a function are the calls that it contains, at any depth. -/
theorem mem_calls_iff {function : DecompiledFunction} {e : Expr} :
    e ∈ function.calls ↔ function.Contains e ∧ e.isCall = true := by
  rw [calls, List.mem_filter, mem_walk_iff]

end DecompiledFunction
end UefiTyping
