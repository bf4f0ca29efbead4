import Mathlib.Algebra.Ring.Nat
import UefiTyping.Proofs.Function.Containment

/-!
# Visits in pre-order

A visitor is handed the expressions of a body by a loop over a stack inside each statement, and
by recursion over the nodes around the statements. What it has been handed and the listing of
what is still on the stack make up the listing of the whole at every turn of the loop, so in the
end it has been handed the listing, and whatever it computes it computes along the listing.

The listing has every expression as often as the body has it. The body is counted without regard
to order: an expression by itself and its parts, a node by its own expressions and the nodes
under it.
-/
namespace UefiTyping

variable {σ : Type} {visitor : σ → Expr → σ}

theorem foldl_concat {α : Type} (start items : List α) :
    items.foldl (fun seen item => seen ++ [item]) start = start ++ items := by
  rw [List.foldl_append_eq_append, ← List.flatMap_def, List.flatMap_singleton']

/-! ## Inside an expression -/

namespace Expr

/-- The loop hands on the listings of what is on the stack. -/
theorem visitStack_eq_foldl (state : σ) (stack : List Expr) :
    visitStack visitor state stack = (walkEach stack).foldl visitor state := by
  fun_induction visitStack visitor state stack with
  | case1 state => rfl
  | case2 state e stack ih => rw [ih, walkEach_pop, List.foldl_cons]

theorem visit_eq_foldl (state : σ) (e : Expr) :
    e.visit visitor state = e.walk.foldl visitor state := by
  rw [visit, visitStack_eq_foldl, walkEach, walkEach, List.append_nil]

theorem foldl_visit_eq_foldl (state : σ) (es : List Expr) :
    es.foldl (visit visitor) state = (walkEach es).foldl visitor state := by
  induction es generalizing state with
  | nil => rfl
  | cons e es ih => rw [List.foldl_cons, ih, visit_eq_foldl, walkEach, List.foldl_append]

/-- How many expressions inside an expression pass a test, with the expression itself. -/
def countInside (test : Expr → Bool) (e : Expr) : Nat :=
  (if test e then 1 else 0) + (e.children.attach.map fun part => part.1.countInside test).sum
termination_by sizeOf e
decreasing_by exact sizeOf_lt_of_mem_children part.2

theorem countInside_eq (test : Expr → Bool) (e : Expr) :
    e.countInside test = (if test e then 1 else 0) + (e.children.map (countInside test)).sum := by
  rw [countInside, List.attach_map_val]

/-- The listing of an expression has each one as often as it stands inside. -/
theorem countP_walk (test : Expr → Bool) (e : Expr) :
    e.walk.countP test = e.countInside test := by
  have hparts : e.children.map (List.countP test ∘ walk) = e.children.map (countInside test) := by
    refine List.map_congr_left fun part hpart => ?_
    have := sizeOf_lt_of_mem_children hpart
    exact countP_walk test part
  rw [walk_eq_cons, countInside_eq, List.countP_cons, List.countP_flatMap, Nat.add_comm, hparts]
termination_by sizeOf e

theorem countP_comp_walk (test : Expr → Bool) : List.countP test ∘ walk = countInside test :=
  funext (countP_walk test)

end Expr

/-! ## Inside a body -/

namespace Node

theorem visitOptional_eq_foldl (state : σ) (e : Option Expr) :
    visitOptional visitor state e = (walkOptional e).foldl visitor state := by
  cases e with
  | none => rfl
  | some e => exact e.visit_eq_foldl state

mutual

/-- A node hands on its listing. The cases are those of the recursion. -/
theorem visit_eq_foldl : ∀ (state : σ) (node : Node),
    node.visit visitor state = node.walk.foldl visitor state
  | state, .block _ statements => by
    rw [visit, walk, Expr.foldl_visit_eq_foldl]
  | state, .ifElse condition ifTrue ifFalse => by
    rw [visit, walk, List.foldl_append, List.foldl_append, ← Expr.visit_eq_foldl,
      ← visitEach_eq_foldl _ ifTrue, ← visitEach_eq_foldl _ ifFalse]
  | state, .whileDo condition body => by
    rw [visit, walk, List.foldl_append, ← Expr.visit_eq_foldl, ← visitEach_eq_foldl _ body]
  | state, .doWhile body condition => by
    rw [visit, walk, List.foldl_append, ← visitEach_eq_foldl _ body, ← Expr.visit_eq_foldl]
  | state, .forLoop start condition update body => by
    rw [visit, walk, List.foldl_append, List.foldl_append, List.foldl_append,
      ← visitOptional_eq_foldl, ← Expr.visit_eq_foldl, ← visitEach_eq_foldl _ body,
      ← visitOptional_eq_foldl]
  | state, .loop body => by
    rw [visit, walk, visitEach_eq_foldl _ body]
  | state, .ret value => by
    rw [visit, walk, visitOptional_eq_foldl]
  | state, .switch value cases default => by
    rw [visit, walk, List.foldl_append, List.foldl_append, ← Expr.visit_eq_foldl,
      ← visitCases_eq_foldl _ cases, ← visitEach_eq_foldl _ default]
  | state, .sequence nodes => by
    rw [visit, walk, visitEach_eq_foldl _ nodes]
  | state, .statement e => by
    rw [visit, walk, Expr.visit_eq_foldl]
  | state, .breakLoop | state, .continueLoop | state, .goto _ | state, .label _ => by
    rw [visit, walk, List.foldl_nil]

/-- Nodes hand on their listings one after another. -/
theorem visitEach_eq_foldl : ∀ (state : σ) (nodes : List Node),
    visitEach visitor state nodes = (walkEach nodes).foldl visitor state
  | state, [] => rfl
  | state, node :: nodes => by
    rw [visitEach, walkEach, List.foldl_append, ← visit_eq_foldl _ node,
      ← visitEach_eq_foldl _ nodes]

theorem visitCases_eq_foldl : ∀ (state : σ) (cases : List (SwitchCase Node)),
    visitCases visitor state cases = (walkCases cases).foldl visitor state
  | state, [] => rfl
  | state, ⟨_, body⟩ :: cases => by
    rw [visitCases, walkCases, List.foldl_append, ← visitEach_eq_foldl _ body,
      ← visitCases_eq_foldl _ cases]

end

/-- How many expressions inside a node pass a test. -/
def countInside (test : Expr → Bool) (node : Node) : Nat :=
  (node.expressions.map (Expr.countInside test)).sum +
    (node.inner.attach.map fun part => part.1.countInside test).sum
termination_by sizeOf node
decreasing_by exact sizeOf_lt_of_mem_inner part.2

theorem countInside_eq (test : Expr → Bool) (node : Node) :
    node.countInside test = (node.expressions.map (Expr.countInside test)).sum +
      (node.inner.map (countInside test)).sum := by
  rw [countInside, List.attach_map_val]

theorem countP_walkOptional (test : Expr → Bool) (e : Option Expr) :
    (walkOptional e).countP test = (e.toList.map (Expr.countInside test)).sum := by
  cases e <;> simp [walkOptional, Expr.countP_walk]

/-- One level of the listing. -/
theorem countP_walk_level (test : Expr → Bool) (node : Node) :
    node.walk.countP test = (node.expressions.map (Expr.countInside test)).sum +
      (node.inner.map (List.countP test ∘ walk)).sum := by
  cases node <;>
    simp only [walk, expressions, inner, Expr.walkEach_eq_flatMap, walkEach_eq_flatMap,
      walkCases_eq_flatMap, List.countP_append, List.countP_flatMap, countP_walkOptional,
      Expr.countP_walk, Expr.countP_comp_walk, List.countP_nil, List.map_append, List.map_cons,
      List.map_nil, List.sum_append, List.sum_cons, List.sum_nil]
  all_goals omega

/-- The listing of a node has each expression as often as it stands inside. -/
theorem countP_walk (test : Expr → Bool) (node : Node) :
    node.walk.countP test = node.countInside test := by
  have hparts : node.inner.map (List.countP test ∘ walk) = node.inner.map (countInside test) := by
    refine List.map_congr_left fun part hpart => ?_
    have := sizeOf_lt_of_mem_inner hpart
    exact countP_walk test part
  rw [countP_walk_level, countInside_eq, hparts]
termination_by sizeOf node

theorem countP_walkEach (test : Expr → Bool) (nodes : List Node) :
    (walkEach nodes).countP test = (nodes.map (countInside test)).sum := by
  rw [walkEach_eq_flatMap, List.countP_flatMap]
  exact congrArg _ (List.map_congr_left fun node _ => node.countP_walk test)

/-- The expressions that a visitor is handed, in order. -/
def visited (nodes : List Node) : List Expr := visitEach (fun seen e => seen ++ [e]) [] nodes

/-- A visitor is handed the pre-order listing, in which each expression stands before its parts
and these are in order, and what it computes depends on nothing else. It is handed each
expression as often as the nodes have it: as many as there are, and no call more or fewer times
than it occurs. -/
theorem visited_in_preorder (nodes : List Node) :
    visited nodes = walkEach nodes ∧
      (∀ e : Expr, e.walk = e :: e.children.flatMap Expr.walk) ∧
      (∀ (σ : Type) (visitor : σ → Expr → σ) (state : σ),
        visitEach visitor state nodes = (visited nodes).foldl visitor state) ∧
      (visited nodes).length = (nodes.map (countInside fun _ => true)).sum ∧
      ∀ test, (visited nodes).countP test = (nodes.map (countInside test)).sum := by
  have hvisited : visited nodes = walkEach nodes := by
    rw [visited, visitEach_eq_foldl, foldl_concat, List.nil_append]
  rw [hvisited]
  refine ⟨rfl, Expr.walk_eq_cons, fun σ visitor state => visitEach_eq_foldl state nodes, ?_,
    fun test => countP_walkEach test nodes⟩
  rw [← countP_walkEach, List.countP_true]

-- The condition of a do-while loop comes last, the pointer that a call goes through first.
example :
    let table := Expr.unknown "gBS"
    let service := Expr.field table "LocateProtocol" 0x140
    let call := Expr.callThrough service [.int 0#128] none
    visited [.doWhile [.block 0 [call]] (.int 1#128)] =
      [call, service, table, .int 0#128, .int 1#128] := by
  cbv

end Node

/-- A visitor that keeps the calls it is handed ends with the calls of the function. -/
theorem DecompiledFunction.visit_eq_calls (function : DecompiledFunction) :
    (function.visit (fun calls e => if e.isCall then calls ++ [e] else calls) []) =
      function.calls := by
  rw [visit, Node.visitEach_eq_foldl, ← List.foldl_filter, foldl_concat, calls, walk,
    List.nil_append]

end UefiTyping
