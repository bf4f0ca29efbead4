import UefiTyping.Expr.Basic

/-!
# Walking an expression

The pre-order listing of an expression: the expression itself, then the listings of its
parts in the order of `children`.

A visitor is handed the expressions one at a time. That is a loop over a stack of the
expressions still to be visited, each of which leaves its parts there.
-/
namespace UefiTyping.Expr

mutual

/-- Every expression inside an expression, itself first. -/
def walk : Expr → List Expr
  | e@(.var _) | e@(.int _) | e@(.unknown _) => [e]
  | e@(.binary _ left right) => e :: (left.walk ++ right.walk)
  | e@(.unary _ operand) => e :: operand.walk
  | e@(.deref address _) => e :: address.walk
  | e@(.data _ shown) => e :: shown.walk
  | e@(.addressOf inner) => e :: inner.walk
  | e@(.field base _ _) => e :: base.walk
  | e@(.call _ args _) => e :: walkEach args
  | e@(.callThrough target args _) => e :: (target.walk ++ walkEach args)
  | e@(.assign left right) => e :: (left.walk ++ right.walk)
  | e@(.conditional condition ifTrue ifFalse) =>
    e :: (condition.walk ++ (ifTrue.walk ++ ifFalse.walk))
  | e@(.cast inner _) => e :: inner.walk

/-- The listings of expressions, one after another. -/
def walkEach : List Expr → List Expr
  | [] => []
  | e :: es => e.walk ++ walkEach es

end

theorem walkEach_eq_flatMap (es : List Expr) : walkEach es = es.flatMap walk := by
  induction es with
  | nil => rfl
  | cons e es ih => rw [walkEach, ih, List.flatMap_cons]

/-- The listing of an expression is the expression and then the listings of its parts. -/
theorem walk_eq_cons (e : Expr) : e.walk = e :: e.children.flatMap walk := by
  cases e <;> simp [walk, children, walkEach_eq_flatMap]

/-! ## Visiting -/

/-- The stack with expressions put on it, one after another. -/
def push (stack es : List Expr) : List Expr := es.foldl (fun stack e => e :: stack) stack

/-- What goes on in reverse order stands on the stack in order. -/
theorem push_reverse (stack es : List Expr) : push stack es.reverse = es ++ stack := by
  simp [push]

/-- The expression that comes off the stack stands for itself and for what it leaves there. -/
theorem walkEach_pop (e : Expr) (stack : List Expr) :
    walkEach (e :: stack) = e :: walkEach (push stack e.children.reverse) := by
  rw [push_reverse, walkEach, walk_eq_cons, walkEach_eq_flatMap, walkEach_eq_flatMap,
    List.flatMap_append, List.cons_append]

/-- Hands the expressions on a stack to a visitor, the top one first. The parts of each go on
the stack in its place, the last one first, so that the first is visited next. -/
def visitStack {σ : Type} (visitor : σ → Expr → σ) (state : σ) : List Expr → σ
  | [] => state
  | e :: stack => visitStack visitor (visitor state e) (push stack e.children.reverse)
termination_by stack => (walkEach stack).length
decreasing_by
  rw [walkEach_pop]
  exact Nat.lt_succ_self _

/-- Hands every expression inside an expression to a visitor. -/
def visit {σ : Type} (visitor : σ → Expr → σ) (state : σ) (e : Expr) : σ :=
  visitStack visitor state [e]

end UefiTyping.Expr
