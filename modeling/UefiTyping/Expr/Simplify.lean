import UefiTyping.Expr.Basic

/-!
# Simplification

Expressions are rebuilt from the leaves up through two smart constructors, one for
binary and one for unary operators. They fold literals by the operator's own value and
drop operands that do not matter: `x + 0`, `x * 1`, `x * 0`, `x - x`, and two equal
signs in a row. A logical not is never dropped, for `!!x` is zero or one.

The pointer of a call through a pointer, references to data and conditionals are kept
as they are.
-/
namespace UefiTyping.Expr

/-- Whether an expression is the literal of a value. -/
def isLiteral (value : Word) : Expr → Bool
  | .int found => found == value
  | _ => false

/-- Whether two expressions are the same tree of variables, literals, binary operators
and loads. No other expression counts as the same as any, not even as itself. -/
def sameTree : Expr → Expr → Bool
  | .var a, .var b => a == b
  | .int a, .int b => a == b
  | .binary op a b, .binary op' a' b' => op == op' && a.sameTree a' && b.sameTree b'
  | .deref a size, .deref a' size' => size == size' && a.sameTree a'
  | _, _ => false

/-! ## Smart constructors -/

/-- The value of an operator between two literals, where it is defined. -/
def foldLiterals? (op : BinaryOp) : Expr → Expr → Option Word
  | .int left, .int right => op.apply left right
  | _, _ => none

/-- What an operator comes to when one operand decides it. -/
def reduce? (op : BinaryOp) (left right : Expr) : Option Expr :=
  match op with
  | .add | .or | .xor =>
    if right.isLiteral 0 then some left else if left.isLiteral 0 then some right else none
  | .sub =>
    if right.isLiteral 0 then some left
    else if left.sameTree right then some (.int 0) else none
  | .shl | .shr => if right.isLiteral 0 then some left else none
  | .mul =>
    if right.isLiteral 0 || left.isLiteral 0 then some (.int 0)
    else if right.isLiteral 1 then some left
    else if left.isLiteral 1 then some right else none
  | .div => if right.isLiteral 1 then some left else none
  | .and => if right.isLiteral 0 || left.isLiteral 0 then some (.int 0) else none
  | _ => none

/-- A binary operator between simplified operands. -/
def mkBinary (op : BinaryOp) (left right : Expr) : Expr :=
  match foldLiterals? op left right with
  | some value => .int value
  | none => (reduce? op left right).getD (.binary op left right)

/-- A unary operator before a simplified operand. -/
def mkUnary (op : UnaryOp) : Expr → Expr
  | .int value => .int (op.apply value)
  | .unary inner operand =>
    if inner = op ∧ op ≠ .logicalNot then operand else .unary op (.unary inner operand)
  | operand => .unary op operand

/-! ## Simplification -/

mutual

/-- The expression rebuilt from its simplified parts. -/
def simplify : Expr → Expr
  | .binary op left right => mkBinary op left.simplify right.simplify
  | .unary op operand => mkUnary op operand.simplify
  | .assign left right => .assign left.simplify right.simplify
  | .deref address size => .deref address.simplify size
  | .addressOf inner => .addressOf inner.simplify
  | .cast inner type => .cast inner.simplify type
  | .field base name offset => .field base.simplify name offset
  | .call callee args site => .call callee (simplifyEach args) site
  | .callThrough target args site => .callThrough target (simplifyEach args) site
  | e@(.var _) | e@(.int _) | e@(.data ..) | e@(.conditional ..) | e@(.unknown _) => e

/-- Simplifies expressions one by one. -/
def simplifyEach : List Expr → List Expr
  | [] => []
  | e :: es => e.simplify :: simplifyEach es

end

end UefiTyping.Expr
