/-!
# Operators on words

Integer literals are words of 128 bits, read as signed. An operator gives a word, or
nothing where the operation is undefined: division by zero, division of the least word
by minus one, and shift counts outside the word. Sums, differences and products wrap;
comparisons and logical operators give zero or one.
-/
namespace UefiTyping

/-- The value of an integer literal: 128 bits, read as signed. -/
abbrev Word := BitVec 128

namespace Word

/-- One for true and zero for false. -/
def ofBool (b : Bool) : Word := if b then 1 else 0

/-- The word as a shift count, if it is one. -/
def shiftCount? (count : Word) : Option Nat :=
  if 0 ≤ count.toInt ∧ count.toInt < 128 then some count.toNat else none

/-- Whether the quotient of two words is defined. -/
def canDivide (left right : Word) : Bool :=
  right != 0 && !(left == BitVec.intMin 128 && right == -1)

end Word

/-- A binary operator. -/
inductive BinaryOp
  | add | sub | mul | div | rem
  | and | or | xor | shl | shr
  | eq | ne | lt | le | gt | ge
  | logicalAnd | logicalOr
deriving DecidableEq, Repr

namespace BinaryOp

/-- The operator as C writes it. -/
def symbol : BinaryOp → String
  | .add => "+"
  | .sub => "-"
  | .mul => "*"
  | .div => "/"
  | .rem => "%"
  | .and => "&"
  | .or => "|"
  | .xor => "^"
  | .shl => "<<"
  | .shr => ">>"
  | .eq => "=="
  | .ne => "!="
  | .lt => "<"
  | .le => "<="
  | .gt => ">"
  | .ge => ">="
  | .logicalAnd => "&&"
  | .logicalOr => "||"

/-- All binary operators. -/
def all : List BinaryOp :=
  [.add, .sub, .mul, .div, .rem, .and, .or, .xor, .shl, .shr, .eq, .ne, .lt, .le, .gt, .ge,
   .logicalAnd, .logicalOr]

/-- The operator of a symbol. -/
def ofSymbol? (symbol : String) : Option BinaryOp := all.find? (·.symbol == symbol)

/-- The value of the operator at two words, where it is defined. -/
def apply (op : BinaryOp) (left right : Word) : Option Word :=
  match op with
  | .add => some (left + right)
  | .sub => some (left - right)
  | .mul => some (left * right)
  | .div => if Word.canDivide left right then some (left.sdiv right) else none
  | .rem => if Word.canDivide left right then some (left.srem right) else none
  | .and => some (left &&& right)
  | .or => some (left ||| right)
  | .xor => some (left ^^^ right)
  | .shl => (Word.shiftCount? right).map fun count => left <<< count
  | .shr => (Word.shiftCount? right).map fun count => left.sshiftRight count
  | .eq => some (.ofBool (left == right))
  | .ne => some (.ofBool (left != right))
  | .lt => some (.ofBool (left.slt right))
  | .le => some (.ofBool (left.sle right))
  | .gt => some (.ofBool (right.slt left))
  | .ge => some (.ofBool (right.sle left))
  | .logicalAnd => some (.ofBool (left != 0 && right != 0))
  | .logicalOr => some (.ofBool (left != 0 || right != 0))

end BinaryOp

/-- A unary operator. -/
inductive UnaryOp
  | neg
  | complement
  | logicalNot
deriving DecidableEq, Repr

namespace UnaryOp

/-- The operator as C writes it. -/
def symbol : UnaryOp → String
  | .neg => "-"
  | .complement => "~"
  | .logicalNot => "!"

/-- The operator of a symbol. -/
def ofSymbol? (symbol : String) : Option UnaryOp :=
  [neg, complement, logicalNot].find? (·.symbol == symbol)

/-- The value of the operator at a word. -/
def apply (op : UnaryOp) (operand : Word) : Word :=
  match op with
  | .neg => -operand
  | .complement => ~~~operand
  | .logicalNot => .ofBool (operand == 0)

end UnaryOp
end UefiTyping
