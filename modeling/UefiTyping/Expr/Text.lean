import UefiTyping.CType.Text
import UefiTyping.Expr.Basic

/-!
# C-like text of an expression

Operators are written without parentheses of their own, as the host shows them. A
literal below ten is decimal and any other is hexadecimal with its sign in front.
-/
namespace UefiTyping

/-- The text of a literal. -/
def Word.text (value : Word) : String :=
  if value.toInt < 0 then "-" ++ Hex.marked value.toInt.natAbs
  else if value.toInt < 10 then toString value.toInt
  else Hex.marked value.toInt.natAbs

/-- The function that a direct call names; one without a name is named by its entry. -/
def Callee.text : Callee → String
  | .entry address => "sub_" ++ Hex.numeral address.toNat
  | .named name => name

/-- What is written before the address of a load of a size. -/
def loadMark (size : UInt8) : String :=
  if size = 1 then "*(uint8_t*)"
  else if size = 2 then "*(uint16_t*)"
  else if size = 4 then "*(uint32_t*)"
  else if size = 8 then "*(uint64_t*)"
  else "*"

namespace Expr

mutual

/-- The text of an expression. -/
def text : Expr → String
  | .var place => place.name
  | .int value => value.text
  | .binary op left right => left.text ++ " " ++ op.symbol ++ " " ++ right.text
  | .unary op operand => op.symbol ++ operand.text
  | .deref address size => loadMark size ++ "(" ++ address.text ++ ")"
  | .data reference shown =>
    if reference.isLoad then loadMark reference.size ++ "(" ++ shown.text ++ ")" else shown.text
  | .addressOf inner => "&" ++ inner.text
  | .field base name _ => base.text ++ "->" ++ name
  | .call callee args _ => callee.text ++ "(" ++ ", ".intercalate (texts args) ++ ")"
  | .callThrough target args _ =>
    "(" ++ target.text ++ ")" ++ "(" ++ ", ".intercalate (texts args) ++ ")"
  | .assign left right => left.text ++ " = " ++ right.text
  | .conditional condition ifTrue ifFalse =>
    condition.text ++ " ? " ++ ifTrue.text ++ " : " ++ ifFalse.text
  | .cast inner type => "(" ++ type.declare none ++ ")" ++ inner.text
  | .unknown text => text

/-- The texts of expressions, one by one. -/
def texts : List Expr → List String
  | [] => []
  | e :: es => e.text :: texts es

end

instance : ToString Expr := ⟨text⟩

end Expr
end UefiTyping
