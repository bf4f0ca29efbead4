import UefiTyping.CType.Basic
import UefiTyping.Expr.Operator
import UefiTyping.Expr.Variable

/-!
# Expressions of decompiled code

A host decompiler hands over expressions; they are modelled here as trees. A call goes
to a function that is known by address or name, or through an expression that computes
the function pointer.
-/
namespace UefiTyping

/-- A reference to data at an address computed from the instruction pointer. -/
structure DataReference where
  /-- The absolute address referred to. -/
  address : UInt64
  /-- The instruction that makes the reference. -/
  instruction : UInt64
  /-- How many bytes are loaded; zero when none are. -/
  size : UInt8
  /-- Whether the data is loaded, or only its address taken. -/
  isLoad : Bool
deriving DecidableEq, Repr

/-- The function that a direct call goes to. -/
inductive Callee
  | entry (address : UInt64)
  | named (name : String)
deriving DecidableEq, Repr

/-- An expression. -/
inductive Expr
  | var (place : Variable)
  | int (value : Word)
  | binary (op : BinaryOp) (left right : Expr)
  | unary (op : UnaryOp) (operand : Expr)
  /-- The bytes at an address. -/
  | deref (address : Expr) (size : UInt8)
  /-- A reference to data, with the expression that shows it. -/
  | data (reference : DataReference) (shown : Expr)
  | addressOf (inner : Expr)
  /-- A field loaded through a pointer, with its offset in bytes. -/
  | field (base : Expr) (name : String) (offset : UInt64)
  /-- A direct call, with the address of the call instruction if it is known. -/
  | call (callee : Callee) (args : List Expr) (site : Option UInt64)
  /-- A call through a function pointer. -/
  | callThrough (target : Expr) (args : List Expr) (site : Option UInt64)
  | assign (left right : Expr)
  | conditional (condition ifTrue ifFalse : Expr)
  | cast (inner : Expr) (type : CType)
  /-- Anything that was not understood, as text. -/
  | unknown (text : String)
deriving Repr, Inhabited

namespace Expr

/-- A reference that takes the address of data. -/
def dataAddress (address instruction : UInt64) (shown : Expr) : Expr :=
  .data ⟨address, instruction, 0, false⟩ shown

/-- A reference that loads data. -/
def dataLoad (address instruction : UInt64) (size : UInt8) (shown : Expr) : Expr :=
  .data ⟨address, instruction, size, true⟩ shown

/-- The expression under any number of casts. -/
def stripCasts : Expr → Expr
  | .cast inner _ => inner.stripCasts
  | e => e

/-- The direct parts of an expression, in the order of evaluation. The pointer that a
call goes through comes before its arguments. -/
def children : Expr → List Expr
  | .var _ | .int _ | .unknown _ => []
  | .binary _ left right => [left, right]
  | .unary _ operand => [operand]
  | .deref address _ => [address]
  | .data _ shown => [shown]
  | .addressOf inner => [inner]
  | .field base _ _ => [base]
  | .call _ args _ => args
  | .callThrough target args _ => target :: args
  | .assign left right => [left, right]
  | .conditional condition ifTrue ifFalse => [condition, ifTrue, ifFalse]
  | .cast inner _ => [inner]

/-- Whether an expression is a call. -/
def isCall : Expr → Bool
  | .call .. | .callThrough .. => true
  | _ => false

end Expr
end UefiTyping
