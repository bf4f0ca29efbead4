import UefiTyping.Expr.Basic

/-!
# Constant addresses

The address in the image that an expression denotes whatever the program does at run
time: the address of a global, a reference that takes the address of data, a literal,
and sums and differences of these. Casts change nothing. Sums and differences wrap at
64 bits, and a literal counts only if it fits in 64 bits without a sign.
-/
namespace UefiTyping.Expr

/-- The constant address of the object that an expression names: a global, or data that
a reference loads. -/
def objectAddress : Expr → Option UInt64
  | .cast inner _ => inner.objectAddress
  | .var ⟨.global address, _, _⟩ => some address
  | .data reference _ => if reference.isLoad then some reference.address else none
  | _ => none

/-- The constant address that an expression denotes. -/
def constantAddress : Expr → Option UInt64
  | .cast inner _ => inner.constantAddress
  | .addressOf inner => inner.objectAddress
  | .data reference _ => if reference.isLoad then none else some reference.address
  | .int value => if value.toNat < UInt64.size then some (UInt64.ofNat value.toNat) else none
  | .binary op left right => do
    let left ← left.constantAddress
    let right ← right.constantAddress
    match op with
    | .add => some (left + right)
    | .sub => some (left - right)
    | _ => none
  | _ => none

end UefiTyping.Expr
