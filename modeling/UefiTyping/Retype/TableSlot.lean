import UefiTyping.Expr.Address
import UefiTyping.Function.Basic
import UefiTyping.Service.Table

/-!
# Loads from a service table

A call through a service table loads a function pointer from the table: `base->Field`, or
`*(base + offset)` with a literal offset on either side of the sum. The slot of such a
load is the base and the offset. A load from a base that is itself a constant address is
not one from a table.
-/
namespace UefiTyping

/-- Where a function pointer is loaded from. -/
structure TableSlot where
  base : Expr
  /-- Offset in bytes. -/
  offset : UInt64
deriving Repr

namespace TableSlot

/-- The base and the literal offset that an address is the sum of. An address that is no
sum is a base at offset zero. -/
def splitAddress? : Expr → Option (Expr × Word)
  | .binary .add left right =>
    match left.stripCasts, right.stripCasts with
    | base, .int offset => some (base, offset)
    | .int offset, base => some (base, offset)
    | _, _ => none
  | base => some (base, 0)

/-- The slot that a call target is loaded from. -/
def ofTarget? (target : Expr) : Option TableSlot :=
  match target.stripCasts with
  | .field base _ offset => some ⟨base, offset⟩
  | .deref address _ => do
    let (base, offset) ← splitAddress? address.stripCasts
    if base.constantAddress.isNone ∧ offset.toNat < UInt64.size then
      some ⟨base, UInt64.ofNat offset.toNat⟩
    else none
  | _ => none

/-- The descriptor of the service in the slot. -/
def service? (slot : TableSlot) (table : ServiceTable) : Option CallDescriptor :=
  if slot.offset.toNat < UInt32.size then table.findByOffset? slot.offset.toUInt32 else none

/-- The type that the base is declared with: that of a cast on it, or that of the local it
is. -/
def baseType? (slot : TableSlot) (function : DecompiledFunction) : Option CType :=
  match slot.base with
  | .cast _ type => some type
  | .var place => (function.localFor? place).map (·.type)
  | _ => none

/-- Whether the base may point to the table. Only a base declared as a pointer to a struct
of another name is ruled out. -/
def mayBe (slot : TableSlot) (db : TypeDatabase) (function : DecompiledFunction)
    (table : ServiceTable) : Bool :=
  match (slot.baseType? function).bind db.resolve with
  | some (.pointer target) =>
    match db.resolve target with
    | some (.struct layout) => layout.tag == some table.name || target.name? == some table.name
    | _ => true
  | _ => true

end TableSlot
end UefiTyping
