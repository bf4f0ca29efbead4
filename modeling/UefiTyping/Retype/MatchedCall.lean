import UefiTyping.Retype.TableSlot

/-!
# Matched calls

A call is matched when it goes through a slot of a service table for which the table has
a descriptor. The descriptor then tells which of its arguments are the GUID and the place
for the interface. The descriptors of a table are well formed, so the only thing that can
be wrong with the arguments of a call of its services is their number.
-/
namespace UefiTyping

/-- Why the two arguments of a matched call cannot be told. -/
inductive ArgumentFault
  /-- The service takes another number of arguments. -/
  | wrongCount
  /-- The descriptor points behind the arguments that it asks for. None of a table does. -/
  | misplaced (role : ArgumentRole)
deriving DecidableEq, Repr

/-- The two arguments of a service call that matter here. -/
structure ServiceArguments where
  guid : Expr
  interface : Expr
deriving Repr

/-- A call of a service of a table. -/
structure MatchedCall where
  service : CallDescriptor
  /-- Address of the call, or of the usage record at hand if the call has none. -/
  site : UInt64
  args : List Expr
deriving Repr

namespace MatchedCall

/-- The service call that an expression is. `recordAddress` stands in for an address that
the call does not have. -/
def ofCall? (db : TypeDatabase) (function : DecompiledFunction) (table : ServiceTable)
    (recordAddress : UInt64) : Expr → Option MatchedCall
  | .callThrough target args address => do
    let slot ← TableSlot.ofTarget? target
    let service ← slot.service? table
    if slot.mayBe db function table then some ⟨service, address.getD recordAddress, args⟩ else none
  | _ => none

/-- The two arguments of the call. -/
def arguments (call : MatchedCall) : Except ArgumentFault ServiceArguments :=
  if call.args.length ≠ call.service.argCount then .error .wrongCount
  else
    match call.args[call.service.guidIndex]?, call.args[call.service.interfaceIndex]? with
    | none, _ => .error (.misplaced .guid)
    | _, none => .error (.misplaced .interface)
    | some guid, some interface => .ok ⟨guid, interface⟩

end MatchedCall
end UefiTyping
