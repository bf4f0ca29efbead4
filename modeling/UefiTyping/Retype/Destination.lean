import UefiTyping.Expr.Text
import UefiTyping.Function.Basic
import UefiTyping.TypeDatabase.Scalar

/-!
# Destinations

A service writes the interface pointer where one of its arguments points. The shape of
that argument, together with the declared type of the local it names, says whether and
how the local can be retyped.
-/
namespace UefiTyping

/-- How an argument names the destination of an interface pointer. -/
inductive Destination
  /-- The address of a local that holds one pointer. -/
  | pointerSlot (name : String)
  /-- A local array of scalars behind pointers, or its address. -/
  | podArray (name : String) (length : Option Nat)
  /-- The address of a local that holds one pointer, under a cast. -/
  | pointerToPointer (name : String)
  /-- Anything else, by its text. -/
  | unsupported (argument : String)
deriving DecidableEq, Repr

namespace Destination

/-- Whether a type is storage for one pointer: it resolves to a pointer, or is a scalar
of the size of one. -/
def holdsPointer (db : TypeDatabase) (type : CType) : Bool :=
  match db.resolve type with
  | some (.pointer _) => true
  | some concrete => (db.classify type).isScalar && db.sizeOf concrete == some db.pointerSize
  | none => false

/-- The variable that an argument without casts names, and whether it names it by its
address. -/
def named? : Expr → Option (Variable × Bool)
  | .addressOf inner =>
    match inner.stripCasts with
    | .var place => some (place, true)
    | _ => none
  | .var place => some (place, false)
  | _ => none

/-- Whether an expression is a cast. -/
def isCast : Expr → Bool
  | .cast .. => true
  | _ => false

/-- The shape of a destination at a local, given whether the argument names it by its
address and whether there is a cast on it. -/
def ofLocal? (db : TypeDatabase) (depth : Nat) (place : LocalVariable) (byAddress cast : Bool) :
    Option Destination :=
  if db.isPodArray place.type depth then
    some (.podArray place.name
      ((db.resolve place.type).bind CType.arrayParts? |>.bind fun parts => parts.2))
  else if byAddress && holdsPointer db place.type then
    some (if cast then .pointerToPointer place.name else .pointerSlot place.name)
  else none

/-- The shape of an interface argument. `depth` bounds the pointers on the elements of an
array destination. -/
def classify (db : TypeDatabase) (function : DecompiledFunction) (depth : Nat) (argument : Expr) :
    Destination :=
  let shape? := do
    let (place, byAddress) ← named? argument.stripCasts
    ofLocal? db depth (← function.localFor? place) byAddress (isCast argument)
  shape?.getD (.unsupported argument.text)

/-- The local to retype and its new type, for an interface type: a slot becomes a pointer
to it, and an array keeps its length with elements that are pointers to it, `depth`
levels deep. -/
def retyped? (db : TypeDatabase) (interface : String) (depth : Nat) :
    Destination → Option (String × CType)
  | .pointerSlot name | .pointerToPointer name => some (name, db.pointerTo (.named interface))
  | .podArray name length =>
    some (name, db.arrayOf ((CType.named interface).withPointers depth) length)
  | .unsupported _ => none

end Destination
end UefiTyping
