import UefiTyping.CType.Text
import UefiTyping.TypeDatabase.Basic

/-!
# Offsets of fields

Where a named field sits inside the struct or union that a type resolves to. A struct
stores offsets in bits; the answer counts whole bytes and has 32 bits. All members of a
union sit at its start.
-/
namespace UefiTyping

/-- Why a field has no offset. -/
inductive LayoutError
  /-- The type resolves to neither a struct nor a union. -/
  | noLayout (type : String)
  /-- The struct or union has no field of that name. -/
  | fieldNotFound (type field : String)
deriving DecidableEq, Repr

/-- The text of a layout error. -/
def LayoutError.message : LayoutError → String
  | .noLayout type => "could not retrieve member layout for " ++ type
  | .fieldNotFound type field => "could not find member " ++ type ++ "::" ++ field

namespace TypeDatabase

/-- The offset of a field of a type in bytes. -/
def fieldOffset (db : TypeDatabase) (type : CType) (field : String) :
    Except LayoutError UInt32 :=
  match db.resolve type with
  | some (.struct layout) =>
    match layout.field? field with
    | some found => .ok (UInt32.ofNat found.byteOffset)
    | none => .error (.fieldNotFound type.label field)
  | some (.union layout) =>
    if layout.members.any (·.name == field) then .ok 0
    else .error (.fieldNotFound type.label field)
  | _ => .error (.noLayout type.label)

/-- The offset of a field of the type registered under a name. -/
def offsetIn (db : TypeDatabase) (typeName field : String) : Except LayoutError UInt32 :=
  db.fieldOffset (.named typeName) field

end TypeDatabase
end UefiTyping
