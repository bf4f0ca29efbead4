import UefiTyping.TypeDatabase.Basic

/-!
# Scalars and arrays of scalars

Two rules say whether a type is a scalar, and either one is enough. By its real type,
a type is a scalar when it resolves to an integer, a floating-point number, an
enumeration or `void`. By its declaration, it is one when inline typedefs lead to an
integer, a floating-point number or `void`; the database is not asked.

The rules differ on names and on enumerations.
-/
namespace UefiTyping

/-- The rule that accepted a type as a scalar. -/
inductive ScalarRule
  | realType
  | declaration
deriving DecidableEq, Repr

/-- Whether a type is a scalar, and by which rule. -/
inductive ScalarClass
  | scalar (rule : ScalarRule)
  | notScalar
deriving DecidableEq, Repr

namespace ScalarClass

/-- Whether some rule accepted. -/
def isScalar : ScalarClass → Bool
  | .scalar _ => true
  | .notScalar => false

/-- The first outcome that accepts, if any does. -/
def anyOf (outcomes : List ScalarClass) : ScalarClass :=
  (outcomes.find? isScalar).getD .notScalar

end ScalarClass

namespace TypeDatabase

/-- The class of a type by what it resolves to. -/
def classifyRealType (db : TypeDatabase) (type : CType) : ScalarClass :=
  match db.resolve type with
  | some (.int ..) | some (.float _) | some (.enum _) | some .void => .scalar .realType
  | _ => .notScalar

/-- The class of a type by its declaration alone. -/
def classifyDeclaration : CType → ScalarClass
  | .int .. | .float _ | .void => .scalar .declaration
  | .synonym _ target => classifyDeclaration target
  | _ => .notScalar

/-- The class of a type by either rule. -/
def classify (db : TypeDatabase) (type : CType) : ScalarClass :=
  .anyOf [db.classifyRealType type, classifyDeclaration type]

/-- Whether a type is a scalar behind at most the given number of pointers. -/
def isScalarBehind (db : TypeDatabase) (pointers : Nat) (type : CType) : Bool :=
  if (db.classify type).isScalar then true
  else match pointers, db.resolve type with
    | pointers + 1, some (.pointer target) => db.isScalarBehind pointers target
    | _, _ => false

/-- Whether a type is an array whose elements are scalars behind at most the given
number of pointers. -/
def isPodArray (db : TypeDatabase) (type : CType) (pointers : Nat) : Bool :=
  match db.resolve type with
  | some (.array element _) => db.isScalarBehind pointers element
  | _ => false

end TypeDatabase
end UefiTyping
