/-!
# C types

A C type is a plain value: deriving a pointer or an array from a type builds a new
value and leaves the old one alone. A name stands for whatever a type database
registers under it; everything else a type needs it carries inline.

Sizes and alignments are counted in bytes and offsets of fields in bits. The sizes
that a struct, union or enum records are taken as they are, not recomputed.
-/
namespace UefiTyping

/-! ## Parts of a type -/

/-- A field of a struct. -/
structure Field (τ : Type) where
  name : String
  type : τ
  /-- Offset from the start of the struct, in bits. -/
  offsetBits : Nat
deriving DecidableEq, Repr

/-- A struct: its tag, its fields in declaration order and its layout. -/
structure StructType (τ : Type) where
  tag : Option String
  fields : List (Field τ)
  /-- Total size, padding included. -/
  size : Nat
  alignment : Nat
  /-- Whether fields follow one another without padding. -/
  packed : Bool
deriving DecidableEq, Repr

/-- A name declared with a type: a member of a union or a parameter of a function. -/
structure Declared (τ : Type) where
  name : String
  type : τ
deriving DecidableEq, Repr

/-- A union: its tag, its members and its layout. -/
structure UnionType (τ : Type) where
  tag : Option String
  members : List (Declared τ)
  size : Nat
  alignment : Nat
deriving DecidableEq, Repr

/-- An enumeration: its tag, its enumerators and the size of the integer behind it. -/
structure EnumType where
  tag : Option String
  values : List (String × Int)
  underlyingSize : Nat
deriving DecidableEq, Repr

/-- A function type, which only ever stands behind a pointer. -/
structure Signature (τ : Type) where
  result : τ
  params : List (Declared τ)
deriving DecidableEq, Repr

/-! ## Types -/

/-- A C type. -/
inductive CType
  | void
  | int (size : Nat) (signed : Bool)
  | float (size : Nat)
  | pointer (target : CType)
  /-- An array; without a length it is incomplete. -/
  | array (element : CType) (length : Option Nat)
  | struct (layout : StructType CType)
  | union (layout : UnionType CType)
  | enum (layout : EnumType)
  | function (signature : Signature CType)
  /-- A typedef: another name, which carries its target. -/
  | synonym (name : String) (target : CType)
  /-- A name that a type database resolves. -/
  | named (name : String)
deriving Repr, Inhabited

namespace CType

/-! ## Common types -/

/-- Signed integer of one byte. -/
def char : CType := .int 1 true
/-- Unsigned integer of one byte. -/
def uchar : CType := .int 1 false
/-- Signed integer of two bytes. -/
def short : CType := .int 2 true
/-- Unsigned integer of two bytes. -/
def ushort : CType := .int 2 false
/-- Signed integer of four bytes. -/
def sint : CType := .int 4 true
/-- Unsigned integer of four bytes. -/
def uint : CType := .int 4 false
/-- Signed integer of eight bytes. -/
def longLong : CType := .int 8 true
/-- Unsigned integer of eight bytes. -/
def ulongLong : CType := .int 8 false
/-- Floating-point number of eight bytes. -/
def double : CType := .float 8
/-- Pointer to anything. -/
def voidPointer : CType := .pointer .void

/-! ## Shape

None of these looks through a typedef or a name. -/

/-- Whether the type is `void`. -/
def isVoid : CType → Bool
  | .void => true
  | _ => false

/-- Whether the type is an integer. -/
def isInteger : CType → Bool
  | .int .. => true
  | _ => false

/-- Whether the type is a floating-point number. -/
def isFloat : CType → Bool
  | .float _ => true
  | _ => false

/-- Whether the type is a pointer. -/
def isPointer : CType → Bool
  | .pointer _ => true
  | _ => false

/-- Whether the type is an array. -/
def isArray : CType → Bool
  | .array .. => true
  | _ => false

/-- Whether the type is a struct. -/
def isStruct : CType → Bool
  | .struct _ => true
  | _ => false

/-- What a pointer points to. -/
def target? : CType → Option CType
  | .pointer target => some target
  | _ => none

/-- The element and the length of an array. -/
def arrayParts? : CType → Option (CType × Option Nat)
  | .array element length => some (element, length)
  | _ => none

/-- The name that a type goes by, if it has one. -/
def name? : CType → Option String
  | .struct layout => layout.tag
  | .union layout => layout.tag
  | .enum layout => layout.tag
  | .synonym name _ => some name
  | .named name => some name
  | _ => none

/-- The type behind the given number of pointers. -/
def withPointers (type : CType) : Nat → CType
  | 0 => type
  | depth + 1 => .pointer (type.withPointers depth)

/-- One pointer may as well be added first. -/
theorem withPointers_pointer (type : CType) (depth : Nat) :
    type.pointer.withPointers depth = (type.withPointers depth).pointer := by
  induction depth with
  | zero => rfl
  | succ depth ih => rw [withPointers, ih, withPointers]

end CType
end UefiTyping
