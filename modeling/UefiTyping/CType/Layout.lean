import UefiTyping.CType.Basic

/-!
# Size and layout of a type on its own

The size and alignment that a type has without any database: pointers are eight
bytes and a name has neither. A struct is laid out field by field, each at the next
multiple of its alignment unless the struct is packed, and finished by padding its
size to its own alignment. A union has the largest size and the largest alignment
among its members.

Sizes are natural numbers and do not wrap around. Words of 64 bits come to the same as long
as they hold the numbers.
-/
namespace UefiTyping

namespace CType

/-- The size of the type in bytes, if it is complete by itself. -/
def size : CType → Option Nat
  | .int size _ => some size
  | .float size => some size
  | .pointer _ => some 8
  | .array element length => do return (← element.size) * (← length)
  | .struct layout => some layout.size
  | .union layout => some layout.size
  | .enum layout => some layout.underlyingSize
  | .synonym _ target => target.size
  | .void | .function _ | .named _ => none

/-- The alignment of the type in bytes, if it has one by itself. -/
def alignment : CType → Option Nat
  | .int size _ => some (min size 8)
  | .float size => some (min size 8)
  | .pointer _ => some 8
  | .array element _ => element.alignment
  | .struct layout => some layout.alignment
  | .union layout => some layout.alignment
  | .enum layout => some (min layout.underlyingSize 8)
  | .synonym _ target => target.alignment
  | .void | .function _ | .named _ => none

end CType

/-- The number with its low bits cleared, those that are set in `mask`. -/
def clearBits (n mask : Nat) : Nat := n - (n &&& mask)

/-- The least multiple of `alignment` from `n` on, for an alignment that is a power
of two. For any other positive alignment the bits of `alignment - 1` are cleared in
the same way, whatever that gives. -/
def alignUp (n alignment : Nat) : Nat := clearBits (n + (alignment - 1)) (alignment - 1)

@[simp] theorem alignUp_one (n : Nat) : alignUp n 1 = n := by simp [alignUp, clearBits]

namespace StructType

variable {τ : Type}

/-- A struct without fields. -/
def empty (tag : Option String) : StructType τ := ⟨tag, [], 0, 1, false⟩

/-- Where the next field of the given alignment goes, in bytes. -/
def nextOffset (layout : StructType τ) (alignment : Nat) : Nat :=
  if layout.packed then layout.size else alignUp layout.size alignment

/-- Adds a field of known size and alignment; an alignment of zero counts as one. -/
def addSized (layout : StructType τ) (name : String) (type : τ) (size alignment : Nat) :
    StructType τ :=
  let alignment := max alignment 1
  let offset := layout.nextOffset alignment
  { layout with
    fields := layout.fields ++ [⟨name, type, 8 * offset⟩]
    size := offset + size
    alignment := max layout.alignment alignment }

/-- Adds a field of the size and alignment its type has by itself; a type without them
takes no room and aligns to one. -/
def add (layout : StructType CType) (name : String) (type : CType) : StructType CType :=
  layout.addSized name type (type.size.getD 0) (type.alignment.getD 1)

/-- Places a field at an explicit bit offset, as debug information gives it. The struct
grows to hold it and keeps its alignment. -/
def addAtBits (layout : StructType CType) (name : String) (type : CType) (offsetBits : Nat) :
    StructType CType :=
  { layout with
    fields := layout.fields ++ [⟨name, type, offsetBits⟩]
    size := max layout.size ((offsetBits + 7) / 8 + type.size.getD 0) }

/-- Adds the padding behind the last field. -/
def finish (layout : StructType τ) : StructType τ :=
  if layout.packed = false ∧ 1 < layout.alignment then
    { layout with size := alignUp layout.size layout.alignment }
  else layout

/-- The first field of that name. -/
def field? (layout : StructType τ) (name : String) : Option (Field τ) :=
  layout.fields.find? (·.name == name)

end StructType

/-- The offset of a field in whole bytes. -/
def Field.byteOffset {τ : Type} (field : Field τ) : Nat := field.offsetBits / 8

namespace UnionType

/-- A union without members. -/
def empty (tag : Option String) : UnionType CType := ⟨tag, [], 0, 1⟩

/-- Adds a member, which widens the union to its own size and alignment. -/
def add (layout : UnionType CType) (name : String) (type : CType) : UnionType CType :=
  { layout with
    members := layout.members ++ [⟨name, type⟩]
    size := max layout.size (type.size.getD 0)
    alignment := max layout.alignment (type.alignment.getD 1) }

end UnionType

namespace EnumType

/-- An enumeration without enumerators, of four bytes. -/
def empty (tag : Option String) : EnumType := ⟨tag, [], 4⟩

/-- Adds an enumerator. A value outside 32 bits makes the enumeration eight bytes wide
for good. -/
def add (layout : EnumType) (name : String) (value : Int) : EnumType :=
  { layout with
    values := layout.values ++ [(name, value)]
    underlyingSize :=
      if value < Int32.minValue.toInt ∨ Int32.maxValue.toInt < value then 8
      else layout.underlyingSize }

end EnumType

/-- The function type with one more parameter. -/
def Signature.addParam {τ : Type} (signature : Signature τ) (name : String) (type : τ) :
    Signature τ :=
  { signature with params := signature.params ++ [⟨name, type⟩] }

end UefiTyping
