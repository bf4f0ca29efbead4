import UefiTyping.CType.Basic
import UefiTyping.Json.Decode

/-!
# C types as JSON documents

`void` is written by its name. Every other type is an object with one member, whose
key is the kind of type. Reading is done one layer of types at a time: `layer` reads
the outermost type and takes the decoder for the types inside as a parameter. A layer
with types inside opens at least one level of the document, so as many layers as levels
are enough.
-/
namespace UefiTyping.CType

open Json (Decoder)

/-! ## Writing -/

mutual

/-- The document of a type. -/
def toJson : CType → Json
  | .void => .ofText "void"
  | .int size signed =>
    .ofVariant "int" (.ofFields [("size", .ofNat size), ("signed", .bool signed)])
  | .float size => .ofVariant "float" (.ofFields [("size", .ofNat size)])
  | .pointer target => .ofVariant "pointer" target.toJson
  | .array element length =>
    .ofVariant "array"
      (.ofFields [("element", element.toJson), ("length", .ofOption .ofNat length)])
  | .struct ⟨tag, fields, size, alignment, packed⟩ =>
    .ofVariant "struct" (.ofFields
      [("name", .ofOption .ofText tag), ("fields", .array (fieldsToJson fields)),
       ("size", .ofNat size), ("alignment", .ofNat alignment), ("packed", .bool packed)])
  | .union ⟨tag, members, size, alignment⟩ =>
    .ofVariant "union" (.ofFields
      [("name", .ofOption .ofText tag),
       ("members", .array (declaredToJson "member_type" members)),
       ("size", .ofNat size), ("alignment", .ofNat alignment)])
  | .enum ⟨tag, values, underlyingSize⟩ =>
    .ofVariant "enum" (.ofFields
      [("name", .ofOption .ofText tag),
       ("values", .array (values.map fun value => .array [.ofText value.1, .ofInt value.2])),
       ("underlying_size", .ofNat underlyingSize)])
  | .function ⟨result, params⟩ =>
    .ofVariant "function" (.ofFields
      [("return_type", result.toJson),
       ("parameters", .array (declaredToJson "param_type" params))])
  | .synonym name target =>
    .ofVariant "typedef" (.ofFields [("name", .ofText name), ("target", target.toJson)])
  | .named name => .ofVariant "named" (.ofText name)

/-- The documents of the fields of a struct. -/
def fieldsToJson : List (Field CType) → List Json
  | [] => []
  | ⟨name, type, offsetBits⟩ :: fields =>
    .ofFields [("name", .ofText name), ("field_type", type.toJson),
      ("offset_bits", .ofNat offsetBits)] :: fieldsToJson fields

/-- The documents of declared names, with their types under the given key. -/
def declaredToJson (key : String) : List (Declared CType) → List Json
  | [] => []
  | ⟨name, type⟩ :: declared =>
    .ofFields [("name", .ofText name), (key, type.toJson)] :: declaredToJson key declared

end

/-! ## Reading -/

/-- A size, alignment or offset, of 64 bits. -/
def decodeSize : Decoder Nat := .natural UInt64.size

/-- An optional name, absent when missing. -/
def decodeTag : Nat → Option Json → Option (Option String) :=
  Decoder.orDefault none (.option .text)

/-- A field of a struct. -/
def decodeField (inner : Decoder CType) : Decoder (Field CType) :=
  .record [⟨"name", [], false⟩, ⟨"field_type", [], false⟩, ⟨"offset_bits", [], false⟩]
    fun
      | levels, [some name, some type, some offsetBits] => do
        return ⟨← Decoder.text levels name, ← inner levels type, ← decodeSize levels offsetBits⟩
      | _, _ => none

/-- A declared name with its type under the given key. -/
def decodeDeclared (key : String) (inner : Decoder CType) : Decoder (Declared CType) :=
  .record [⟨"name", [], false⟩, ⟨key, [], false⟩]
    fun
      | levels, [some name, some type] => do
        return ⟨← Decoder.text levels name, ← inner levels type⟩
      | _, _ => none

/-- The contents of an integer type. -/
def decodeInt : Decoder CType :=
  .record [⟨"size", [], false⟩, ⟨"signed", [], false⟩]
    fun
      | levels, [some size, some signed] => do
        return .int (← decodeSize levels size) (← Decoder.bool levels signed)
      | _, _ => none

/-- The contents of a floating-point type. -/
def decodeFloat : Decoder CType :=
  .record [⟨"size", [], false⟩]
    fun
      | levels, [some size] => do return .float (← decodeSize levels size)
      | _, _ => none

/-- The contents of an array type. -/
def decodeArray (inner : Decoder CType) : Decoder CType :=
  .record [⟨"element", [], false⟩, ⟨"length", [], false⟩]
    fun
      | levels, [some element, length] => do
        return .array (← inner levels element)
          (← Decoder.orDefault none (.option decodeSize) levels length)
      | _, _ => none

/-- The contents of a struct type. -/
def decodeStruct (inner : Decoder CType) : Decoder CType :=
  .record [⟨"name", [], false⟩, ⟨"fields", [], false⟩, ⟨"size", [], false⟩,
      ⟨"alignment", [], false⟩, ⟨"packed", [], false⟩]
    fun
      | levels, [tag, some fields, some size, some alignment, some packed] => do
        return .struct ⟨← decodeTag levels tag, ← Decoder.list (decodeField inner) levels fields,
          ← decodeSize levels size, ← decodeSize levels alignment, ← Decoder.bool levels packed⟩
      | _, _ => none

/-- The contents of a union type. -/
def decodeUnion (inner : Decoder CType) : Decoder CType :=
  .record [⟨"name", [], false⟩, ⟨"members", [], false⟩, ⟨"size", [], false⟩,
      ⟨"alignment", [], false⟩]
    fun
      | levels, [tag, some members, some size, some alignment] => do
        return .union ⟨← decodeTag levels tag,
          ← Decoder.list (decodeDeclared "member_type" inner) levels members,
          ← decodeSize levels size, ← decodeSize levels alignment⟩
      | _, _ => none

/-- The contents of an enumeration type. -/
def decodeEnum : Decoder CType :=
  .record [⟨"name", [], false⟩, ⟨"values", [], false⟩, ⟨"underlying_size", [], false⟩]
    fun
      | levels, [tag, some values, some underlyingSize] => do
        return .enum ⟨← decodeTag levels tag,
          ← Decoder.list (.pair .text .integer64) levels values,
          ← decodeSize levels underlyingSize⟩
      | _, _ => none

/-- The contents of a function type. -/
def decodeFunction (inner : Decoder CType) : Decoder CType :=
  .record [⟨"return_type", [], false⟩, ⟨"parameters", [], false⟩]
    fun
      | levels, [some result, some params] => do
        return .function ⟨← inner levels result,
          ← Decoder.list (decodeDeclared "param_type" inner) levels params⟩
      | _, _ => none

/-- The contents of a typedef. -/
def decodeSynonym (inner : Decoder CType) : Decoder CType :=
  .record [⟨"name", [], false⟩, ⟨"target", [], false⟩]
    fun
      | levels, [some name, some target] => do
        return .synonym (← Decoder.text levels name) (← inner levels target)
      | _, _ => none

/-- What a type of the given kind carries. -/
def decodeContent (inner : Decoder CType) (kind : String) : Decoder CType :=
  match kind with
  | "void" => fun
    | _, .null => some .void
    | _, _ => none
  | "int" => decodeInt
  | "float" => decodeFloat
  | "pointer" => fun levels document => (inner levels document).map .pointer
  | "array" => decodeArray inner
  | "struct" => decodeStruct inner
  | "union" => decodeUnion inner
  | "enum" => decodeEnum
  | "function" => decodeFunction inner
  | "typedef" => decodeSynonym inner
  | "named" => fun levels document => (Decoder.text levels document).map .named
  | _ => fun _ _ => none

/-- The outermost type of a document, with a decoder for the types inside. -/
def layer (inner : Decoder CType) : Decoder CType
  | levels + 1, .object members => do
    let (kind, content) ← Decoder.variant? (.object members)
    decodeContent inner kind levels content
  | _, .string written => do
    if (← Json.text? (.string written)) = "void" then some .void else none
  | _, _ => none

/-- A type of at most the given number of layers. -/
def layers : Nat → Decoder CType
  | 0 => fun _ _ => none
  | n + 1 => layer (layers n)

/-- The type that a document writes. -/
def ofJson : Decoder CType := fun levels document => layers (levels + 1) levels document

end UefiTyping.CType
