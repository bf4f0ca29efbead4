import UefiTyping.Text.Hex

/-!
# Variables

A variable of decompiled code is a place with a name and a size. Stack slots and
globals have generated names, made of their offset or address in hexadecimal.
-/
namespace UefiTyping

/-- Where a variable lives. -/
inductive Storage
  | register (id : UInt16)
  /-- A stack slot, at an offset from the frame pointer. -/
  | stack (offset : Int)
  | global (address : UInt64)
  | argument (index : UInt8)
  | temporary (id : UInt32)
deriving DecidableEq, Repr

/-- The generated name of the stack slot at an offset. -/
def Storage.stackName (offset : Int) : String :=
  if offset < 0 then "var_" ++ Hex.numeral (-offset).toNat else "arg_" ++ Hex.numeral offset.toNat

/-- A variable as an expression mentions it, with its size in bytes. -/
structure Variable where
  storage : Storage
  name : String
  size : UInt8
deriving DecidableEq, Repr

namespace Variable

/-- A register. -/
def register (id : UInt16) (name : String) (size : UInt8) : Variable := ⟨.register id, name, size⟩

/-- A stack slot under its generated name. -/
def stack (offset : Int) (size : UInt8) : Variable :=
  ⟨.stack offset, Storage.stackName offset, size⟩

/-- A global under its generated name. -/
def global (address : UInt64) (size : UInt8) : Variable :=
  ⟨.global address, "g_" ++ Hex.numeral address.toNat, size⟩

/-- The same place under another name. -/
def rename (place : Variable) (name : String) : Variable := { place with name }

end Variable
end UefiTyping
