import UefiTyping.Guid

/-!
# Data sections of an image

The constant data of a binary, section by section. A read takes place inside the first
section that contains its first address, and fails when that section is too short; a
longer section that overlaps it is not tried.
-/
namespace UefiTyping

/-- Bytes at an address. -/
structure DataSection where
  base : UInt64
  bytes : List UInt8
deriving DecidableEq, Repr

namespace DataSection

/-- How far an address lies behind the start of the section; an address before the start
lies a wrapped distance away. -/
def distance (data : DataSection) (address : UInt64) : Nat := (address - data.base).toNat

/-- Whether the section holds the byte at an address. -/
def contains (data : DataSection) (address : UInt64) : Bool :=
  data.base ≤ address && data.distance address < data.bytes.length

/-- The bytes from an address on, if the section holds that many. -/
def read? (data : DataSection) (address : UInt64) (length : Nat) : Option (List UInt8) :=
  if data.distance address + length ≤ data.bytes.length then
    some ((data.bytes.drop (data.distance address)).take length)
  else none

end DataSection

/-- The data sections of an image, in the order they were added. -/
structure Image where
  sections : List DataSection
deriving DecidableEq, Repr

namespace Image

/-- An image without data. -/
def empty : Image := ⟨[]⟩

/-- The image with one more section. -/
def addSection (image : Image) (base : UInt64) (bytes : List UInt8) : Image :=
  ⟨image.sections ++ [⟨base, bytes⟩]⟩

/-- The image with a GUID stored in a section of its own. -/
def addGuid (image : Image) (address : UInt64) (guid : Guid) : Image :=
  image.addSection address guid.bytes.toList

/-- The first section that contains an address. -/
def sectionAt? (image : Image) (address : UInt64) : Option DataSection :=
  image.sections.find? (·.contains address)

/-- The bytes from an address on, out of one section. -/
def read? (image : Image) (address : UInt64) (length : Nat) : Option (List UInt8) := do
  (← image.sectionAt? address).read? address length

/-- The GUID stored at an address. -/
def guid? (image : Image) (address : UInt64) : Option Guid := do
  Guid.ofBytes? (← image.read? address 16)

/-- A stored GUID is sixteen bytes of one section. -/
theorem guid?_eq_some_iff {image : Image} {address : UInt64} {guid : Guid} :
    image.guid? address = some guid ↔ image.read? address 16 = some guid.bytes.toList := by
  rw [guid?]
  cases image.read? address 16 with
  | none => simp
  | some bytes => simp [Guid.ofBytes?_eq_some_iff]

/-- Whether there are no sections. -/
def isEmpty (image : Image) : Bool := image.sections.isEmpty

end Image
end UefiTyping
