import UefiTyping.Guid
import UefiTyping.Json.Decode

/-!
# Protocol registry

The registry knows protocols by GUID: the name of each and the type of its interface.
The interface type follows from the name of the GUID unless it is given, by leaving off
the ending `_GUID`.
-/
namespace UefiTyping

open Std (ExtTreeMap)
open Json (Decoder)

/-- Why registry entries or usage records could not be loaded. -/
inductive ProtocolError
  /-- The file could not be read. -/
  | io
  /-- The text is no document of the expected form. -/
  | json
deriving DecidableEq, Repr

/-- The ending of the name of a GUID. -/
def guidEnding : List Char := ['_', 'G', 'U', 'I', 'D']

/-- The interface type that a protocol name implies. -/
def interfaceTypeFor (protocolName : String) : String :=
  if guidEnding.isSuffixOf protocolName.toList then
    String.ofList (protocolName.toList.take (protocolName.length - guidEnding.length))
  else protocolName

/-- A known protocol. -/
structure ProtocolEntry where
  guid : Guid
  protocolName : String
  interfaceType : String
deriving DecidableEq, Repr

namespace ProtocolEntry

/-- The protocol of a name, with the interface type that the name implies. -/
def ofName (guid : Guid) (protocolName : String) : ProtocolEntry :=
  ⟨guid, protocolName, interfaceTypeFor protocolName⟩

/-- The same protocol with another interface type. -/
def withInterfaceType (entry : ProtocolEntry) (interfaceType : String) : ProtocolEntry :=
  { entry with interfaceType }

/-- The entry with its interface type filled in if that is empty. -/
def complete (entry : ProtocolEntry) : ProtocolEntry :=
  if entry.interfaceType.isEmpty then entry.withInterfaceType (interfaceTypeFor entry.protocolName)
  else entry

end ProtocolEntry

/-! ## Reading entries -/

/-- A GUID in its text form. -/
def Guid.ofJson : Decoder Guid := fun levels document => do
  Guid.ofText? (← Decoder.text levels document).toList

/-- An entry as written, with an empty interface type when it gives none. -/
def ProtocolEntry.ofJson : Decoder ProtocolEntry :=
  .record [⟨"guid", [], false⟩, ⟨"protocol_name", ["name", "prot_name"], false⟩,
      ⟨"interface_type_name", [], true⟩]
    fun
      | levels, [some guid, some name, interface] => do
        return ⟨← Guid.ofJson levels guid, ← Decoder.text levels name,
          ← Decoder.orDefault "" .text levels interface⟩
      | _, _ => none

/-! ## The registry -/

/-- Protocols by GUID. -/
structure ProtocolRegistry where
  entries : ExtTreeMap Guid ProtocolEntry

namespace ProtocolRegistry

/-- The registry without protocols. -/
def empty : ProtocolRegistry := ⟨∅⟩

/-- Adds an entry, in place of any for its GUID. -/
def insert (registry : ProtocolRegistry) (entry : ProtocolEntry) : ProtocolRegistry :=
  ⟨registry.entries.insert entry.guid entry⟩

/-- The registry of a list of entries, of which the later ones count. -/
def ofList (entries : List ProtocolEntry) : ProtocolRegistry := entries.foldl insert empty

/-- The protocol of a GUID. -/
def lookup? (registry : ProtocolRegistry) (guid : Guid) : Option ProtocolEntry :=
  registry.entries[guid]?

/-- A protocol of a name, the one of the least GUID if there are several. -/
def lookupName? (registry : ProtocolRegistry) (protocolName : String) : Option ProtocolEntry :=
  registry.entries.values.find? (·.protocolName == protocolName)

/-- How many protocols there are. -/
def size (registry : ProtocolRegistry) : Nat := registry.entries.size

/-- The registry that the text of an array of entries writes. -/
def ofText? (text : String) : Option ProtocolRegistry :=
  ((Decoder.list ProtocolEntry.ofJson).ofText? text).map fun entries =>
    ofList (entries.map ProtocolEntry.complete)

/-- The registry in a file, given what the file holds if it can be read. -/
def load (contents : Option String) : Except ProtocolError ProtocolRegistry :=
  match contents with
  | none => .error .io
  | some text => (ofText? text).elim (.error .json) .ok

/-! ## Well-known protocols -/

/-- The stored bytes of well-known protocol GUIDs, with their names. -/
def wellKnown : List (Vector UInt8 16 × String) :=
  [(#v[0xa1, 0x31, 0x1b, 0x5b, 0x62, 0x95, 0xd2, 0x11,
       0x8e, 0x3f, 0x00, 0xa0, 0xc9, 0x69, 0x72, 0x3b], "EFI_LOADED_IMAGE_PROTOCOL_GUID"),
   (#v[0x91, 0x6e, 0x57, 0x09, 0x3f, 0x6d, 0xd2, 0x11,
       0x8e, 0x39, 0x00, 0xa0, 0xc9, 0x69, 0x72, 0x3b], "EFI_DEVICE_PATH_PROTOCOL_GUID"),
   (#v[0xc2, 0x77, 0x74, 0x38, 0xc7, 0x69, 0xd2, 0x11,
       0x8e, 0x39, 0x00, 0xa0, 0xc9, 0x69, 0x72, 0x3b], "EFI_SIMPLE_TEXT_OUTPUT_PROTOCOL_GUID"),
   (#v[0x21, 0x5b, 0x4e, 0x96, 0x59, 0x64, 0xd2, 0x11,
       0x8e, 0x39, 0x00, 0xa0, 0xc9, 0x69, 0x72, 0x3b], "EFI_BLOCK_IO_PROTOCOL_GUID"),
   (#v[0x22, 0x5b, 0x4e, 0x96, 0x59, 0x64, 0xd2, 0x11,
       0x8e, 0x39, 0x00, 0xa0, 0xc9, 0x69, 0x72, 0x3b], "EFI_SIMPLE_FILE_SYSTEM_PROTOCOL_GUID"),
   (#v[0xde, 0xa9, 0x42, 0x90, 0xdc, 0x23, 0x38, 0x4a,
       0x96, 0xfb, 0x7a, 0xde, 0xd0, 0x80, 0x51, 0x6a], "EFI_GRAPHICS_OUTPUT_PROTOCOL_GUID"),
   (#v[0xb7, 0xbf, 0xcc, 0xf4, 0xe0, 0xf6, 0xfd, 0x47,
       0x9d, 0xd4, 0x10, 0xa8, 0xf1, 0x50, 0xc1, 0x91], "EFI_SMM_BASE2_PROTOCOL_GUID"),
   (#v[0xdc, 0xc6, 0xa3, 0x18, 0xea, 0x5e, 0xc8, 0x48,
       0xa1, 0xc1, 0xb5, 0x33, 0x89, 0xf9, 0x89, 0x99], "EFI_SMM_SW_DISPATCH2_PROTOCOL_GUID")]

/-- The registry of the well-known protocols. -/
def builtin : ProtocolRegistry :=
  ofList (wellKnown.map fun known => .ofName ⟨known.1⟩ known.2)

end ProtocolRegistry
end UefiTyping
