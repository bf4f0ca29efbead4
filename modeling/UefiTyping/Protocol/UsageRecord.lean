import UefiTyping.Protocol.Registry

/-!
# Usage records

A usage record is a call site, found beforehand, that seems to obtain a protocol
interface. All it must give is the address of the call.
-/
namespace UefiTyping

open Json (Decoder)

/-- A call site that seems to obtain a protocol interface. -/
structure UsageRecord where
  /-- Address of the service call. -/
  codeAddress : UInt64
  /-- Entry of the function that contains the call, if it is known. -/
  functionAddress : Option UInt64
  /-- The service called; empty if it is not known. -/
  service : String
  /-- The GUID passed at the site, if it is known. -/
  guid : Option Guid
  protocolName : Option String
deriving DecidableEq, Repr

namespace UsageRecord

/-- Whether the record describes a GUID; a record without one describes any. -/
def matchesGuid (record : UsageRecord) (guid : Guid) : Bool :=
  record.guid.all (· == guid)

/-! ## Reading and writing -/

/-- An address. -/
def decodeAddress : Decoder UInt64 := fun levels document =>
  (Decoder.natural UInt64.size levels document).map UInt64.ofNat

/-- The record that a document writes. -/
def ofJson : Decoder UsageRecord :=
  .record [⟨"code_address", ["ea"], false⟩, ⟨"function_address", ["func_ea"], true⟩,
      ⟨"service", [], true⟩, ⟨"guid", [], true⟩, ⟨"protocol_name", ["prot_name"], true⟩]
    fun
      | levels, [some code, function, service, guid, name] => do
        return ⟨← decodeAddress levels code,
          ← Decoder.orDefault none (.option decodeAddress) levels function,
          ← Decoder.orDefault "" .text levels service,
          ← Decoder.orDefault none (.option Guid.ofJson) levels guid,
          ← Decoder.orDefault none (.option .text) levels name⟩
      | _, _ => none

/-- A field that is left out when it has no value. -/
def optionalField {α : Type} (name : String) (encode : α → Json) (value : Option α) :
    List (String × Json) :=
  (value.map fun value => (name, encode value)).toList

/-- The document of a record. What is not known is left out, but the service is always
written. -/
def toJson (record : UsageRecord) : Json :=
  .ofFields <|
    [("code_address", Json.ofNat record.codeAddress.toNat)]
    ++ optionalField "function_address" (fun address => .ofNat address.toNat) record.functionAddress
    ++ [("service", .ofText record.service)]
    ++ optionalField "guid" (fun guid => .ofText (toString guid)) record.guid
    ++ optionalField "protocol_name" .ofText record.protocolName

/-- The records that the text of an array writes. -/
def listOfText? (text : String) : Option (List UsageRecord) := (Decoder.list ofJson).ofText? text

/-- The records in a file, given what the file holds if it can be read. -/
def load (contents : Option String) : Except ProtocolError (List UsageRecord) :=
  match contents with
  | none => .error .io
  | some text => (listOfText? text).elim (.error .json) .ok

end UsageRecord
end UefiTyping
