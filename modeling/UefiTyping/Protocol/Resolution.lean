import UefiTyping.AnalysisError
import UefiTyping.Expr.Address
import UefiTyping.Expr.Simplify
import UefiTyping.Expr.Text
import UefiTyping.Program.Image
import UefiTyping.Protocol.UsageRecord

/-!
# Protocol resolution

Which protocol a service call asks for. The GUID is read out of the image at the constant
address that the argument denotes. The registry then names the protocol; a usage record
for the site stands in only where the registry has no entry, and only if it carries that
very GUID.
-/
namespace UefiTyping

/-- What the analysis of call sites reads and never changes. -/
structure AnalysisContext where
  types : TypeDatabase
  protocols : ProtocolRegistry
  image : Image

/-- Whether a record allows a GUID at a site. -/
def UsageRecord.allows (record : UsageRecord) (site : UInt64) (guid : Guid) : Bool :=
  record.codeAddress == site && record.matchesGuid guid

/-- The protocol that a site asks for. -/
structure ResolvedProtocol where
  name : String
  interfaceType : String
deriving DecidableEq, Repr

namespace ResolvedProtocol

/-- The GUID that an argument refers to. -/
def guidOf? (image : Image) (argument : Expr) : Option Guid := do
  image.guid? (← argument.simplify.constantAddress)

/-- The protocol name in the first record for a site that carries a GUID. -/
def recordedName? (records : List UsageRecord) (site : UInt64) (guid : Guid) : Option String :=
  (records.find? fun record => record.codeAddress == site && record.guid == some guid).bind
    (·.protocolName)

/-- The protocol of a GUID at a site. -/
def ofGuid? (protocols : ProtocolRegistry) (records : List UsageRecord) (site : UInt64)
    (guid : Guid) : Option ResolvedProtocol :=
  match protocols.lookup? guid with
  | some entry => some ⟨entry.protocolName, entry.interfaceType⟩
  | none => (recordedName? records site guid).map fun name => ⟨name, interfaceTypeFor name⟩

/-- The protocol that a GUID argument at a site asks for. When `restricted`, some record
has to allow the GUID there. -/
def resolve (context : AnalysisContext) (records : List UsageRecord) (restricted : Bool)
    (site : UInt64) (argument : Expr) : Except AnalysisError ResolvedProtocol :=
  match guidOf? context.image argument with
  | none => .error (.unresolvedGuid site argument.text)
  | some guid =>
    if restricted && !records.any (·.allows site guid) then .error (.unknownProtocol site guid)
    else
      match ofGuid? context.protocols records site guid with
      | none => .error (.unknownProtocol site guid)
      | some protocol =>
        if context.types.has protocol.interfaceType then .ok protocol
        else .error (.unknownInterfaceType protocol.name protocol.interfaceType)

end ResolvedProtocol
end UefiTyping
