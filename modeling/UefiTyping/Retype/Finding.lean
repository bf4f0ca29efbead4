import UefiTyping.Protocol.Resolution
import UefiTyping.Retype.Destination
import UefiTyping.Retype.MatchedCall

/-!
# Findings

A traversal walks one function for one service table and lists what it finds, call by
call. It never looks at a store: what to offer at a site depends on the function, the
records and the context alone. Whether the offers are made is decided afterwards.
-/
namespace UefiTyping

/-- A matched call with what it comes to. -/
structure Proposal where
  site : UInt64
  service : String
  /-- The protocol, if one was resolved. -/
  protocol : Option String
  /-- The local to retype and its new type. -/
  offer : Except AnalysisError (String × CType)

/-- What a traversal finds at a matched call. -/
inductive Finding
  /-- The arguments cannot be told. -/
  | unreadable (fault : ArgumentFault)
  | proposed (proposal : Proposal)

/-- One service table looked for in functions. -/
structure Traversal where
  context : AnalysisContext
  table : ServiceTable
  /-- All usage records of the run. -/
  records : List UsageRecord
  /-- Whether a GUID is accepted only when a usage record for the site allows it. -/
  restricted : Bool
  /-- The site of calls without an address. -/
  recordAddress : UInt64

namespace Traversal

/-- The local that receives an interface and its new type. -/
def offer (traversal : Traversal) (function : DecompiledFunction) (call : MatchedCall)
    (argument : Expr) (protocol : ResolvedProtocol) : Except AnalysisError (String × CType) :=
  let depth := call.service.pointerDepth
  let destination := Destination.classify traversal.context.types function depth argument
  match destination.retyped? traversal.context.types protocol.interfaceType depth with
  | some offer => .ok offer
  | none => .error (.unsupportedDestination call.site argument.text)

/-- What a matched call with these arguments comes to. -/
def propose (traversal : Traversal) (function : DecompiledFunction) (call : MatchedCall)
    (arguments : ServiceArguments) : Proposal :=
  match ResolvedProtocol.resolve traversal.context traversal.records traversal.restricted
      call.site arguments.guid with
  | .error error => ⟨call.site, call.service.name, none, .error error⟩
  | .ok protocol =>
    ⟨call.site, call.service.name, some protocol.name,
      traversal.offer function call arguments.interface protocol⟩

/-- What is found at a matched call. -/
def examine (traversal : Traversal) (function : DecompiledFunction) (call : MatchedCall) :
    Finding :=
  match call.arguments with
  | .error fault => .unreadable fault
  | .ok arguments => .proposed (traversal.propose function call arguments)

/-- The matched calls of a function, in the order of the walk. -/
def matchedCalls (traversal : Traversal) (function : DecompiledFunction) : List MatchedCall :=
  function.calls.filterMap
    (MatchedCall.ofCall? traversal.context.types function traversal.table traversal.recordAddress)

/-- What is found in a function. -/
def findings (traversal : Traversal) (function : DecompiledFunction) : List Finding :=
  (traversal.matchedCalls function).map (traversal.examine function)

end Traversal
end UefiTyping
