import UefiTyping.Guid
import UefiTyping.TypeDatabase.FieldOffset

/-!
# Errors of the analysis

Each error belongs to one call site, one function or one usage record. The analysis
reports it and goes on.
-/
namespace UefiTyping

/-- What can go wrong at a site, in a function or with a record. -/
inductive AnalysisError
  | layout (error : LayoutError)
  /-- The GUID argument is no constant reference to a readable GUID. -/
  | unresolvedGuid (site : UInt64) (argument : String)
  /-- No protocol is known for the GUID at this site. -/
  | unknownProtocol (site : UInt64) (guid : Guid)
  /-- The interface type of the protocol is not in the type database. -/
  | unknownInterfaceType (protocol type : String)
  /-- The interface argument names no destination that can be retyped. -/
  | unsupportedDestination (site : UInt64) (argument : String)
  /-- The store did not take the new type. -/
  | retype (function : UInt64) (name : String)
  /-- The host could not decompile the function. -/
  | decompilationFailed (function : UInt64) (reason : String)
  /-- No function contains the address. -/
  | functionNotFound (address : UInt64)
deriving DecidableEq, Repr

namespace AnalysisError

/-- An address as messages write it. -/
def addressText (address : UInt64) : String := Hex.marked address.toNat

/-- The text of an error. -/
def message : AnalysisError → String
  | .layout error => error.message
  | .unresolvedGuid site argument =>
    "GUID argument at " ++ addressText site ++ " is not a constant: " ++ argument
  | .unknownProtocol site guid => "unknown protocol " ++ toString guid ++ " at " ++ addressText site
  | .unknownInterfaceType protocol type =>
    "interface type " ++ type ++ " for " ++ protocol ++ " is not registered"
  | .unsupportedDestination site argument =>
    "unsupported destination shape at " ++ addressText site ++ ": " ++ argument
  | .retype function name =>
    "failed to set type of " ++ name ++ " in function " ++ addressText function
  | .decompilationFailed function reason =>
    "decompilation of function " ++ addressText function ++ " failed: " ++ reason
  | .functionNotFound address => "no function contains address " ++ addressText address

end AnalysisError
end UefiTyping
