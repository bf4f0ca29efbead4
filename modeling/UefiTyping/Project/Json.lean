import UefiTyping.CType.Json
import UefiTyping.Json.Printer
import UefiTyping.Project.Basic

/-!
# Project files

A project is saved as an indented document and loaded from one. Whether there are unsaved
changes is not part of the document: a loaded project has none, and neither has one that
was just saved. The version is looked at only after the whole document was read.
-/
namespace UefiTyping

open Json (Decoder)
open Std (ExtTreeMap ExtTreeSet)

/-- Why a project could not be loaded or saved. -/
inductive ProjectError
  /-- The file could not be read or written. -/
  | io
  /-- The text is no document of the expected form. -/
  | json
  | invalidProject (reason : String)
  | unsupportedVersion (version : Nat)
deriving DecidableEq, Repr

/-- The text of a project error. What is wrong with a file or a document is not kept. -/
def ProjectError.message : ProjectError → String
  | .io => "IO error"
  | .json => "JSON error"
  | .invalidProject reason => "Invalid project file: " ++ reason
  | .unsupportedVersion version => "Unsupported project version: " ++ toString version

namespace AnalysisProject

/-! ## Writing -/

/-- The document of the types of a function. -/
def variablesToJson (types : VariableTypes) : Json :=
  .ofFields (types.toList.map fun entry => (entry.1, entry.2.toJson))

/-- The document of the types of all functions, with entries as decimal numerals. -/
def typesToJson (types : ExtTreeMap UInt64 VariableTypes) : Json :=
  .ofFields (types.toList.map fun entry => (toString entry.1.toNat, variablesToJson entry.2))

/-- The document of a project. -/
def toJson (project : AnalysisProject) : Json :=
  .ofFields
    [("version", .ofNat project.version),
     ("binary_path", .ofText project.binaryPath),
     ("variable_types", typesToJson project.types),
     ("excluded_functions",
       .array (project.excluded.toList.map fun function => .ofNat function.toNat))]

/-- The text of a project. -/
def toText (project : AnalysisProject) : String := project.toJson.indented

/-- The project after an attempt to save it, given whether its text could be written. -/
def save (project : AnalysisProject) (written : Bool) :
    Except ProjectError Unit × AnalysisProject :=
  if written then (.ok (), { project with dirty := false }) else (.error .io, project)

/-! ## Reading -/

/-- The types of a function; of two entries for one variable the later one stays. -/
def decodeVariables : Decoder VariableTypes := fun levels document =>
  (Decoder.members Decoder.textKey CType.ofJson levels document).map (ExtTreeMap.ofList ·)

/-- The key of a function. -/
def functionKey (written : List Char) : Option UInt64 :=
  (Decoder.naturalKey UInt64.size written).map UInt64.ofNat

/-- The types of all functions; of two entries for one function the later one stays. -/
def decodeTypes : Decoder (ExtTreeMap UInt64 VariableTypes) := fun levels document =>
  (Decoder.members functionKey decodeVariables levels document).map (ExtTreeMap.ofList ·)

/-- The excluded functions. -/
def decodeExcluded : Decoder (ExtTreeSet UInt64) := fun levels document =>
  (Decoder.list (Decoder.natural UInt64.size) levels document).map fun functions =>
    .ofList (functions.map UInt64.ofNat)

/-- The project that a document writes, whatever its version. -/
def ofJson : Decoder AnalysisProject :=
  .record [⟨"version", [], false⟩, ⟨"binary_path", [], false⟩, ⟨"variable_types", [], true⟩,
      ⟨"excluded_functions", [], true⟩]
    fun
      | levels, [some version, some path, types, excluded] => do
        return ⟨← Decoder.natural UInt32.size levels version, ← Decoder.text levels path,
          ← Decoder.orDefault ∅ decodeTypes levels types,
          ← Decoder.orDefault ∅ decodeExcluded levels excluded, false⟩
      | _, _ => none

/-- The project, unless its version is zero or too new. -/
def checkVersion (project : AnalysisProject) : Except ProjectError AnalysisProject :=
  if project.version = 0 then .error (.invalidProject "version 0")
  else if formatVersion < project.version then .error (.unsupportedVersion project.version)
  else .ok project

/-- The project in a file, given what the file holds if it can be read. -/
def load (contents : Option String) : Except ProjectError AnalysisProject :=
  match contents with
  | none => .error .io
  | some text =>
    match ofJson.ofText? text with
    | none => .error .json
    | some project => project.checkVersion

end AnalysisProject
end UefiTyping
