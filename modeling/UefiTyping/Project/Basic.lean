import Std.Data.ExtTreeSet
import UefiTyping.Retype.Store

/-!
# Analysis projects

A project keeps, for one binary, the types that were given to variables, and the functions
whose variables are never to be changed. It is the variable store that retyping works on.
It also knows whether it holds changes that were not saved.
-/
namespace UefiTyping

open Std (ExtTreeMap ExtTreeSet)

/-- Types by variable name. -/
abbrev VariableTypes := ExtTreeMap String CType

/-- What is known about one binary. -/
@[ext]
structure AnalysisProject where
  /-- Version of the file format. -/
  version : Nat
  binaryPath : String
  /-- The types given so far, by function entry. -/
  types : ExtTreeMap UInt64 VariableTypes
  /-- Entries of the functions that are left alone. -/
  excluded : ExtTreeSet UInt64
  /-- Whether there are unsaved changes. -/
  dirty : Bool

namespace AnalysisProject

/-- The version of the file format that is written. -/
def formatVersion : Nat := 1

/-- The project of a binary without types and exclusions. -/
def empty (binaryPath : String) : AnalysisProject := ⟨formatVersion, binaryPath, ∅, ∅, false⟩

/-! ## Types of variables -/

/-- Records the type of a variable, in place of any before. -/
def setType (project : AnalysisProject) (function : UInt64) (name : String) (type : CType) :
    AnalysisProject :=
  { project with
    types := project.types.insert function ((project.types.getD function ∅).insert name type)
    dirty := true }

/-- The types recorded for a function. -/
def functionTypes? (project : AnalysisProject) (function : UInt64) : Option VariableTypes :=
  project.types[function]?

/-- The type recorded for a variable. -/
def typeOf? (project : AnalysisProject) (function : UInt64) (name : String) : Option CType := do
  (← project.functionTypes? function)[name]?

/-- Forgets the types of a function. -/
def clear (project : AnalysisProject) (function : UInt64) : AnalysisProject :=
  if project.types.contains function then
    { project with types := project.types.erase function, dirty := true }
  else project

/-! ## Exclusions -/

/-- Whether a function is left alone. -/
def isExcluded (project : AnalysisProject) (function : UInt64) : Bool :=
  project.excluded.contains function

/-- Leaves a function alone from now on. -/
def exclude (project : AnalysisProject) (function : UInt64) : AnalysisProject :=
  if project.isExcluded function then project
  else { project with excluded := project.excluded.insert function, dirty := true }

/-! ## The project as a store -/

/-- Whether a variable has room for a type. Only a register can be too narrow. -/
def hasRoom (place : LocalVariable) (type : CType) : Bool :=
  match place.storage, type.size with
  | .register _, some size => size ≤ place.size
  | _, _ => true

/-- Whether a type is taken for a variable of a function. -/
def accepts (project : AnalysisProject) (function : UInt64) (place : LocalVariable)
    (type : CType) : Bool :=
  !project.isExcluded function && hasRoom place type

instance : VariableStore AnalysisProject where
  setType project function place type :=
    if project.accepts function place type then (true, project.setType function place.name type)
    else (false, project)

end AnalysisProject
end UefiTyping
