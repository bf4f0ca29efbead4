import Std.Data.ExtTreeMap
import UefiTyping.AnalysisError
import UefiTyping.Function.Basic
import UefiTyping.Program.Image

/-!
# Programs

A function source answers which function contains an address and what a function looks
like decompiled, and gives the data of the image. A program is a function source held in
memory: ranges of addresses by entry, each with what the host made of it.

A range is found by the nearest entry at or below the address alone: a range that goes on
behind an inner one is not found there.
-/
namespace UefiTyping

open Std (ExtTreeMap)

/-- Where decompiled functions come from. -/
structure FunctionSource where
  /-- The entry of the function that contains an address. -/
  functionAt? : UInt64 → Option UInt64
  /-- The function at an entry. -/
  decompile : UInt64 → Except AnalysisError DecompiledFunction
  image : Image

/-- A function of a program: the end of its range, and its decompilation or the reason
why there is none. -/
structure ProgramFunction where
  /-- The first address behind the function. -/
  limit : UInt64
  decompilation : Except String DecompiledFunction

/-- A program held in memory. -/
structure Program where
  functions : ExtTreeMap UInt64 ProgramFunction
  image : Image

namespace Program

/-- The program without functions and data. -/
def empty : Program := ⟨∅, .empty⟩

/-- Adds a function that ends before `limit`, in place of any at its entry. -/
def addFunction (program : Program) (function : DecompiledFunction) (limit : UInt64) : Program :=
  { program with functions := program.functions.insert function.address ⟨limit, .ok function⟩ }

/-- Adds a function that the host failed to decompile. -/
def addFailed (program : Program) (entry limit : UInt64) (reason : String) : Program :=
  { program with functions := program.functions.insert entry ⟨limit, .error reason⟩ }

/-- The function with the greatest entry that is not above an address. -/
def nearest? (program : Program) (address : UInt64) : Option (UInt64 × ProgramFunction) :=
  (program.functions.toList.filter (·.1 ≤ address)).getLast?

/-- The entry of the function that contains an address. -/
def functionAt? (program : Program) (address : UInt64) : Option UInt64 :=
  match program.nearest? address with
  | some (entry, function) => if address < function.limit then some entry else none
  | none => none

/-- The function at an entry. -/
def decompile (program : Program) (entry : UInt64) : Except AnalysisError DecompiledFunction :=
  match program.functions[entry]? with
  | none => .error (.functionNotFound entry)
  | some ⟨_, .ok function⟩ => .ok function
  | some ⟨_, .error reason⟩ => .error (.decompilationFailed entry reason)

/-- The program as a function source. -/
def source (program : Program) : FunctionSource :=
  ⟨program.functionAt?, program.decompile, program.image⟩

end Program
end UefiTyping
