import UefiTyping.AnalysisError
import UefiTyping.Function.Basic

/-!
# Variable stores

A variable store keeps the declared types of variables. Offering it a type is the one
way in which retyping changes anything; the store may refuse.
-/
namespace UefiTyping

/-- Keeps the declared types of variables. -/
class VariableStore (σ : Type) where
  /-- Offers a type for a local of the function at an entry. The answer says whether the
  store took it. -/
  setType : σ → UInt64 → LocalVariable → CType → Bool × σ

variable {σ : Type} [VariableStore σ]

namespace VariableStore

/-- Gives a local its type; a refusal is an error. -/
def assign (store : σ) (function : UInt64) (place : LocalVariable) (type : CType) :
    Except AnalysisError Unit × σ :=
  let (accepted, store) := setType store function place type
  (if accepted then .ok () else .error (.retype function place.name), store)

/-- Gives the first local of a name its type. Without such a local the store is not
asked. -/
def assignNamed (store : σ) (function : DecompiledFunction) (name : String) (type : CType) :
    Except AnalysisError Unit × σ :=
  match function.local? name with
  | none => (.error (.retype function.address name), store)
  | some place => assign store function.address place type

end VariableStore

/-! ## Stores to observe with -/

/-- One offer made to a store, and whether it was taken. -/
structure StoreCall where
  function : UInt64
  place : LocalVariable
  type : CType
  accepted : Bool
deriving Repr

/-- A store together with the offers made to it so far, in order. -/
structure Audited (σ : Type) where
  store : σ
  calls : List StoreCall

/-- The store passes every offer on and writes it down. -/
instance : VariableStore (Audited σ) where
  setType audited function place type :=
    let (accepted, store) := VariableStore.setType audited.store function place type
    (accepted, ⟨store, audited.calls ++ [⟨function, place, type, accepted⟩]⟩)

/-- A store that refuses the variables of certain names and keeps nothing. -/
structure NameFilter where
  refused : List String

instance : VariableStore NameFilter where
  setType filter _ place _ := (!filter.refused.contains place.name, filter)

end UefiTyping
