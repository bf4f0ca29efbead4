import UefiTyping.Proofs.CType.Alignment
import UefiTyping.Proofs.CType.Codec
import UefiTyping.TypeDatabase.Basic

/-!
# Numbers in the types of a database

Types are kept with numbers of the width of a word. A database holds such types only, as long
as those are registered that are; then so are all that it finds and resolves. A struct that a
database lays out has such numbers when its size in bits is one: its fields start inside it.
-/
namespace UefiTyping

open Std (ExtTreeMap)

/-! ## Layouts -/

namespace StructType
variable {τ : Type}

/-- Fields of the given types that start inside the struct. -/
def Encloses (layout : StructType τ) (types : List τ) : Prop :=
  ∀ field ∈ layout.fields, field.type ∈ types ∧ field.offsetBits ≤ 8 * layout.size

theorem Encloses.addSized {layout : StructType τ} {types : List τ} (h : layout.Encloses types)
    (name : String) {type : τ} (htype : type ∈ types) (size alignment : Nat) :
    (layout.addSized name type size alignment).Encloses types := by
  have hoffset := layout.size_le_nextOffset (max alignment 1)
  intro field hfield
  simp only [StructType.addSized, List.mem_append, List.mem_singleton] at hfield ⊢
  rcases hfield with hold | rfl
  · obtain ⟨hfieldType, hstart⟩ := h field hold
    exact ⟨hfieldType, by omega⟩
  · exact ⟨htype, Nat.mul_le_mul_left 8 (Nat.le_add_right _ _)⟩

theorem Encloses.finish {layout : StructType τ} {types : List τ} (h : layout.Encloses types) :
    layout.finish.Encloses types := by
  rw [StructType.finish]
  split
  · intro field hfield
    obtain ⟨hfieldType, hstart⟩ := h field hfield
    exact ⟨hfieldType, hstart.trans (Nat.mul_le_mul_left 8 (le_alignUp _ _))⟩
  · exact h

end StructType

namespace TypeDatabase

theorem encloses_layOut (db : TypeDatabase) (name : String) (fields : List (String × CType)) :
    (db.layOut name fields).Encloses (fields.map Prod.snd) := by
  let Inside (layout : StructType CType) : Prop := layout.Encloses (fields.map Prod.snd)
  have hempty : Inside (.empty (some name)) := by
    intro field hfield
    cases hfield
  refine StructType.Encloses.finish (List.foldlRecOn (motive := Inside) fields _ hempty ?_)
  intro layout hlayout field hfield
  exact hlayout.addSized field.1 (List.mem_map_of_mem hfield) _ _

/-! ## Databases -/

/-- What is registered fits in words. -/
structure FitsWords (db : TypeDatabase) : Prop where
  types : ∀ {name : String} {type : CType}, db.types[name]? = some type → type.FitsWords
  synonyms : ∀ {name : String} {type : CType}, db.synonyms[name]? = some type → type.FitsWords

theorem FitsWords.of_find? {db : TypeDatabase} (hdb : db.FitsWords) {name : String} {type : CType}
    (h : db.find? name = some type) : type.FitsWords := by
  simp only [find?, Option.orElse_eq_orElse, Option.orElse_eq_or, Option.or_eq_some_iff] at h
  rcases h with h | ⟨-, h | ⟨-, h⟩⟩
  · exact hdb.types h
  · exact hdb.synonyms h
  · obtain ⟨keyword, -, hkeyword⟩ := List.exists_of_findSome?_eq_some h
    exact hdb.types hkeyword

theorem FitsWords.empty (pointerSize : Nat) : (TypeDatabase.empty pointerSize).FitsWords :=
  ⟨by simp [TypeDatabase.empty], by simp [TypeDatabase.empty]⟩

theorem FitsWords.addType {db : TypeDatabase} (hdb : db.FitsWords) (name : String) {type : CType}
    (htype : type.FitsWords) : (db.addType name type).FitsWords := by
  refine ⟨fun {name' type'} h => ?_, hdb.synonyms⟩
  simp only [TypeDatabase.addType, ExtTreeMap.getElem?_insert] at h
  split at h
  · obtain rfl := Option.some.inj h
    exact htype
  · exact hdb.types h

theorem FitsWords.addSynonym {db : TypeDatabase} (hdb : db.FitsWords) (name : String)
    {target : CType} (htarget : target.FitsWords) : (db.addSynonym name target).FitsWords := by
  refine ⟨hdb.types, fun {name' type'} h => ?_⟩
  simp only [TypeDatabase.addSynonym, ExtTreeMap.getElem?_insert] at h
  split at h
  · obtain rfl := Option.some.inj h
    exact htarget
  · exact hdb.synonyms h

/-- A struct of types that fit may be laid out when its size in bits fits. -/
theorem FitsWords.addStruct {db : TypeDatabase} (hdb : db.FitsWords) (name : String)
    {fields : List (String × CType)} (hfields : ∀ field ∈ fields, field.2.FitsWords)
    (hsize : 8 * (db.layOut name fields).size < UInt64.size)
    (halignment : (db.layOut name fields).alignment < UInt64.size) :
    (db.addStruct name fields).FitsWords := by
  have hencloses := db.encloses_layOut name fields
  refine hdb.addType name (.struct (fun field hfield => ?_) (fun field hfield => ?_) ?_ halignment)
  · obtain ⟨entry, hentry, htype⟩ := List.mem_map.1 (hencloses field hfield).1
    rw [← htype]
    exact hfields entry hentry
  · exact Nat.lt_of_le_of_lt (hencloses field hfield).2 hsize
  · omega

theorem FitsWords.of_chase {db : TypeDatabase} (hdb : db.FitsWords) {limit : Nat}
    {type concrete : CType} (h : type.FitsWords) (hchase : db.chase limit type = some concrete) :
    concrete.FitsWords := by
  induction limit generalizing type with
  | zero => cases hchase
  | succ limit ih =>
    cases type with
    | synonym name target =>
      cases h with
      | synonym _ htarget => exact ih htarget hchase
    | named name =>
      obtain ⟨found, hfound, hchase⟩ := Option.bind_eq_some_iff.1 hchase
      exact ih (hdb.of_find? hfound) hchase
    | void | int | float | pointer | array | struct | union | enum | function =>
      obtain rfl := Option.some.inj hchase
      exact h

end TypeDatabase
end UefiTyping
