import Mathlib.Data.List.Basic
import UefiTyping.TypeDatabase.Scalar

/-!
# Resolution and size

What a type resolves to is neither a typedef nor a name, and resolves to itself. Its size and
alignment are those of the type: the pointer size for a pointer, the sizes of its own for
anything but a pointer or an array.
-/
namespace UefiTyping

/-- Whether a type is neither a typedef nor a name. -/
def CType.isConcrete : CType → Bool
  | .synonym .. | .named _ => false
  | _ => true

/-- Whether a type is measured by itself: it is no typedef, no name, no pointer and no array. -/
def CType.isBlock : CType → Bool
  | .synonym .. | .named _ | .pointer _ | .array .. => false
  | _ => true

namespace TypeDatabase
variable {db : TypeDatabase} {type concrete : CType}

/-! ## Resolution -/

theorem isConcrete_of_chase {limit : Nat} (h : db.chase limit type = some concrete) :
    concrete.isConcrete = true := by
  induction limit generalizing type with
  | zero => cases h
  | succ limit ih =>
    cases type with
    | synonym name target => exact ih h
    | named name =>
      obtain ⟨found, -, hfound⟩ := Option.bind_eq_some_iff.1 h
      exact ih hfound
    | void | int | float | pointer | array | struct | union | enum | function =>
      obtain rfl := Option.some.inj h
      rfl

theorem isConcrete_of_resolve (h : db.resolve type = some concrete) : concrete.isConcrete = true :=
  isConcrete_of_chase h

theorem chase_of_isConcrete (h : concrete.isConcrete = true) (limit : Nat) :
    db.chase (limit + 1) concrete = some concrete := by
  cases concrete with
  | synonym name target => cases h
  | named name => cases h
  | void | int | float | pointer | array | struct | union | enum | function => rfl

theorem resolve_of_isConcrete (h : concrete.isConcrete = true) :
    db.resolve concrete = some concrete :=
  chase_of_isConcrete h _

/-- A name resolves to a concrete type that is found under it. -/
theorem resolve_named {name : String} (hfound : db.find? name = some concrete)
    (h : concrete.isConcrete = true) : db.resolve (.named name) = some concrete := by
  show (db.find? name).bind (db.chase 31) = some concrete
  rw [hfound]
  exact chase_of_isConcrete h 30

theorem find?_of_types {name : String} (h : db.types[name]? = some type) :
    db.find? name = some type := by
  rw [find?, h]
  rfl

theorem find?_of_synonyms {name : String} (htypes : db.types[name]? = none)
    (h : db.synonyms[name]? = some type) : db.find? name = some type := by
  rw [find?, htypes, h]
  rfl

/-! ## Size and alignment -/

theorem sizeOf_of_pointer {target : CType} (h : db.resolve type = some (.pointer target)) :
    db.sizeOf type = some db.pointerSize := by
  rw [sizeOf, sizeWithin, h]

theorem alignmentOf_of_pointer {target : CType} (h : db.resolve type = some (.pointer target)) :
    db.alignmentOf type = some db.pointerSize := by
  rw [alignmentOf, alignmentWithin, h]

theorem sizeOf_pointer (db : TypeDatabase) (target : CType) :
    db.sizeOf (.pointer target) = some db.pointerSize :=
  sizeOf_of_pointer rfl

theorem alignmentOf_pointer (db : TypeDatabase) (target : CType) :
    db.alignmentOf (.pointer target) = some db.pointerSize :=
  alignmentOf_of_pointer rfl

theorem sizeOf_of_isBlock (h : db.resolve type = some concrete) (hblock : concrete.isBlock = true) :
    db.sizeOf type = concrete.size := by
  rw [sizeOf, sizeWithin, h]
  cases concrete with
  | pointer | array | synonym | named => cases hblock
  | void | int | float | struct | union | enum | function => rfl

theorem alignmentOf_of_isBlock (h : db.resolve type = some concrete)
    (hblock : concrete.isBlock = true) : db.alignmentOf type = concrete.alignment := by
  rw [alignmentOf, alignmentWithin, h]
  cases concrete with
  | pointer | array | synonym | named => cases hblock
  | void | int | float | struct | union | enum | function => rfl

end TypeDatabase
end UefiTyping
