import UefiTyping.Proofs.TypeDatabase.StructLayout

/-!
# Types that need no database

A type is measured twice over: through a database, which resolves it and asks for the pointer
size, and by itself, where pointers have eight bytes and a name has no size. For pointers of
eight bytes the two agree on a type that measuring never leads to a name, as long as the
typedefs it is written behind are few enough to be resolved, as are those of each element of an
array in it. Both recursions take the same steps on such a type: a typedef gives way to its
target and an array to its element.

Structs laid out by the one measure and by the other are then the same.
-/
namespace UefiTyping

namespace CType

/-- Whether measuring the type leads to a name: one stands in it outside pointers, structs,
unions and functions. -/
def reliesOnName : CType → Bool
  | .named _ => true
  | .synonym _ target => target.reliesOnName
  | .array element _ => element.reliesOnName
  | _ => false

/-- How many typedefs the type is written behind. -/
def synonymCount : CType → Nat
  | .synonym _ target => target.synonymCount + 1
  | _ => 0

/-- The type behind the typedefs. -/
def underlying : CType → CType
  | .synonym _ target => target.underlying
  | type => type

/-- The type has a measure of its own: it relies on no name, and neither it nor the element of
any array in it is written behind as many typedefs as the bound on hops. -/
structure StandsAlone (type : CType) : Prop where
  nameless : type.reliesOnName = false
  resolvable : ∀ level ∈ type :: TypeDatabase.elementsIn type,
    level.synonymCount < TypeDatabase.maxHops

theorem StandsAlone.target {name : String} {target : CType}
    (h : (synonym name target).StandsAlone) : target.StandsAlone where
  nameless := h.nameless
  resolvable := by
    obtain ⟨hfirst, hinner⟩ := List.forall_mem_cons.1 h.resolvable
    exact List.forall_mem_cons.2 ⟨Nat.lt_of_succ_lt hfirst, hinner⟩

theorem StandsAlone.element {element : CType} {length : Option Nat}
    (h : (array element length).StandsAlone) : element.StandsAlone where
  nameless := h.nameless
  resolvable := (List.forall_mem_cons.1 h.resolvable).2

end CType

namespace TypeDatabase
variable {db : TypeDatabase} {type : CType}

/-! ## Resolution -/

theorem chase_eq_underlying {limit : Nat} (hname : type.reliesOnName = false)
    (hcount : type.synonymCount < limit) : db.chase limit type = some type.underlying := by
  fun_induction CType.underlying type generalizing limit with
  | case1 name target ih =>
    obtain ⟨limit, rfl⟩ := Nat.exists_eq_add_one_of_ne_zero (Nat.ne_zero_of_lt hcount)
    exact ih hname (Nat.lt_of_succ_lt_succ hcount)
  | case2 type hnotSynonym =>
    obtain ⟨limit, rfl⟩ := Nat.exists_eq_add_one_of_ne_zero (Nat.ne_zero_of_lt hcount)
    cases type with
    | synonym name target => exact absurd rfl (hnotSynonym name target)
    | named name => cases hname
    | void | int | float | pointer | array | struct | union | enum | function => rfl

theorem resolve_eq_underlying (h : type.StandsAlone) : db.resolve type = some type.underlying :=
  chase_eq_underlying h.nameless (List.forall_mem_cons.1 h.resolvable).1

/-- A typedef that stands alone resolves to what its target does. -/
theorem resolve_synonym_of_standsAlone {name : String} {target : CType}
    (h : (CType.synonym name target).StandsAlone) :
    db.resolve (.synonym name target) = db.resolve target := by
  rw [resolve_eq_underlying h, resolve_eq_underlying h.target, CType.underlying]

/-! ## Measures -/

/-- Measuring a type through the database ends, in the measures that it has by itself. -/
structure MeasuresAlone (db : TypeDatabase) (type : CType) : Prop where
  ends : db.Ends type
  size_eq : db.sizeOf type = type.size
  alignment_eq : db.alignmentOf type = type.alignment

theorem MeasuresAlone.synonym {name : String} {target : CType} (h : db.MeasuresAlone target)
    (hresolve : db.resolve (.synonym name target) = db.resolve target) :
    db.MeasuresAlone (.synonym name target) := by
  have helement : db.element? (.synonym name target) = db.element? target := by
    rw [element?, element?, hresolve]
  refine ⟨?_, ?_, ?_⟩
  · cases hnext : db.element? target with
    | none => exact ends_of_element?_eq_none (helement.trans hnext)
    | some element =>
      exact (ends_iff_of_element? (helement.trans hnext)).2 ((ends_iff_of_element? hnext).1 h.ends)
  · rw [sizeOf_eq_sizeFrom, hresolve, helement, ← sizeOf_eq_sizeFrom, h.size_eq, CType.size]
  · rw [alignmentOf_eq_alignmentFrom, hresolve, helement, ← alignmentOf_eq_alignmentFrom,
      h.alignment_eq, CType.alignment]

theorem MeasuresAlone.array {element : CType} (h : db.MeasuresAlone element)
    (length : Option Nat) : db.MeasuresAlone (.array element length) := by
  have helement : db.element? (.array element length) = some element := rfl
  refine ⟨(ends_iff_of_element? helement).2 h.ends, ?_, ?_⟩
  · rw [sizeOf_eq_sizeFrom, helement, Option.bind_some, h.size_eq]
    rfl
  · rw [alignmentOf_eq_alignmentFrom, helement, Option.bind_some, h.alignment_eq]
    rfl

theorem measuresAlone_pointer (h : db.pointerSize = 8) (target : CType) :
    db.MeasuresAlone (.pointer target) where
  ends := ends_of_element?_eq_none rfl
  size_eq := (db.sizeOf_pointer target).trans (congrArg some h)
  alignment_eq := (db.alignmentOf_pointer target).trans (congrArg some h)

theorem measuresAlone_of_isBlock (h : type.isBlock = true) : db.MeasuresAlone type := by
  have hresolve : db.resolve type = some type := by
    cases type with
    | synonym | named | pointer | array => cases h
    | void | int | float | struct | union | enum | function => rfl
  have hleaf : db.element? type = none := by
    rw [element?, hresolve]
    cases type with
    | synonym | named | pointer | array => cases h
    | void | int | float | struct | union | enum | function => rfl
  exact ⟨ends_of_element?_eq_none hleaf, sizeOf_of_isBlock hresolve h,
    alignmentOf_of_isBlock hresolve h⟩

/-- The two measures agree on a type that stands alone. The cases are those that either
recursion goes through. -/
theorem measuresAlone_of_standsAlone (hpointer : db.pointerSize = 8) (h : type.StandsAlone) :
    db.MeasuresAlone type := by
  fun_induction CType.reliesOnName type with
  | case1 name => cases h.nameless
  | case2 name target ih =>
    exact (ih h.target).synonym (resolve_synonym_of_standsAlone h)
  | case3 element length ih => exact (ih h.element).array length
  | case4 type hnotNamed hnotSynonym hnotArray =>
    cases type with
    | named name => exact absurd rfl (hnotNamed name)
    | synonym name target => exact absurd rfl (hnotSynonym name target)
    | array element length => exact absurd rfl (hnotArray element length)
    | pointer target => exact measuresAlone_pointer hpointer target
    | void | int | float | struct | union | enum | function =>
      exact measuresAlone_of_isBlock rfl

/-! ## Structs -/

/-- A struct of types that stand alone is registered with the layout that it gets from its field
types themselves, field by field and then padded, for pointers of eight bytes. Measuring a type
that stands alone ends, in the size and the alignment that it has by itself. -/
theorem addStruct_eq_addType_ofFields (hpointer : db.pointerSize = 8) (name : String)
    {fields : List (String × CType)} (hfields : ∀ field ∈ fields, field.2.StandsAlone) :
    db.addStruct name fields =
        db.addType name (.struct (StructType.ofFields (some name) false fields)) ∧
      (db.addStruct name fields).find? name =
        some (.struct (StructType.ofFields (some name) false fields)) ∧
      ∀ type : CType, type.StandsAlone →
        db.Ends type ∧ db.sizeOf type = type.size ∧ db.alignmentOf type = type.alignment := by
  have hlayout : db.layOut name fields = StructType.ofFields (some name) false fields := by
    refine congrArg StructType.finish (List.foldl_ext _ _ _ fun layout field hfield => ?_)
    have halone := measuresAlone_of_standsAlone hpointer (hfields field hfield)
    rw [addField, halone.size_eq, halone.alignment_eq, StructType.add]
  refine ⟨?_, ?_, fun type htype => ?_⟩
  · rw [addStruct, hlayout]
  · rw [find?_addStruct, hlayout]
  · have halone := measuresAlone_of_standsAlone hpointer htype
    exact ⟨halone.ends, halone.size_eq, halone.alignment_eq⟩

/-- Typedefs of an array and of its elements, a pointer to a name, and a struct that mentions
one. -/
theorem addStruct_eq_addType_ofFields_device :
    let db := empty 8
    let inner : StructType CType := ⟨none, [⟨"Self", .named "DEVICE", 0⟩], 24, 8, false⟩
    let fields : List (String × CType) :=
      [("Kind", .synonym "UINT8" .uchar),
        ("Path", .synonym "PATH" (.array (.synonym "CHAR16" .ushort) (some 3))),
        ("Next", .pointer (.named "DEVICE")), ("Inner", .struct inner), ("Rest", .array .sint none)]
    db.pointerSize = 8 ∧ (∀ field ∈ fields, field.2.StandsAlone) ∧
      ∃ layout, (db.addStruct "DEVICE" fields).find? "DEVICE" = some (.struct layout) ∧
        layout.fields.map Field.byteOffset = [0, 2, 8, 16, 40] ∧ layout.size = 40 ∧
        layout.alignment = 8 := by
  intro db inner fields
  have hfields : ∀ field ∈ fields, field.2.StandsAlone := by
    simp only [fields, List.forall_mem_cons]
    exact ⟨⟨rfl, by decide⟩, ⟨rfl, by decide⟩, ⟨rfl, by decide⟩, ⟨rfl, by decide⟩,
      ⟨rfl, by decide⟩, by simp⟩
  have hpointer : db.pointerSize = 8 := rfl
  obtain ⟨-, hfound, -⟩ := addStruct_eq_addType_ofFields hpointer "DEVICE" hfields
  exact ⟨hpointer, hfields, _, hfound, by decide, by decide, by decide⟩

end TypeDatabase
end UefiTyping
