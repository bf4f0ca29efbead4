import Mathlib.Algebra.Ring.Nat
import UefiTyping.Proofs.CType.CLayout
import UefiTyping.Proofs.TypeDatabase.ArrayElements

/-!
# Structs of a database and arrays of structs

A struct that a database lays out has the layout of C for the sizes and alignments that the
database gives its fields, names looked through. Laying it out returns as long as measuring
each of its fields does.

The elements of an array follow one another at the size of the element, so they stay aligned
as long as that size is a multiple of the alignment. The padding of a struct sees to it. A
packed struct has no padding, yet it still has the greatest alignment of its fields, so the
elements of an array of it stay aligned only when the sizes of its fields happen to sum up to a
multiple of that alignment.
-/
namespace UefiTyping

open Std (ExtTreeMap)

/-! ## Structs of a database -/

namespace TypeDatabase
variable (db : TypeDatabase)

/-- The bytes that a type takes as a field, none when the database gives it no size. -/
def fieldSize (type : CType) : Nat := (db.sizeOf type).getD 0

/-- The alignment of a type as a field. One that is missing or zero counts as one. -/
def fieldAlignment (type : CType) : Nat := max ((db.alignmentOf type).getD 1) 1

theorem isCLayout_layOut (name : String) {fields : List (String × CType)}
    (hpow : ∀ field ∈ fields, (db.fieldAlignment field.2).isPowerOfTwo) :
    (db.layOut name fields).IsCLayout db.fieldSize db.fieldAlignment fields := by
  have hempty : (StructType.empty (some name) : StructType CType).IsOpen db.fieldSize
      db.fieldAlignment [] := StructType.isOpen_empty _
  have hopen := hempty.foldl_addSized (fun type => (db.alignmentOf type).getD 1)
    fun field hfield => ⟨rfl, hpow field hfield⟩
  exact hopen.finish hpow

theorem find?_addStruct (name : String) (fields : List (String × CType)) :
    (db.addStruct name fields).find? name = some (.struct (db.layOut name fields)) :=
  find?_of_types ExtTreeMap.getElem?_insert_self

/-- Laying fields out behind those of a layout returns with the finished layout: measuring each
field type returns, and the field is added with what comes out. -/
inductive LaysOut : StructType CType → List (String × CType) → StructType CType → Prop
  | done (layout : StructType CType) : LaysOut layout [] layout.finish
  | field {layout result : StructType CType} {name : String} {type : CType}
      {size alignment : Option Nat} {fields : List (String × CType)} :
      db.Returns db.sizeFrom type size → db.Returns db.alignmentFrom type alignment →
        LaysOut (layout.addSized name type (size.getD 0) (alignment.getD 1)) fields result →
          LaysOut layout ((name, type) :: fields) result

variable {db} in
/-- Laying out returns exactly if each field type has a finite chain of elements. -/
theorem laysOut_iff {layout result : StructType CType} {fields : List (String × CType)} :
    db.LaysOut layout fields result ↔
      (∀ field ∈ fields, db.Ends field.2) ∧ result = (fields.foldl db.addField layout).finish := by
  constructor
  · intro h
    induction h with
    | done layout => exact ⟨fun _ hfield => absurd hfield List.not_mem_nil, rfl⟩
    | field hsize halignment _ ih =>
      obtain ⟨hends, rfl⟩ := (returns_iff db.sizeOf_eq_sizeFrom).1 hsize
      obtain ⟨-, rfl⟩ := (returns_iff db.alignmentOf_eq_alignmentFrom).1 halignment
      obtain ⟨hrest, rfl⟩ := ih
      exact ⟨List.forall_mem_cons.2 ⟨hends, hrest⟩, rfl⟩
  · rintro ⟨hends, rfl⟩
    induction fields generalizing layout with
    | nil => exact .done layout
    | cons field fields ih =>
      obtain ⟨hfield, hfields⟩ := List.forall_mem_cons.1 hends
      exact .field ((returns_iff db.sizeOf_eq_sizeFrom).2 ⟨hfield, rfl⟩)
        ((returns_iff db.alignmentOf_eq_alignmentFrom).2 ⟨hfield, rfl⟩) (ih hfields)

/-- A struct is registered with the layout of C: its fields in order at the least multiples of
their alignments, the greatest alignment, and the size padded to it. So its fields are aligned,
and each ends before every later one starts. Laying it out returns, with this layout, exactly if
the chain of elements of each field type is finite. -/
theorem addStruct_isCLayout (name : String) {fields : List (String × CType)}
    (hpow : ∀ field ∈ fields, (db.fieldAlignment field.2).isPowerOfTwo) :
    ∃ layout : StructType CType,
      (db.addStruct name fields).find? name = some (.struct layout) ∧
        layout.IsCLayout db.fieldSize db.fieldAlignment fields ∧
        (∀ field ∈ layout.fields, db.fieldAlignment field.type ∣ field.byteOffset) ∧
        (layout.fields.Pairwise fun previous field =>
          previous.byteOffset + db.fieldSize previous.type ≤ field.byteOffset) ∧
        ∀ result, db.LaysOut (.empty (some name)) fields result ↔
          (∀ field ∈ fields, db.Ends field.2) ∧ result = layout := by
  have hlayout := db.isCLayout_layOut name hpow
  exact ⟨db.layOut name fields, db.find?_addStruct name fields, hlayout, hlayout.aligned,
    hlayout.disjoint, fun _ => laysOut_iff⟩

/-- A handle of four bytes between parts of one byte, in a 32-bit database. -/
theorem addStruct_isCLayout_device :
    let db := (empty 4).addSynonym "EFI_HANDLE" .voidPointer
    let fields : List (String × CType) :=
      [("Kind", .uchar), ("Parent", .named "EFI_HANDLE"), ("Name", .array .uchar (some 3))]
    (∀ field ∈ fields, (db.fieldAlignment field.2).isPowerOfTwo) ∧
      ∃ layout, (db.addStruct "DEVICE" fields).find? "DEVICE" = some (.struct layout) ∧
        layout.IsCLayout db.fieldSize db.fieldAlignment fields ∧
        db.LaysOut (.empty (some "DEVICE")) fields layout ∧
        layout.fields.map Field.byteOffset = [0, 4, 8] ∧ layout.size = 12 ∧
        layout.alignment = 4 := by
  intro db fields
  have hpow : ∀ field ∈ fields, (db.fieldAlignment field.2).isPowerOfTwo := by decide
  have hends : ∀ field ∈ fields, db.Ends field.2 := by
    simp only [fields, List.forall_mem_cons]
    exact ⟨⟨1, rfl⟩, ⟨1, rfl⟩, ⟨2, rfl⟩, by simp⟩
  obtain ⟨layout, hfound, hlayout, -, -, hreturns⟩ := db.addStruct_isCLayout "DEVICE" hpow
  have hsame : layout = db.layOut "DEVICE" fields := by
    rw [find?_addStruct] at hfound
    exact (CType.struct.inj (Option.some.inj hfound)).symm
  refine ⟨hpow, layout, hfound, hlayout, (hreturns layout).2 ⟨hends, rfl⟩, ?_⟩
  rw [hsame]
  exact ⟨by decide, by decide, by decide⟩

/-- An array of a struct has its elements at the size of the struct, and its alignment. -/
theorem measures_array (layout : StructType CType) (length : Nat) :
    db.sizeOf (.array (.struct layout) (some length)) = some (layout.size * length) ∧
      db.alignmentOf (.array (.struct layout) (some length)) = some layout.alignment :=
  ⟨rfl, rfl⟩

end TypeDatabase

/-! ## Arrays of a struct -/

namespace StructType
variable {layout : StructType CType} {fields : List (String × CType)}

/-- The struct with fields added that have their own sizes and alignments. -/
def addAll (layout : StructType CType) (fields : List (String × CType)) : StructType CType :=
  fields.foldl (fun layout field => layout.add field.1 field.2) layout

/-- The finished struct of such fields, packed or padded. -/
def ofFields (tag : Option String) (packed : Bool) (fields : List (String × CType)) :
    StructType CType :=
  (addAll { StructType.empty tag with packed } fields).finish

theorem isCLayout_ofFields (tag : Option String)
    (hpow : ∀ field ∈ fields, field.2.partAlignment.isPowerOfTwo) :
    (ofFields tag false fields).IsCLayout CType.partSize CType.partAlignment fields := by
  have hempty : (StructType.empty tag : StructType CType).IsOpen CType.partSize
      CType.partAlignment [] := isOpen_empty tag
  have hopen : (addAll (.empty tag) fields).IsOpen CType.partSize CType.partAlignment fields :=
    hempty.foldl_addSized (fun type => type.alignment.getD 1)
      fun field hfield => ⟨rfl, hpow field hfield⟩
  exact hopen.finish hpow

/-- In a packed struct fields follow one another without padding. -/
theorem addAll_of_packed (h : layout.packed = true) (fields : List (String × CType)) :
    (layout.addAll fields).packed = true ∧
      (layout.addAll fields).size = layout.size + (fields.map (·.2.partSize)).sum := by
  induction fields generalizing layout with
  | nil => exact ⟨h, rfl⟩
  | cons field fields ih =>
    have hadded : (layout.add field.1 field.2).size = layout.size + field.2.partSize := by
      rw [add, addSized, nextOffset, if_pos h]
      rfl
    have hstill : (layout.add field.1 field.2).packed = true := h
    obtain ⟨hpacked, hsize⟩ := ih hstill
    refine ⟨hpacked, hsize.trans ?_⟩
    rw [hadded, List.map_cons, List.sum_cons, Nat.add_assoc]

/-- Packed or not, the struct has the greatest alignment of its fields. -/
theorem isGreatest_alignment_addAll
    (h : IsGreatest (partAlignments CType.partAlignment []) layout.alignment)
    (fields : List (String × CType)) :
    IsGreatest (partAlignments CType.partAlignment fields) (layout.addAll fields).alignment := by
  let Greatest (added : List (String × CType)) (layout : StructType CType) : Prop :=
    IsGreatest (partAlignments CType.partAlignment added) layout.alignment
  exact foldl_parts (motive := Greatest)
    (fun _ _ field _ hgreatest => isGreatest_partAlignments_append hgreatest field) h

/-- A packed struct is as large as its fields together, and has the greatest of their
alignments. -/
theorem ofFields_packed (tag : Option String) (fields : List (String × CType)) :
    (ofFields tag true fields).size = (fields.map (·.2.partSize)).sum ∧
      IsGreatest (partAlignments CType.partAlignment fields)
        (ofFields tag true fields).alignment := by
  let start : StructType CType := { StructType.empty tag with packed := true }
  have hstart : start.packed = true := rfl
  have halignment : IsGreatest (partAlignments CType.partAlignment []) start.alignment :=
    partAlignments_nil
  obtain ⟨hpacked, hsize⟩ := addAll_of_packed hstart fields
  rw [ofFields, finish, if_neg fun hguard => Bool.false_ne_true (hguard.1.symm.trans hpacked)]
  exact ⟨hsize.trans (Nat.zero_add _), isGreatest_alignment_addAll halignment fields⟩

/-- The elements of an array of a padded struct are aligned. Those of an array of a packed one
are exactly if the sizes of its fields sum up to a multiple of the greatest alignment among
them. -/
theorem ofFields_strides_aligned (tag : Option String) (packed : Bool)
    (hpow : ∀ field ∈ fields, field.2.partAlignment.isPowerOfTwo) :
    let layout := ofFields tag packed fields
    let total := (fields.map (·.2.partSize)).sum
    (∀ (db : TypeDatabase) (length : Nat),
        let array := CType.array (.struct layout) (some length)
        (array.size = some (layout.size * length) ∧ array.alignment = some layout.alignment) ∧
          db.sizeOf array = some (layout.size * length) ∧
          db.alignmentOf array = some layout.alignment) ∧
      IsGreatest (partAlignments CType.partAlignment fields) layout.alignment ∧
      (packed = false → ∀ index, layout.alignment ∣ index * layout.size) ∧
      (packed = true → layout.size = total ∧
        ((∀ index, layout.alignment ∣ index * layout.size) ↔ layout.alignment ∣ total)) := by
  intro layout total
  refine ⟨fun db length => ⟨⟨rfl, rfl⟩, db.measures_array layout length⟩, ?_⟩
  cases packed with
  | false =>
    have hlayout := isCLayout_ofFields tag hpow
    refine ⟨hlayout.alignment_isGreatest, fun _ index => ?_, fun h => absurd h Bool.false_ne_true⟩
    exact Nat.dvd_mul_left_of_dvd hlayout.size_isLeast.1.2 index
  | true =>
    obtain ⟨hsize, halignment⟩ := ofFields_packed tag fields
    have htotal : layout.size = total := hsize
    refine ⟨halignment, fun h => absurd h.symm Bool.false_ne_true, fun _ => ⟨htotal, ?_⟩⟩
    rw [htotal]
    constructor
    · intro haligned
      have hsecond := haligned 1
      rwa [Nat.one_mul] at hsecond
    · exact Nat.dvd_mul_left_of_dvd

/-- An integer between two characters, padded to three times its size. -/
theorem ofFields_strides_aligned_record :
    let fields : List (String × CType) := [("kind", .char), ("value", .sint), ("last", .char)]
    let layout := ofFields (some "RECORD") false fields
    (∀ field ∈ fields, field.2.partAlignment.isPowerOfTwo) ∧ layout.size = 12 ∧
      layout.alignment = 4 ∧ ∀ index, layout.alignment ∣ index * layout.size := by
  intro fields layout
  have hpow : ∀ field ∈ fields, field.2.partAlignment.isPowerOfTwo := by decide
  obtain ⟨-, -, hpadded, -⟩ := ofFields_strides_aligned (some "RECORD") false hpow
  exact ⟨hpow, by decide, by decide, hpadded rfl⟩

/-- A packed struct of a character and an integer has five bytes and the alignment of the
integer, so that the second element of an array of it is not aligned. -/
theorem packed_record_misaligned :
    let fields : List (String × CType) := [("kind", .char), ("value", .sint)]
    let layout := ofFields (some "RECORD") true fields
    (∀ field ∈ fields, field.2.partAlignment.isPowerOfTwo) ∧
      (CType.struct layout).size = some 5 ∧ (CType.struct layout).alignment = some 4 ∧
      ¬ layout.alignment ∣ layout.size := by
  decide

end StructType
end UefiTyping
