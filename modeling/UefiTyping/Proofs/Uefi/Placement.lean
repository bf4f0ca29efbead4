import UefiTyping.Proofs.TypeDatabase.StructLayout
import UefiTyping.Uefi.Library

/-!
# Where the fields of the service tables lie

The service tables are made of pointers, of three integers, and of structs made of these. Each
integer is placed where the bytes before it add up to a multiple of its size. So what is found
under its name may have any alignment up to that size: the field goes to the same place, and the
struct around it gets no padding for it. Where the fields lie can then be told without a database,
from the sizes alone, and every database lays them out there in which the integers have their
sizes and no greater alignments.
-/
namespace UefiTyping

/-- The type has a size and no greater alignment than a unit. -/
structure TypeDatabase.Takes (db : TypeDatabase) (type : CType) (bytes unit : Nat) : Prop where
  sizeOf_eq : db.sizeOf type = some bytes
  alignment_le : db.fieldAlignment type ≤ unit

namespace Uefi

/-- The integers that the service tables are made of, with their sizes. -/
def tableIntegers : List (String × Nat) := [("UINT32", 4), ("UINT64", 8), ("UINTN", 8)]

/-- A database of eight-byte pointers in which the integers have their sizes and no greater
alignments. -/
structure Regular (db : TypeDatabase) : Prop where
  pointerSize_eq : db.pointerSize = 8
  takes : ∀ entry ∈ tableIntegers, db.Takes (.named entry.1) entry.2 entry.2

/-! ## Placements -/

/-- Where the fields of a struct lie, and how many bytes it has. -/
structure Placement where
  name : String
  fields : List (Field CType)
  size : Nat

/-- The struct has its fields there and that many bytes, at an alignment that pointers allow. -/
structure Placement.Describes (placement : Placement) (layout : StructType CType) : Prop where
  fields_eq : layout.fields = placement.fields
  size_eq : layout.size = placement.size
  alignment_le : layout.alignment ≤ 8

/-- The database holds the structs that are described. -/
def Laid (placements : List Placement) (db : TypeDatabase) : Prop :=
  ∀ placement ∈ placements, ∃ layout, db.types[placement.name]? = some (.struct layout) ∧
    placement.Describes layout

/-- The bytes that a name takes, and a number whose multiples are places for it. -/
def width? (placements : List Placement) (name : String) : Option (Nat × Nat) :=
  match tableIntegers.find? (·.1 == name) with
  | some entry => some (entry.2, entry.2)
  | none => (placements.find? (·.name == name)).map fun placement => (placement.size, 8)

/-- Where a field of a type goes behind some bytes, and how many bytes it takes. -/
def spot? (placements : List Placement) (size : Nat) : CType → Option (Nat × Nat)
  | .pointer _ => some (alignUp size 8, 8)
  | .named name => do
    let (bytes, unit) ← width? placements name
    if unit ∣ size then some (size, bytes) else none
  | _ => none

/-- Places a field behind those that are placed. -/
def placeField (placements : List Placement) (placed : List (Field CType) × Nat)
    (field : String × CType) : Option (List (Field CType) × Nat) :=
  (spot? placements placed.2 field.2).map fun (offset, bytes) =>
    (placed.1 ++ [⟨field.1, field.2, 8 * offset⟩], offset + bytes)

/-- Places the fields of a struct that needs no padding at its end. -/
def place? (placements : List Placement) (name : String) (fields : List (String × CType)) :
    Option Placement := do
  let (placed, size) ← fields.foldlM (placeField placements) ([], 0)
  if 8 ∣ size then some ⟨name, placed, size⟩ else none

/-! ## Layouts at the placements -/

section Layout
variable {db : TypeDatabase} {placements : List Placement}

theorem isPowerOfTwo_of_mem_tableIntegers :
    ∀ entry ∈ tableIntegers, entry.2.isPowerOfTwo ∧ entry.2 ≤ 8 := by
  decide

/-- A name takes its width. -/
theorem takes_of_width? (hregular : Regular db) (hlaid : Laid placements db) {name : String}
    {bytes unit : Nat} (h : width? placements name = some (bytes, unit)) :
    db.Takes (.named name) bytes unit ∧ unit.isPowerOfTwo ∧ unit ≤ 8 := by
  rw [width?] at h
  cases hinteger : tableIntegers.find? (·.1 == name) with
  | some entry =>
    rw [hinteger] at h
    obtain ⟨rfl, rfl⟩ := Prod.mk.inj (Option.some.inj h)
    have hmem := List.mem_of_find?_eq_some hinteger
    obtain rfl : entry.1 = name := by simpa using List.find?_some hinteger
    exact ⟨hregular.takes entry hmem, isPowerOfTwo_of_mem_tableIntegers entry hmem⟩
  | none =>
    rw [hinteger] at h
    obtain ⟨placement, hfound, hwidth⟩ := Option.map_eq_some_iff.1 h
    obtain ⟨rfl, rfl⟩ := Prod.mk.inj hwidth
    obtain rfl : placement.name = name := by simpa using List.find?_some hfound
    obtain ⟨layout, hlayout, hdescribes⟩ := hlaid placement (List.mem_of_find?_eq_some hfound)
    have hresolve := TypeDatabase.resolve_named (TypeDatabase.find?_of_types hlayout) rfl
    refine ⟨⟨?_, ?_⟩, by decide, Nat.le_refl 8⟩
    · rw [TypeDatabase.sizeOf_of_isBlock hresolve rfl, ← hdescribes.size_eq, CType.size]
    · rw [TypeDatabase.fieldAlignment, TypeDatabase.alignmentOf_of_isBlock hresolve rfl,
        CType.alignment]
      exact Nat.max_le.2 ⟨hdescribes.alignment_le, by decide⟩

/-- A field goes to its spot. -/
theorem spot_of_spot? (hregular : Regular db) (hlaid : Laid placements db) {type : CType}
    {size offset bytes : Nat} (h : spot? placements size type = some (offset, bytes)) :
    (db.sizeOf type).getD 0 = bytes ∧ alignUp size (db.fieldAlignment type) = offset ∧
      db.fieldAlignment type ≤ 8 := by
  cases type with
  | pointer target =>
    obtain ⟨rfl, rfl⟩ := Prod.mk.inj (Option.some.inj h)
    simp [TypeDatabase.fieldAlignment, TypeDatabase.sizeOf_pointer,
      TypeDatabase.alignmentOf_pointer, hregular.pointerSize_eq]
  | named name =>
    obtain ⟨⟨bytes', unit⟩, hwidth, hspot⟩ := Option.bind_eq_some_iff.1 h
    obtain ⟨hdvd, hsame⟩ := Option.ite_none_right_eq_some.1 hspot
    obtain ⟨rfl, rfl⟩ := Prod.mk.inj (Option.some.inj hsame)
    obtain ⟨htakes, hunit, hle⟩ := takes_of_width? hregular hlaid hwidth
    have hpos : 0 < db.fieldAlignment (.named name) := Nat.le_max_right _ 1
    refine ⟨by rw [htakes.sizeOf_eq]; rfl, ?_, htakes.alignment_le.trans hle⟩
    exact alignUp_of_dvd hunit hdvd hpos htakes.alignment_le
  | void | int | float | array | struct | union | enum | function | synonym => cases h

/-- A struct in the middle of being laid out has its fields where they were placed. -/
structure Follows (placed : List (Field CType) × Nat) (layout : StructType CType) : Prop where
  fields_eq : layout.fields = placed.1
  size_eq : layout.size = placed.2
  packed_eq : layout.packed = false
  alignment_le : layout.alignment ≤ 8

variable {layout : StructType CType} {placed placed' : List (Field CType) × Nat}

theorem Follows.addField (hregular : Regular db) (hlaid : Laid placements db)
    (h : Follows placed layout) {field : String × CType}
    (hplace : placeField placements placed field = some placed') :
    Follows placed' (db.addField layout field) := by
  obtain ⟨⟨offset, bytes⟩, hspot, rfl⟩ := Option.map_eq_some_iff.1 hplace
  obtain ⟨hbytes, hoffset, hle⟩ := spot_of_spot? hregular hlaid hspot
  have hnext : layout.nextOffset (db.fieldAlignment field.2) = offset := by
    rw [StructType.nextOffset, h.packed_eq, if_neg Bool.false_ne_true, h.size_eq, hoffset]
  have hadded : db.addField layout field =
      { layout with
        fields := layout.fields ++ [⟨field.1, field.2, 8 * offset⟩]
        size := offset + bytes
        alignment := max layout.alignment (db.fieldAlignment field.2) } := by
    rw [TypeDatabase.addField, StructType.addSized, hbytes, ← hnext]
    rfl
  rw [hadded]
  exact ⟨by rw [h.fields_eq], rfl, h.packed_eq, Nat.max_le.2 ⟨h.alignment_le, hle⟩⟩

theorem Follows.addFields (hregular : Regular db) (hlaid : Laid placements db)
    (h : Follows placed layout) {fields : List (String × CType)}
    (hplace : fields.foldlM (placeField placements) placed = some placed') :
    Follows placed' (fields.foldl db.addField layout) := by
  induction fields generalizing placed layout with
  | nil =>
    obtain rfl := Option.some.inj hplace
    exact h
  | cons field fields ih =>
    rw [List.foldlM_cons] at hplace
    obtain ⟨next, hnext, hrest⟩ := Option.bind_eq_some_iff.1 hplace
    exact ih (h.addField hregular hlaid hnext) hrest

/-- A size that is a multiple of eight is not padded. -/
theorem Follows.finish (h : Follows placed layout) (hdvd : 8 ∣ placed.2) :
    layout.finish.fields = placed.1 ∧ layout.finish.size = placed.2 ∧
      layout.finish.alignment ≤ 8 := by
  rw [StructType.finish]
  split
  · next hguard =>
    refine ⟨h.fields_eq, ?_, h.alignment_le⟩
    have hpos : 0 < layout.alignment := Nat.lt_of_succ_lt hguard.2
    exact h.size_eq ▸ alignUp_of_dvd (by decide) (h.size_eq ▸ hdvd) hpos h.alignment_le
  · exact ⟨h.fields_eq, h.size_eq, h.alignment_le⟩

/-- A struct that can be placed is laid out at its placement. -/
theorem describes_layOut (hregular : Regular db) (hlaid : Laid placements db) {name : String}
    {fields : List (String × CType)} {placement : Placement}
    (h : place? placements name fields = some placement) :
    placement.name = name ∧ placement.Describes (db.layOut name fields) := by
  obtain ⟨⟨placed, size⟩, hplaced, hsize⟩ := Option.bind_eq_some_iff.1 h
  obtain ⟨hdvd, hsame⟩ := Option.ite_none_right_eq_some.1 hsize
  obtain rfl := Option.some.inj hsame
  have hempty : Follows ([], 0) (StructType.empty (some name) : StructType CType) :=
    ⟨rfl, rfl, rfl, (by decide : 1 ≤ 8)⟩
  obtain ⟨hfields, hsize, halignment⟩ :=
    (hempty.addFields hregular hlaid hplaced).finish hdvd
  exact ⟨rfl, hfields, hsize, halignment⟩

end Layout

end Uefi
end UefiTyping
