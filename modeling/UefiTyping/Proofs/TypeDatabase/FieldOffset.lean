import Mathlib.Algebra.Ring.Nat
import UefiTyping.Proofs.ListSearch
import UefiTyping.Proofs.Service.Construction
import UefiTyping.Proofs.TypeDatabase.Size

/-!
# Offsets of fields

A struct holds the offset of a field in bits, and these have 64 bits; the answer to where a field
lies counts bytes, and has 32. So it is exact for the fields that start within the first `2 ^ 32`
bytes, and wraps around for those behind them, with no error. A service table that is read from
a layout has the offset of each service from such an answer, and wraps around with it.
-/
namespace UefiTyping

/-! ## Offsets in a layout -/

namespace StructType
variable {τ : Type} {layout : StructType τ} {field : Field τ} {name : String}

/-- The field is the first of that name. -/
def IsFirst (layout : StructType τ) (name : String) (field : Field τ) : Prop :=
  ∃ before after, layout.fields = before ++ field :: after ∧ field.name = name ∧
    ∀ other ∈ before, other.name ≠ name

theorem field?_eq_some_iff : layout.field? name = some field ↔ layout.IsFirst name field :=
  find?_eq_some_iff_first fun _ => beq_iff_eq

/-- Where some field has the name, one is the first. -/
theorem exists_isFirst (h : name ∈ layout.fields.map (·.name)) :
    ∃ field, layout.IsFirst name field := by
  obtain ⟨field, hmem, hname⟩ := List.mem_map.1 h
  exact exists_first_of_mem hmem hname

end StructType

theorem toNat_ofNat_eq_iff {bytes : Nat} :
    (UInt32.ofNat bytes).toNat = bytes ↔ bytes < 2 ^ 32 := by
  rw [UInt32.toNat_ofNat']
  omega

namespace TypeDatabase
variable {db : TypeDatabase} {type : CType} {name : String} {bytes : Nat} {offset : UInt32}

/-- The field starts so many bytes into the type: where the struct has the first field of the
name, or at the start of a union. -/
inductive StartsAt (db : TypeDatabase) (type : CType) (name : String) : Nat → Prop
  | struct {layout : StructType CType} {field : Field CType} :
      db.resolve type = some (.struct layout) → layout.IsFirst name field →
        StartsAt db type name field.byteOffset
  | union {layout : UnionType CType} :
      db.resolve type = some (.union layout) → name ∈ layout.members.map (·.name) →
        StartsAt db type name 0

/-- The answer is the start of the field, in 32 bits. -/
theorem fieldOffset_of_startsAt (h : db.StartsAt type name bytes) :
    db.fieldOffset type name = .ok (UInt32.ofNat bytes) := by
  cases h with
  | struct hresolve hfirst =>
    rw [fieldOffset, hresolve]
    simp [StructType.field?_eq_some_iff.2 hfirst]
  | union hresolve hname =>
    rw [fieldOffset, hresolve]
    simpa using hname

/-- There is an answer only for a field that starts somewhere. -/
theorem exists_startsAt_of_fieldOffset (h : db.fieldOffset type name = .ok offset) :
    ∃ bytes, db.StartsAt type name bytes ∧ offset = UInt32.ofNat bytes := by
  rw [fieldOffset] at h
  split at h
  · next layout hresolve =>
    split at h
    · next field hfield =>
      obtain rfl := Except.ok.inj h
      exact ⟨_, .struct hresolve (StructType.field?_eq_some_iff.1 hfield), rfl⟩
    · cases h
  · next layout hresolve =>
    split at h
    · next hany =>
      obtain rfl := Except.ok.inj h
      exact ⟨0, .union hresolve (by simpa using hany), rfl⟩
    · cases h
  · cases h

end TypeDatabase

/-! ## Tables read from a layout -/

namespace ServiceTable
variable {db : TypeDatabase} {name : String}

/-- The descriptor is the one of the service, at where its field starts in 32 bits. -/
def Placed (db : TypeDatabase) (name : String) (spec : DescriptorSpec) (entry : CallDescriptor) :
    Prop :=
  entry = spec.at entry.tableOffset ∧ ∃ bytes, db.StartsAt (.named name) spec.field bytes ∧
    entry.tableOffset.toNat = bytes % 2 ^ 32 ∧ (entry.tableOffset.toNat = bytes ↔ bytes < 2 ^ 32)

theorem placed_of_describe {spec : DescriptorSpec} {entry : CallDescriptor}
    (h : describe db name spec = .ok entry) : Placed db name spec entry := by
  obtain ⟨offset, hoffset, hcheck⟩ := check_of_describe h
  obtain ⟨-, rfl⟩ := CallDescriptor.check_eq_ok_iff.1 hcheck
  obtain ⟨bytes, hbytes, rfl⟩ := TypeDatabase.exists_startsAt_of_fieldOffset hoffset
  exact ⟨rfl, bytes, hbytes, UInt32.toNat_ofNat', toNat_ofNat_eq_iff⟩

theorem forall₂_of_fromLayout {specs : List DescriptorSpec} {table : ServiceTable}
    (h : fromLayout db name specs = .ok table) :
    List.Forall₂ (Placed db name) specs table.entries :=
  (forall₂_describe_of_fromLayout h).imp fun _ _ => placed_of_describe

end ServiceTable

namespace TypeDatabase

/-- A field that a struct has gets an answer, which is where the first field of the name starts,
modulo `2 ^ 32` bytes: it is exact if the field starts before bit `2 ^ 35`, and only then. Every
service of a table that is read from a layout stands at such an offset. -/
theorem field_offsets_wrap (db : TypeDatabase) :
    (∀ type layout, db.resolve type = some (.struct layout) →
        ∀ name ∈ layout.fields.map (·.name), ∃ field offset, layout.IsFirst name field ∧
          db.fieldOffset type name = .ok offset ∧ offset.toNat = field.byteOffset % 2 ^ 32 ∧
          (offset.toNat = field.byteOffset ↔ field.offsetBits < 2 ^ 35)) ∧
      ∀ name specs table, ServiceTable.fromLayout db name specs = .ok table →
        List.Forall₂ (ServiceTable.Placed db name) specs table.entries := by
  refine ⟨fun type layout hresolve name hname => ?_, fun name specs table htable => ?_⟩
  · obtain ⟨field, hfirst⟩ := StructType.exists_isFirst hname
    have hoffset := fieldOffset_of_startsAt (.struct hresolve hfirst)
    refine ⟨field, _, hfirst, hoffset, UInt32.toNat_ofNat', ?_⟩
    rw [toNat_ofNat_eq_iff, Field.byteOffset]
    omega
  · exact ServiceTable.forall₂_of_fromLayout htable

/-- A service whose pointer lies `2 ^ 32` bytes behind the place `0x98` is taken to lie there. -/
theorem field_offset_four_gigabytes_off :
    let handle : Field CType := ⟨"HandleProtocol", .pointer .void, 2 ^ 35 + 8 * 0x98⟩
    let layout : StructType CType :=
      ⟨some "EFI_BOOT_SERVICES", [handle], 2 ^ 32 + 0xa0, 8, false⟩
    let db := (empty 8).addType "EFI_BOOT_SERVICES" (.struct layout)
    let type := CType.named "EFI_BOOT_SERVICES"
    db.resolve type = some (.struct layout) ∧ layout.IsFirst "HandleProtocol" handle ∧
      handle.offsetBits < 2 ^ 64 ∧ handle.byteOffset = 2 ^ 32 + 0x98 ∧
      db.fieldOffset type "HandleProtocol" = .ok 0x98 ∧
      (ServiceTable.fromLayout db "EFI_BOOT_SERVICES" [⟨"HandleProtocol", 3, 1, 2, 1⟩]).toOption =
        some ⟨"EFI_BOOT_SERVICES", [⟨"HandleProtocol", 0x98, 3, 1, 2, 1⟩], by decide⟩ := by
  intro handle layout db type
  have hresolve : db.resolve type = some (.struct layout) := rfl
  have hfirst : layout.IsFirst "HandleProtocol" handle := ⟨[], [], rfl, rfl, by simp⟩
  have hwrapped : UInt32.ofNat handle.byteOffset = 0x98 := by decide
  have hoffset := fieldOffset_of_startsAt (.struct hresolve hfirst)
  rw [hwrapped] at hoffset
  exact ⟨hresolve, hfirst, by decide, by decide, hoffset, by decide +kernel⟩

end TypeDatabase
end UefiTyping
