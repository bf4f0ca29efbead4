import UefiTyping.TypeDatabase.FieldOffset

/-!
# Service descriptors

A descriptor says where the function pointer of a protocol-returning service sits in its
table, how many arguments the service takes, and which of them are the GUID and the
place for the interface pointer. It is well formed when both of these are arguments.
-/
namespace UefiTyping

/-- Why a descriptor was refused. -/
inductive CatalogError
  | indexOutOfRange (service : String) (index argCount : Nat)
  | layout (error : LayoutError)
deriving DecidableEq, Repr

/-- The text of a catalog error. -/
def CatalogError.message : CatalogError → String
  | .indexOutOfRange service index argCount =>
    service ++ ": argument index " ++ toString index ++ " out of range for " ++ toString argCount
      ++ " arguments"
  | .layout error => error.message

/-- The two arguments of a service that matter here. -/
inductive ArgumentRole
  | guid
  | interface
deriving DecidableEq, Repr

/-- What is said of an argument whose index is out of range. -/
def ArgumentRole.complaint : ArgumentRole → String
  | .guid => "GUID argument index out of range"
  | .interface => "interface argument index out of range"

/-- One service that hands out a protocol interface. -/
structure CallDescriptor where
  name : String
  /-- Offset of the function pointer in the service table, in bytes. -/
  tableOffset : UInt32
  argCount : Nat
  guidIndex : Nat
  interfaceIndex : Nat
  /-- Pointer levels between an array that receives the interface and the interface. -/
  pointerDepth : Nat
deriving DecidableEq, Repr

namespace CallDescriptor

/-- Both indices are indices of arguments. -/
def WellFormed (descriptor : CallDescriptor) : Prop :=
  descriptor.guidIndex < descriptor.argCount ∧ descriptor.interfaceIndex < descriptor.argCount

instance (descriptor : CallDescriptor) : Decidable descriptor.WellFormed :=
  inferInstanceAs (Decidable (_ ∧ _))

/-- The first argument whose index is out of range, with that index. -/
def misplaced? (descriptor : CallDescriptor) : Option (ArgumentRole × Nat) :=
  if descriptor.argCount ≤ descriptor.guidIndex then some (.guid, descriptor.guidIndex)
  else if descriptor.argCount ≤ descriptor.interfaceIndex then
    some (.interface, descriptor.interfaceIndex)
  else none

theorem misplaced?_eq_none_iff (descriptor : CallDescriptor) :
    descriptor.misplaced? = none ↔ descriptor.WellFormed := by
  unfold misplaced? WellFormed
  split
  · simp; omega
  · split <;> simp <;> omega

/-- The descriptor, unless an index is out of range. -/
def check (descriptor : CallDescriptor) : Except CatalogError CallDescriptor :=
  match descriptor.misplaced? with
  | some (_, index) => .error (.indexOutOfRange descriptor.name index descriptor.argCount)
  | none => .ok descriptor

theorem check_eq_ok_iff {descriptor checked : CallDescriptor} :
    descriptor.check = .ok checked ↔ descriptor.WellFormed ∧ descriptor = checked := by
  rw [check, ← misplaced?_eq_none_iff]
  cases descriptor.misplaced? <;> simp

theorem wellFormed_of_check {descriptor checked : CallDescriptor}
    (h : descriptor.check = .ok checked) : checked.WellFormed := by
  obtain ⟨hformed, rfl⟩ := check_eq_ok_iff.1 h
  exact hformed

/-- The descriptor of a fixed catalog, or the argument that makes the catalog invalid. -/
def ofCatalog (descriptor : CallDescriptor) : Except ArgumentRole CallDescriptor :=
  match descriptor.misplaced? with
  | some (role, _) => .error role
  | none => .ok descriptor

theorem ofCatalog_eq_ok_iff {descriptor entry : CallDescriptor} :
    descriptor.ofCatalog = .ok entry ↔ descriptor.WellFormed ∧ descriptor = entry := by
  rw [ofCatalog, ← misplaced?_eq_none_iff]
  cases descriptor.misplaced? <;> simp

theorem wellFormed_of_ofCatalog {descriptor entry : CallDescriptor}
    (h : descriptor.ofCatalog = .ok entry) : entry.WellFormed := by
  obtain ⟨hformed, rfl⟩ := ofCatalog_eq_ok_iff.1 h
  exact hformed

end CallDescriptor

/-- A descriptor whose offset is yet to be read from the layout of the table. -/
structure DescriptorSpec where
  /-- The field of the table that holds the function pointer. -/
  field : String
  argCount : Nat
  guidIndex : Nat
  interfaceIndex : Nat
  pointerDepth : Nat
deriving DecidableEq, Repr

/-- The descriptor at an offset. -/
def DescriptorSpec.at (spec : DescriptorSpec) (tableOffset : UInt32) : CallDescriptor :=
  ⟨spec.field, tableOffset, spec.argCount, spec.guidIndex, spec.interfaceIndex, spec.pointerDepth⟩

end UefiTyping
