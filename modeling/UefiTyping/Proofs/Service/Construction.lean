import Mathlib.Data.List.Forall2
import UefiTyping.Service.Table

/-!
# How descriptors come to be

A descriptor is written into a fixed catalog, checked, or described from the layout of its table.
Each of these refuses a descriptor with an index behind the arguments, so every descriptor that
comes to be is well formed.
-/
namespace UefiTyping

/-- A traversal that succeeds does so one by one. -/
theorem forall₂_of_mapM_eq_ok {α β ε : Type} {f : α → Except ε β} {items : List α}
    {results : List β} (h : items.mapM f = .ok results) :
    List.Forall₂ (fun item result => f item = .ok result) items results := by
  have hresults : List.Forall₂ Eq (items.map f) (results.map .ok) :=
    List.forall₂_eq_eq_eq ▸ map_eq_of_mapM_eq_ok h
  rw [List.forall₂_map_left_iff, List.forall₂_map_right_iff] at hresults
  exact hresults

namespace ServiceTable
variable {db : TypeDatabase} {name : String} {specs : List DescriptorSpec}

/-- The entries of a table read from a layout are the descriptions one by one. -/
theorem forall₂_describe_of_fromLayout {table : ServiceTable}
    (h : fromLayout db name specs = .ok table) :
    List.Forall₂ (fun spec entry => describe db name spec = .ok entry) specs table.entries :=
  forall₂_of_mapM_eq_ok (mapM_of_ofItems h).2

/-- Every entry of a table read from a layout is a description. -/
theorem exists_describe_of_mem {table : ServiceTable} (h : fromLayout db name specs = .ok table)
    {entry : CallDescriptor} (hmem : entry ∈ table.entries) :
    ∃ spec ∈ specs, describe db name spec = .ok entry :=
  exists_of_mem_mapM (mapM_of_ofItems h).2 hmem

end ServiceTable

namespace CallDescriptor

/-- The ways in which a descriptor comes to be. -/
inductive Constructed : CallDescriptor → Prop
  /-- It is written into a fixed catalog, which is valid. -/
  | ofCatalog {written descriptor : CallDescriptor} :
      written.ofCatalog = .ok descriptor → Constructed descriptor
  /-- It is checked. -/
  | check {written descriptor : CallDescriptor} :
      written.check = .ok descriptor → Constructed descriptor
  /-- It is an entry of a table read from a layout. -/
  | fromLayout {db : TypeDatabase} {name : String} {specs : List DescriptorSpec}
      {table : ServiceTable} {descriptor : CallDescriptor} :
      ServiceTable.fromLayout db name specs = .ok table → descriptor ∈ table.entries →
        Constructed descriptor

/-- Both indices of a descriptor that comes to be are indices of arguments. -/
theorem Constructed.wellFormed {descriptor : CallDescriptor} (h : Constructed descriptor) :
    descriptor.WellFormed := by
  cases h with
  | ofCatalog h => exact wellFormed_of_ofCatalog h
  | check h => exact wellFormed_of_check h
  | fromLayout htable hmem =>
    obtain ⟨spec, -, hdescribe⟩ := ServiceTable.exists_describe_of_mem htable hmem
    exact ServiceTable.wellFormed_of_describe hdescribe

end CallDescriptor

/-- The descriptors of the fixed catalogs come to be. -/
theorem ServiceTableKind.constructed_of_mem_catalog (kind : ServiceTableKind) :
    ∀ descriptor ∈ kind.catalog.entries, descriptor.Constructed := fun descriptor hmem =>
  .ofCatalog (CallDescriptor.ofCatalog_eq_ok_iff.2 ⟨kind.catalog.wellFormed descriptor hmem, rfl⟩)

end UefiTyping
