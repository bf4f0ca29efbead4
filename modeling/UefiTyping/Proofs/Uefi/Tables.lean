import UefiTyping.Proofs.Uefi.Loading
import UefiTyping.Proofs.Uefi.Placement
import UefiTyping.Service.Registry

/-!
# Layouts of the service tables

The library lays its tables out with what the database holds, and a name may stand for a type
that was registered before. Pointers and structs of the library are safe from that: a pointer
has the pointer size, and a struct takes the place of any type of its name. What is left are the
integers that the tables are made of, for a typedef does not take the place of a type. If a type
has one of their names, it has to have the size of the integer and no greater alignment, and to
keep them while the library registers its structs. Then the offsets of the tables are those of the
fixed catalogs.
-/
namespace UefiTyping

open Std (ExtTreeMap)

namespace Uefi

/-! ## Integers of the tables -/

/-- The structs that are laid out before the SMM system table. -/
def earlierStructs : List Definition := structs.take 5

/-- What is found under a name can stand for an integer of the tables: it has the size of the
integer and no greater alignment, and measuring it comes to none of the structs that are
registered before the tables are complete. -/
structure StandsFor (db : TypeDatabase) (name : String) (size : Nat) : Prop where
  sizeOf_eq : db.sizeOf (.named name) = some size
  alignment_le : db.fieldAlignment (.named name) ≤ size
  unaffected : ∀ definition ∈ earlierStructs, ¬ db.ComesTo (.named name) definition.name

/-- A database that holds the same as another one, but for the structs that are laid out before
the SMM system table. -/
structure Extends (db later : TypeDatabase) : Prop where
  pointerSize_eq : later.pointerSize = db.pointerSize
  find?_eq : ∀ name, (∀ definition ∈ earlierStructs, definition.name ≠ name) →
    later.find? name = db.find? name

theorem Extends.refl (db : TypeDatabase) : Extends db db := ⟨rfl, fun _ _ => rfl⟩

theorem earlierStructs_eq : ∀ definition ∈ earlierStructs,
    ' ' ∉ definition.name.toList ∧ (definition.target? definition.name).isNone = true := by
  decide

theorem Extends.load {db later : TypeDatabase} (h : Extends db later) {definition : Definition}
    (hdefinition : definition ∈ earlierStructs) : Extends db (definition.load later) := by
  refine ⟨definition.pointerSize_load.trans h.pointerSize_eq, fun name hname => ?_⟩
  rw [← h.find?_eq name hname]
  obtain ⟨hblank, hstruct⟩ := earlierStructs_eq definition hdefinition
  cases definition with
  | synonym made target => simp [Definition.target?, Definition.name] at hstruct
  | struct made fields =>
    exact TypeDatabase.find?_addType_of_ne hblank (hname _ hdefinition) _

/-- What can stand for the integers does so after structs are registered. -/
theorem Extends.regular {db later : TypeDatabase} (h : Extends db later)
    (hpointer : db.pointerSize = 8)
    (hstands : ∀ entry ∈ tableIntegers, StandsFor db entry.1 entry.2) : Regular later := by
  refine ⟨h.pointerSize_eq.trans hpointer, fun entry hentry => ?_⟩
  have hentryStands := hstands entry hentry
  have hcovers : db.Covers later (.named entry.1) := fun name hname =>
    h.find?_eq name fun definition hdefinition hsame =>
      hentryStands.unaffected definition hdefinition (hsame ▸ hname)
  obtain ⟨hsize, halignment⟩ := hcovers.measures_eq
    (TypeDatabase.ends_of_sizeOf hentryStands.sizeOf_eq) h.pointerSize_eq
  refine ⟨hsize.trans hentryStands.sizeOf_eq, ?_⟩
  rw [TypeDatabase.fieldAlignment, halignment]
  exact hentryStands.alignment_le

/-- The library gives each integer a typedef of its size. None of the structs has its name. -/
theorem typedefs_tableIntegers {entry : String × Nat} (hentry : entry ∈ tableIntegers) :
    target? entry.1 (typedefs 8) = some (.int entry.2 false) ∧
      ∀ definition ∈ earlierStructs, definition.name ≠ entry.1 := by
  have hnames : ∀ entry ∈ tableIntegers, ∀ definition ∈ earlierStructs,
      definition.name ≠ entry.1 := by decide
  refine ⟨?_, hnames entry hentry⟩
  simp only [tableIntegers, List.mem_cons, List.not_mem_nil, or_false] at hentry
  rcases hentry with rfl | rfl | rfl
  all_goals rfl

/-- With the typedefs in place each integer stands for itself, unless a type has its name. -/
theorem standsFor_withTypedefs {db : TypeDatabase} (hpointer : db.pointerSize = 8)
    {entry : String × Nat} (hentry : entry ∈ tableIntegers)
    (hnone : db.types[entry.1]? = none) : StandsFor (withTypedefs db) entry.1 entry.2 := by
  obtain ⟨htarget, hnames⟩ := typedefs_tableIntegers hentry
  have hfound := find?_withTypedefs hnone (hpointer.symm ▸ htarget)
  have hresolve := TypeDatabase.resolve_named hfound rfl
  have hpositive := (isPowerOfTwo_of_mem_tableIntegers entry hentry).1
  refine ⟨TypeDatabase.sizeOf_of_isBlock hresolve rfl, ?_, fun definition hdefinition hcomes => ?_⟩
  · rw [TypeDatabase.fieldAlignment, TypeDatabase.alignmentOf_of_isBlock hresolve rfl]
    exact Nat.max_le.2 ⟨Nat.min_le_left _ _, Nat.pos_of_isPowerOfTwo hpositive⟩
  · rcases TypeDatabase.comesTo_named_iff.1 hcomes with hsame | ⟨type, htype, hinner⟩
    · exact hnames definition hdefinition hsame
    · obtain rfl := Option.some.inj (htype.symm.trans hfound)
      exact TypeDatabase.not_comesTo_of_isBlock rfl hinner

/-! ## Structs of the tables -/

/-- The structs that are described after a definition. -/
def placeNext (placements : List Placement) : Definition → List Placement
  | .synonym .. => placements
  | .struct name fields =>
    (place? placements name fields).toList ++ placements.filter (·.name ≠ name)

/-- In a regular database a definition lays out what can be placed, and leaves the other structs
as they are. -/
theorem Laid.load {db : TypeDatabase} {placements : List Placement} (h : Laid placements db)
    (hregular : Regular db) (definition : Definition) :
    Laid (placeNext placements definition) (definition.load db) := by
  cases definition with
  | synonym => exact h
  | struct made fields =>
    intro placement hplacement
    rcases List.mem_append.1 hplacement with hnew | hold
    · obtain ⟨rfl, hdescribes⟩ := describes_layOut hregular h (Option.mem_toList.1 hnew)
      exact ⟨_, ExtTreeMap.getElem?_insert_self, hdescribes⟩
    · obtain ⟨hmem, hname⟩ := List.mem_filter.1 hold
      obtain ⟨layout, hlayout, hdescribes⟩ := h placement hmem
      have hother : (Definition.struct made fields).name ≠ placement.name :=
        Ne.symm (of_decide_eq_true hname)
      exact ⟨layout, (Definition.types_load hother).trans hlayout, hdescribes⟩

/-- The structs before the SMM system table are laid out one after another. -/
theorem Extends.laid {db later : TypeDatabase} {placements : List Placement}
    (h : Extends db later) (hpointer : db.pointerSize = 8)
    (hstands : ∀ entry ∈ tableIntegers, StandsFor db entry.1 entry.2)
    (hlaid : Laid placements later) {definitions : List Definition}
    (hsub : definitions ⊆ earlierStructs) :
    Extends db (definitions.foldl Definition.load later) ∧
      Laid (definitions.foldl placeNext placements) (definitions.foldl Definition.load later) := by
  induction definitions generalizing later placements with
  | nil => exact ⟨h, hlaid⟩
  | cons definition definitions ih =>
    obtain ⟨hdefinition, hdefinitions⟩ := List.cons_subset.1 hsub
    exact ih (h.load hdefinition) (hlaid.load (h.regular hpointer hstands) definition)
      hdefinitions

/-- The structs of the service tables, the SMM system table among them. -/
def tablePlacements : List Placement := (structs.take 6).foldl placeNext []

theorem types_foldl_load {db : TypeDatabase} {definitions : List Definition} {name : String}
    (h : ∀ definition ∈ definitions, definition.name ≠ name) :
    (definitions.foldl Definition.load db).types[name]? = db.types[name]? := by
  induction definitions generalizing db with
  | nil => rfl
  | cons definition definitions ih =>
    obtain ⟨hdefinition, hdefinitions⟩ := List.forall_mem_cons.1 h
    exact (ih hdefinitions).trans (Definition.types_load hdefinition)

/-- The library lays the structs of the service tables out at their placements. -/
theorem laid_load {db : TypeDatabase} (hpointer : db.pointerSize = 8)
    (hstands : ∀ entry ∈ tableIntegers, StandsFor (withTypedefs db) entry.1 entry.2) :
    Laid tablePlacements (load db) := by
  have hbase : (withTypedefs db).pointerSize = 8 := (pointerSize_withTypedefs db).trans hpointer
  have hempty : Laid [] (withTypedefs db) := fun _ hplacement => absurd hplacement List.not_mem_nil
  obtain ⟨hextends, hearlier⟩ :=
    (Extends.refl _).laid hbase hstands hempty (List.Subset.refl earlierStructs)
  have htables : Laid tablePlacements ((structs.take 6).foldl Definition.load (withTypedefs db)) :=
    hearlier.load (hextends.regular hbase hstands) (.struct smmSystemTableName smmSystemTable)
  -- The other definitions leave these structs alone.
  have hothers : ∀ placement ∈ tablePlacements, ∀ definition ∈ structs.drop 6,
      definition.name ≠ placement.name := by decide +kernel
  have hload : load db = (structs.drop 6).foldl Definition.load
      ((structs.take 6).foldl Definition.load (withTypedefs db)) := by
    calc load db = structs.foldl Definition.load (withTypedefs db) := List.foldl_append
      _ = (structs.take 6 ++ structs.drop 6).foldl Definition.load (withTypedefs db) := by
        rw [List.take_append_drop]
      _ = _ := List.foldl_append
  intro placement hplacement
  obtain ⟨layout, hlayout, hdescribes⟩ := htables placement hplacement
  refine ⟨layout, ?_, hdescribes⟩
  rw [hload, types_foldl_load (hothers placement hplacement)]
  exact hlayout

end Uefi

/-! ## Catalogs -/

namespace TypeDatabase
variable {db other : TypeDatabase} {name : String} {layout layout' : StructType CType}

/-- The offsets of a struct depend on its fields alone. -/
theorem offsetIn_eq_of_fields (h : db.types[name]? = some (.struct layout))
    (h' : other.types[name]? = some (.struct layout')) (hfields : layout.fields = layout'.fields)
    (field : String) : db.offsetIn name field = other.offsetIn name field := by
  have hresolve := resolve_named (find?_of_types h) rfl
  have hresolve' := resolve_named (find?_of_types h') rfl
  rw [offsetIn, offsetIn, fieldOffset, fieldOffset, hresolve, hresolve']
  simp only [StructType.field?, hfields]

end TypeDatabase

theorem ServiceTable.fromLayout_congr {db other : TypeDatabase} {name : String}
    (h : ∀ field, db.offsetIn name field = other.offsetIn name field)
    (specs : List DescriptorSpec) : fromLayout db name specs = fromLayout other name specs := by
  have hdescribe : describe db name = describe other name := by
    funext spec
    rw [describe, describe, h]
  simp only [fromLayout, hdescribe]

/-- The services of a table, without offsets. -/
def ServiceTableKind.specs : ServiceTableKind → List DescriptorSpec
  | .bootServices => ServiceTable.bootServicesSpecs
  | .smmServices => ServiceTable.smmServicesSpecs

namespace Uefi

/-- A struct with the placed fields. -/
def Placement.layout (placement : Placement) : StructType CType :=
  ⟨some placement.name, placement.fields, placement.size, 8, false⟩

/-- A database with nothing but the placed struct. -/
def Placement.database (placement : Placement) : TypeDatabase :=
  (TypeDatabase.empty 8).addType placement.name (.struct placement.layout)

/-- The services of either table are placed where the fixed catalog has them. -/
theorem exists_placement (kind : ServiceTableKind) :
    ∃ placement ∈ tablePlacements, placement.name = kind.typeName ∧
      (ServiceTable.fromLayout placement.database kind.typeName kind.specs).toOption =
        some kind.catalog := by
  cases kind with
  | bootServices => decide +kernel
  | smmServices => decide +kernel

theorem fromLayout_load {db : TypeDatabase} (hpointer : db.pointerSize = 8)
    (hstands : ∀ entry ∈ tableIntegers, StandsFor (withTypedefs db) entry.1 entry.2)
    (kind : ServiceTableKind) :
    ServiceTable.fromLayout (load db) kind.typeName kind.specs = .ok kind.catalog := by
  obtain ⟨placement, hplacement, hname, hcatalog⟩ := exists_placement kind
  obtain ⟨layout, hlayout, hdescribes⟩ := laid_load hpointer hstands placement hplacement
  have hplaced : placement.database.types[placement.name]? = some (.struct placement.layout) :=
    ExtTreeMap.getElem?_insert_self
  have hoffsets := TypeDatabase.offsetIn_eq_of_fields hlayout hplaced hdescribes.fields_eq
  rw [hname] at hoffsets
  rw [ServiceTable.fromLayout_congr hoffsets]
  cases hresult : ServiceTable.fromLayout placement.database kind.typeName kind.specs with
  | error error =>
    rw [hresult] at hcatalog
    cases hcatalog
  | ok table =>
    rw [hresult] at hcatalog
    exact congrArg Except.ok (Option.some.inj hcatalog)

end Uefi

/-- The tables of the library are those of the fixed catalogs. Over a database of eight-byte
pointers, whatever it holds, loading the library returns, and the offsets of both service tables
are the fixed ones. Types are in the way only if they have a name that the library measures: no
such type may start a chain of elements without an end, and one with the name of `UINT32`,
`UINT64` or `UINTN` has to stand for that integer, by its size, by an alignment that is no greater,
and by owing neither to a struct that the library is about to replace. -/
theorem ServiceTableRegistry.fromLayouts_load {db : TypeDatabase} (hpointer : db.pointerSize = 8)
    (hends : ∀ name ∈ Uefi.measuredNames, ∀ type, db.types[name]? = some type →
      (Uefi.withTypedefs db).Ends (.named name))
    (hstands : ∀ entry ∈ Uefi.tableIntegers, ∀ type, db.types[entry.1]? = some type →
      Uefi.StandsFor (Uefi.withTypedefs db) entry.1 entry.2) :
    (∀ result, Uefi.Loads db (Uefi.library db.pointerSize) result ↔ result = Uefi.load db) ∧
      fromLayouts (Uefi.load db) = .ok builtin ∧
      ∀ kind : ServiceTableKind, builtin.ofKind? kind = some kind.catalog := by
  have hall : ∀ entry ∈ Uefi.tableIntegers,
      Uefi.StandsFor (Uefi.withTypedefs db) entry.1 entry.2 := by
    intro entry hentry
    cases htype : db.types[entry.1]? with
    | some type => exact hstands entry hentry type htype
    | none => exact Uefi.standsFor_withTypedefs hpointer hentry htype
  refine ⟨fun result => Uefi.loads_library_iff hends, ?_, fun kind => ?_⟩
  · have hboot := Uefi.fromLayout_load hpointer hall .bootServices
    have hsmm := Uefi.fromLayout_load hpointer hall .smmServices
    simp only [ServiceTableKind.typeName, ServiceTableKind.specs] at hboot hsmm
    rw [fromLayouts, hboot, hsmm]
    rfl
  · cases kind with
    | bootServices => decide
    | smmServices => decide

/-- A database that holds some of the names before: a struct of the library, bytes under the names
of two integers, and under that of a third one another name for its size. -/
theorem ServiceTableRegistry.fromLayouts_load_over_types :
    let db := ((((TypeDatabase.empty 8).addType "UINT32" (.array .uchar (some 4))).addType "UINT16"
      (.array .uchar (some 2))).addType "UINTN" (.named "UINT64")).addType "EFI_TABLE_HEADER" .char
    db.pointerSize = 8 ∧ db.sizeOf (.named "EFI_TABLE_HEADER") = some 1 ∧
      db.alignmentOf (.named "UINT32") = some 1 ∧
      Uefi.Loads db (Uefi.library 8) (Uefi.load db) ∧
      fromLayouts (Uefi.load db) = .ok builtin := by
  intro db
  let base := Uefi.withTypedefs db
  have hfree : ∀ name ∈ ["UINT8", "UINT64", "EFI_HANDLE"], db.types[name]? = none := by
    decide +kernel
  have hchains : ∀ name ∈ ["UINT16", "UINT32", "UINTN"],
      follow base.element? 2 (.named name) = none := by
    decide +kernel
  have hends : ∀ name ∈ Uefi.measuredNames, ∀ type, db.types[name]? = some type →
      base.Ends (.named name) := by
    intro name hname type htype
    have hsplit : ∀ name ∈ Uefi.measuredNames,
        name ∈ ["UINT8", "UINT64", "EFI_HANDLE"] ∨ name ∈ ["UINT16", "UINT32", "UINTN"] := by
      decide
    rcases hsplit name hname with hunset | hset
    · cases (hfree name hunset).symm.trans htype
    · exact ⟨2, hchains name hset⟩
  -- Measuring the two integers comes to no other names than these.
  have hword : base.find? "UINT32" = some (.array .uchar (some 4)) := by
    refine TypeDatabase.find?_of_types ?_
    simp [base, Uefi.types_withTypedefs, db, TypeDatabase.getElem?_types_addType]
  have hnative : base.find? "UINTN" = some (.named "UINT64") := by
    refine TypeDatabase.find?_of_types ?_
    simp [base, Uefi.types_withTypedefs, db, TypeDatabase.getElem?_types_addType]
  have hlong : base.find? "UINT64" = some (.int 8 false) :=
    Uefi.find?_withTypedefs (hfree "UINT64" (by simp)) rfl
  have hwordNames : ∀ last, base.ComesTo (.named "UINT32") last → last = "UINT32" := by
    simp [TypeDatabase.comesTo_named_iff, TypeDatabase.comesTo_array_iff, hword,
      TypeDatabase.not_comesTo_int, CType.uchar]
  have hnativeNames : ∀ last, base.ComesTo (.named "UINTN") last →
      last = "UINTN" ∨ last = "UINT64" := by
    simp [TypeDatabase.comesTo_named_iff, hnative, hlong, TypeDatabase.not_comesTo_int]
  have hstands : ∀ entry ∈ Uefi.tableIntegers, ∀ type, db.types[entry.1]? = some type →
      Uefi.StandsFor base entry.1 entry.2 := by
    have hnames : ∀ definition ∈ Uefi.earlierStructs, definition.name ≠ "UINT32" ∧
        definition.name ≠ "UINTN" ∧ definition.name ≠ "UINT64" := by decide
    intro entry hentry type htype
    simp only [Uefi.tableIntegers, List.mem_cons, List.not_mem_nil, or_false] at hentry
    rcases hentry with rfl | rfl | rfl
    · refine ⟨by decide +kernel, by decide +kernel, fun definition hdefinition hcomes => ?_⟩
      exact (hnames definition hdefinition).1 (hwordNames _ hcomes)
    · cases (hfree "UINT64" (by simp)).symm.trans htype
    · refine ⟨by decide +kernel, by decide +kernel, fun definition hdefinition hcomes => ?_⟩
      have hapart := (hnames definition hdefinition).2
      exact (hnativeNames _ hcomes).elim hapart.1 hapart.2
  obtain ⟨hloads, hlayouts, -⟩ := fromLayouts_load rfl hends hstands
  exact ⟨rfl, by decide +kernel, by decide +kernel, (hloads _).2 rfl, hlayouts⟩

/-- A type of eight bytes under the name `UINT32` stays in front of the typedef and widens the
header of the tables, so that every service lies sixteen bytes further on. -/
theorem ServiceTableRegistry.fromLayouts_load_over_wide_type :
    let db := (TypeDatabase.empty 8).addType "UINT32" .ulongLong
    let handleProtocol (registry : ServiceTableRegistry) :=
      (registry.ofKind? .bootServices).bind (·.findByName? "HandleProtocol")
    db.pointerSize = 8 ∧
      (fromLayouts (Uefi.load db)).toOption.bind handleProtocol =
        some ⟨"HandleProtocol", 0xa8, 3, 1, 2, 1⟩ ∧
      handleProtocol builtin = some ⟨"HandleProtocol", 0x98, 3, 1, 2, 1⟩ := by
  decide +kernel

/-- Four bytes that are to lie at multiples of eight do the same. -/
example :
    let db := (TypeDatabase.empty 8).addType "UINT32" (.struct ⟨none, [], 4, 8, false⟩)
    (ServiceTableRegistry.fromLayouts (Uefi.load db)).toOption.bind (·.ofKind? .bootServices) ≠
      some .bootServices := by
  decide +kernel

/-- So do four bytes that are those of a GUID before the library has one. -/
example :
    let db := ((TypeDatabase.empty 8).addType "UINT32" (.named "EFI_GUID")).addType "EFI_GUID" .uint
    (Uefi.withTypedefs db).sizeOf (.named "UINT32") = some 4 ∧
      (ServiceTableRegistry.fromLayouts (Uefi.load db)).toOption.bind (·.ofKind? .bootServices) ≠
        some .bootServices := by
  decide +kernel

end UefiTyping
