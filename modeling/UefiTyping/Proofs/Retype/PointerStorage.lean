import Mathlib.Data.List.Nodup
import UefiTyping.Proofs.Retype.DryRun
import UefiTyping.Proofs.Retype.Justification
import UefiTyping.Proofs.TypeDatabase.Size

/-!
# Storage of pointers

A run gives a new type to storage of pointers alone: a pointer, a scalar of the size of one, or
an array of scalars behind pointers. What was a pointer or a scalar becomes a pointer and keeps
its size; an array stays an array and keeps its length. The decision is made for the local that
the argument names and the store is asked for the local of its name, so that this holds as long
as the locals of a function have names of their own.
-/
namespace UefiTyping

namespace TypeDatabase
variable {db : TypeDatabase} {type concrete : CType}

/-! ## Scalars -/

theorem isScalar_classify_iff :
    (db.classify type).isScalar = true ↔
      (db.classifyRealType type).isScalar = true ∨ (classifyDeclaration type).isScalar = true := by
  rw [classify]
  cases db.classifyRealType type <;> cases classifyDeclaration type <;>
    simp [ScalarClass.anyOf, ScalarClass.isScalar, List.find?]

/-- Resolution only goes on from a scalar declaration to another. -/
theorem isScalar_declaration_of_chase {limit : Nat}
    (h : (classifyDeclaration type).isScalar = true)
    (hchase : db.chase limit type = some concrete) :
    (classifyDeclaration concrete).isScalar = true := by
  induction limit generalizing type with
  | zero => cases hchase
  | succ limit ih =>
    cases type with
    | synonym name target => exact @ih target h hchase
    | named name => cases h
    | void | int | float | pointer | array | struct | union | enum | function =>
      obtain rfl := Option.some.inj hchase
      exact h

/-- What a scalar resolves to is a scalar by what it is. -/
theorem isScalar_realType_of_resolve (h : (db.classify type).isScalar = true)
    (hresolve : db.resolve type = some concrete) :
    (db.classifyRealType type).isScalar = true := by
  rcases isScalar_classify_iff.1 h with hreal | hdeclared
  · exact hreal
  · have hscalar := isScalar_declaration_of_chase hdeclared hresolve
    have hconcrete := isConcrete_of_resolve hresolve
    rw [classifyRealType, hresolve]
    cases concrete with
    | void | int | float => rfl
    | synonym name target => cases hconcrete
    | named | pointer | array | struct | union | enum | function => cases hscalar

/-- The size of a scalar is that of what it resolves to. -/
theorem sizeOf_of_isScalar (h : (db.classify type).isScalar = true)
    (hresolve : db.resolve type = some concrete) : db.sizeOf type = db.sizeOf concrete := by
  have hreal := isScalar_realType_of_resolve h hresolve
  have hself : db.resolve concrete = some concrete :=
    resolve_of_isConcrete (isConcrete_of_resolve hresolve)
  have hblock : concrete.isBlock = true := by
    rw [classifyRealType, hresolve] at hreal
    cases concrete with
    | void | int | float | enum | struct | union | function => rfl
    | pointer | array | synonym | named => cases hreal
  rw [sizeOf_of_isBlock hresolve hblock, sizeOf_of_isBlock hself hblock]

theorem exists_resolve_of_isPodArray {depth : Nat} (h : db.isPodArray type depth = true) :
    ∃ element length, db.resolve type = some (.array element length) := by
  rw [isPodArray] at h
  split at h
  · exact ⟨_, _, by assumption⟩
  · cases h

end TypeDatabase

/-- Storage for one pointer is a pointer, or a scalar of the size of one. -/
theorem Destination.holdsPointer_iff {db : TypeDatabase} {type : CType} :
    holdsPointer db type = true ↔
      (∃ target, db.resolve type = some (.pointer target)) ∨
        (db.classify type).isScalar = true ∧ db.sizeOf type = some db.pointerSize := by
  rw [holdsPointer]
  cases hresolve : db.resolve type with
  | none =>
    have hsize : db.sizeOf type = none := by
      rw [TypeDatabase.sizeOf, TypeDatabase.sizeWithin, hresolve]
    simp [hsize]
  | some concrete =>
    cases concrete with
    | pointer target => simp
    | void | int | float | array | struct | union | enum | function | synonym | named =>
      simp only [Bool.and_eq_true, beq_iff_eq, Option.some.injEq, reduceCtorEq, exists_false,
        false_or]
      exact and_congr_right fun hscalar => by rw [TypeDatabase.sizeOf_of_isScalar hscalar hresolve]

/-! ## What a type may become -/

/-- What storage of a declared type may become, for a service that accepts arrays of scalars
behind at most `depth` pointers. -/
inductive TypeDatabase.Retypes (db : TypeDatabase) (depth : Nat) (declared : CType) : CType → Prop
  /-- A pointer gets another target. -/
  | pointer {target : CType} (target' : CType) : db.resolve declared = some (.pointer target) →
      Retypes db depth declared (.pointer target')
  /-- A scalar of the size of a pointer becomes a pointer. -/
  | scalar (target' : CType) : (db.classify declared).isScalar = true →
      db.sizeOf declared = some db.pointerSize → Retypes db depth declared (.pointer target')
  /-- An array of scalars gets other elements, as many as before. -/
  | podArray {element : CType} {length : Option Nat} (element' : CType) :
      db.resolve declared = some (.array element length) → db.isPodArray declared depth = true →
      Retypes db depth declared (.array element' length)

/-- The type is no storage of pointers: it resolves to a struct, a union, a function, an array
of other elements, or to nothing. -/
def TypeDatabase.IsAggregate (db : TypeDatabase) (depth : Nat) (declared : CType) : Prop :=
  match db.resolve declared with
  | some (.struct _) | some (.union _) | some (.function _) | none => True
  | some (.array ..) => db.isPodArray declared depth = false
  | _ => False

namespace TypeDatabase.Retypes
variable {db : TypeDatabase} {depth : Nat} {declared new : CType}

/-- What becomes a pointer keeps its size. -/
theorem sizeOf_eq (h : db.Retypes depth declared new) (hpointer : new.isPointer = true) :
    db.sizeOf new = db.sizeOf declared := by
  cases h with
  | pointer target' hresolve =>
    rw [sizeOf_of_pointer hresolve, sizeOf_pointer]
  | scalar target' _ hsize => rw [hsize, sizeOf_pointer]
  | podArray => cases hpointer

theorem not_isAggregate (h : db.Retypes depth declared new) : ¬ db.IsAggregate depth declared := by
  intro haggregate
  rw [IsAggregate] at haggregate
  cases h with
  | pointer target' hresolve => simp [hresolve] at haggregate
  | podArray element' hresolve hpod => simp [hresolve, hpod] at haggregate
  | scalar target' hscalar hsize =>
    cases hresolve : db.resolve declared with
    | none =>
      rw [sizeOf, sizeWithin, hresolve] at hsize
      cases hsize
    | some concrete =>
      have hreal := isScalar_realType_of_resolve hscalar hresolve
      rw [classifyRealType, hresolve] at hreal
      cases concrete with
      | void | int | float | enum => simp [hresolve] at haggregate
      | pointer | array | struct | union | function | synonym | named => cases hreal

end TypeDatabase.Retypes

/-- A destination at a local is retyped as storage of pointers may be. -/
theorem Destination.retypes_of_ofLocal? {db : TypeDatabase} {depth : Nat} {place : LocalVariable}
    {byAddress cast : Bool} {destination : Destination} {interface name : String} {type : CType}
    (h : ofLocal? db depth place byAddress cast = some destination)
    (hretyped : destination.retyped? db interface depth = some (name, type)) :
    db.Retypes depth place.type type := by
  rw [ofLocal?] at h
  split at h
  case isTrue hpod =>
    obtain ⟨element, length, hresolve⟩ := TypeDatabase.exists_resolve_of_isPodArray hpod
    obtain rfl := Option.some.inj h
    obtain ⟨-, rfl⟩ := Prod.mk.inj (Option.some.inj hretyped)
    rw [hresolve]
    exact .podArray _ hresolve hpod
  case isFalse =>
    rw [Option.ite_none_right_eq_some, Bool.and_eq_true] at h
    obtain ⟨⟨-, hholds⟩, h⟩ := h
    have htype : type = .pointer (.named interface) := by
      obtain rfl := Option.some.inj h
      cases cast
      · exact (Prod.mk.inj (Option.some.inj hretyped)).2.symm
      · exact (Prod.mk.inj (Option.some.inj hretyped)).2.symm
    subst htype
    rcases holdsPointer_iff.1 hholds with ⟨target, hresolve⟩ | ⟨hscalar, hsize⟩
    · exact .pointer _ hresolve
    · exact .scalar _ hscalar hsize

/-! ## Runs -/

theorem DecompiledFunction.eq_of_name_eq {function : DecompiledFunction}
    (hnames : (function.locals.map LocalVariable.name).Nodup) {place place' : LocalVariable}
    (hplace : place ∈ function.locals) (hplace' : place' ∈ function.locals)
    (h : place.name = place'.name) : place = place' :=
  List.inj_on_of_nodup_map hnames hplace hplace' h

/-- Only storage of pointers is retyped. When the locals of each function that a run walks have
names of their own, every type that the run offers to its store comes from a call that justifies
it, and is one that the declared type of the local may become at the depth of the service that
this call goes to: a pointer for a pointer or for a scalar of the size of one, which keeps its
size, or an array for an array of scalars, which keeps its length. A local of any other type is
never offered one. -/
theorem RetypeBatch.only_pointer_storage_retyped {σ : Type} [VariableStore σ]
    (source : FunctionSource) (types : TypeDatabase) (protocols : ProtocolRegistry)
    (registry : ServiceTableRegistry) (config : RetypeConfig) (records : List UsageRecord)
    (store : σ)
    (hnames : ∀ record ∈ records, ∀ function,
      (ofRegistry source types protocols registry config).functionOf record = .ok function →
        (function.locals.map LocalVariable.name).Nodup) :
    let batch := ofRegistry source types protocols registry config
    ∀ call ∈ (batch.run records (⟨store, []⟩ : Audited σ)).2.calls,
      ∃ reason : Justification source types protocols registry config records call,
        types.Retypes reason.service.pointerDepth call.place.type call.type ∧
          (call.type.isPointer = true → types.sizeOf call.type = types.sizeOf call.place.type) ∧
          ¬ types.IsAggregate reason.service.pointerDepth call.place.type := by
  intro batch call hcall
  obtain ⟨-, task, htask, hoffers⟩ := offers_of_mem_calls hcall
  obtain ⟨reason⟩ := Justification.nonempty_of_offers htask hoffers
  obtain ⟨found, hfound, byAddress, cast, destination, hlocal, hretyped⟩ :=
    Destination.exists_ofLocal?_of_classify reason.destination
  -- The local that was decided on is the one of its name that the store is asked for.
  have hfunction : batch.functionOf reason.record = .ok reason.function :=
    functionOf_eq_ok_iff.2 ⟨reason.entry, reason.entry_eq, reason.decompiled⟩
  have hsame : found = call.place :=
    DecompiledFunction.eq_of_name_eq (hnames reason.record reason.record_mem _ hfunction) hfound
      reason.local_mem (Destination.name_of_ofLocal? hlocal hretyped).symm
  have hretypes : types.Retypes reason.service.pointerDepth call.place.type call.type :=
    hsame ▸ Destination.retypes_of_ofLocal? hlocal hretyped
  exact ⟨reason, hretypes, hretypes.sizeOf_eq, hretypes.not_isAggregate⟩

/-- The slot of the located protocol is a pointer before and after, of the same size. -/
theorem RetypeBatch.only_pointer_storage_retyped_blockIo :
    let offer : StoreCall :=
      ⟨0x1000, BlockIo.place, .pointer (.named "EFI_BLOCK_IO_PROTOCOL"), true⟩
    (∀ record ∈ [BlockIo.record], ∀ function, BlockIo.batch.functionOf record = .ok function →
        (function.locals.map LocalVariable.name).Nodup) ∧
      offer ∈ (BlockIo.batch.run [BlockIo.record] (⟨BlockIo.project, []⟩ : Audited _)).2.calls ∧
      ∃ reason : Justification BlockIo.program.source BlockIo.types .empty BlockIo.registry
          .standard [BlockIo.record] offer,
        BlockIo.types.Retypes reason.service.pointerDepth (.pointer .void) offer.type := by
  intro offer
  have hnames : ∀ record ∈ [BlockIo.record], ∀ function,
      BlockIo.batch.functionOf record = .ok function →
        (function.locals.map LocalVariable.name).Nodup := by
    intro record hrecord function hfunction
    obtain rfl := List.mem_singleton.1 hrecord
    have hfound : BlockIo.batch.functionOf BlockIo.record = .ok BlockIo.function := by rfl
    obtain rfl := Except.ok.inj (hfound.symm.trans hfunction)
    exact List.nodup_singleton "block"
  have hcalls : (BlockIo.batch.run [BlockIo.record] (⟨BlockIo.project, []⟩ : Audited _)).2.calls =
      [offer] := by rfl
  have hmem : offer ∈
      (BlockIo.batch.run [BlockIo.record] (⟨BlockIo.project, []⟩ : Audited _)).2.calls := by
    rw [hcalls]
    exact List.mem_singleton_self offer
  obtain ⟨reason, hretypes, -⟩ :=
    only_pointer_storage_retyped BlockIo.program.source BlockIo.types .empty BlockIo.registry
      .standard [BlockIo.record] BlockIo.project hnames offer hmem
  exact ⟨hnames, hmem, reason, hretypes⟩

end UefiTyping
