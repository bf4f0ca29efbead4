import Mathlib.Data.List.Nodup
import UefiTyping.Proofs.Retype.DryRun
import UefiTyping.Proofs.TypeDatabase.Size

/-!
# Deciding again on new types

A host may decompile a function again with the types that a pass gave to its locals, and the
next record then meets those types. A slot that became a pointer to the interface is still
storage for one pointer: it has the same shape and is offered the same type again. An array is
not met again. Its elements are now pointers to a struct, which is no scalar at any depth, so
that what was an array of scalars behind pointers has no supported shape any more.
-/
namespace UefiTyping

/-! ## Declaring a local anew -/

/-- The local with a new declared type, if it has the name. -/
def LocalVariable.declare (place : LocalVariable) (name : String) (type : CType) : LocalVariable :=
  if place.name = name then { place with type } else place

namespace LocalVariable
variable (place : LocalVariable) (name : String) (type : CType)

@[simp] theorem name_declare : (place.declare name type).name = place.name := by
  rw [declare]
  split
  · rfl
  · rfl

@[simp] theorem storage_declare : (place.declare name type).storage = place.storage := by
  rw [declare]
  split
  · rfl
  · rfl

theorem declare_self : place.declare place.name type = { place with type } := if_pos rfl

end LocalVariable

/-- The function with a new declared type for its locals of a name. -/
def DecompiledFunction.declare (function : DecompiledFunction) (name : String) (type : CType) :
    DecompiledFunction :=
  { function with locals := function.locals.map (·.declare name type) }

namespace DecompiledFunction
variable (function : DecompiledFunction) (name : String) (type : CType)

/-- New types do not change which local is found. -/
theorem find?_declare (found : LocalVariable → Bool)
    (h : ∀ place : LocalVariable, found (place.declare name type) = found place) :
    (function.declare name type).locals.find? found =
      (function.locals.find? found).map (·.declare name type) := by
  have hcomp : found ∘ (·.declare name type) = found := funext h
  rw [declare, List.find?_map, hcomp]

theorem local?_declare (other : String) :
    (function.declare name type).local? other =
      (function.local? other).map (·.declare name type) :=
  function.find?_declare name type (·.name == other)
    fun place => by rw [LocalVariable.name_declare]

theorem localFor?_declare (named : Variable) :
    (function.declare name type).localFor? named =
      (function.localFor? named).map (·.declare name type) := by
  have hstorage := function.find?_declare name type (·.storage == named.storage)
    fun place => by rw [LocalVariable.storage_declare]
  rw [localFor?, localFor?, local?_declare, hstorage]
  cases function.local? named.name with
  | none => rfl
  | some place => rfl

end DecompiledFunction

/-! ## Pointers to a struct -/

namespace TypeDatabase
variable {db : TypeDatabase} {type : CType}

/-- What is neither a scalar nor a pointer is no scalar behind pointers to it either. -/
theorem isScalarBehind_withPointers (hscalar : (db.classify type).isScalar = false)
    (hpointer : ∀ target, db.resolve type ≠ some (.pointer target)) (pointers depth : Nat) :
    db.isScalarBehind pointers (type.withPointers depth) = false := by
  induction depth generalizing pointers with
  | zero =>
    rw [CType.withPointers, isScalarBehind.eq_def, hscalar, if_neg Bool.false_ne_true]
    split
    case h_1 target hresolve => exact absurd hresolve (hpointer target)
    case h_2 => rfl
  | succ depth ih =>
    have hself : (db.classify (.pointer (type.withPointers depth))).isScalar = false := rfl
    rw [CType.withPointers, isScalarBehind.eq_def, hself, if_neg Bool.false_ne_true]
    cases pointers with
    | zero => rfl
    | succ pointers => exact ih pointers

/-- An array of pointers to a struct is no array of scalars, at any depth. -/
theorem isPodArray_of_struct {name : String} {layout : StructType CType}
    (hstruct : db.find? name = some (.struct layout)) (depth : Nat) (length : Option Nat)
    (pointers : Nat) :
    db.isPodArray (.array ((CType.named name).withPointers depth) length) pointers = false := by
  have hresolve : db.resolve (.named name) = some (.struct layout) := resolve_named hstruct rfl
  have hscalar : (db.classify (.named name)).isScalar = false := by
    rw [classify, classifyRealType, hresolve]
    rfl
  refine isScalarBehind_withPointers hscalar (fun target h => ?_) pointers depth
  rw [hresolve] at h
  cases h

end TypeDatabase

/-! ## Deciding again -/

namespace Destination
variable {db : TypeDatabase} {depth : Nat} {interface name : String} {type : CType}

/-- Whether the destination is an array. -/
def isArray : Destination → Bool
  | .podArray .. => true
  | _ => false

/-- A slot is decided on as before once it is a pointer, and an array no longer. -/
theorem ofLocal?_again {place : LocalVariable} {byAddress cast : Bool} {shape : Destination}
    (h : ofLocal? db depth place byAddress cast = some shape)
    (hretyped : shape.retyped? db interface depth = some (name, type)) :
    (shape.isArray = false → ofLocal? db depth { place with type } byAddress cast = some shape) ∧
      (shape.isArray = true → ∀ layout, db.find? interface = some (.struct layout) →
        ofLocal? db depth { place with type } byAddress cast = none) := by
  rw [ofLocal?] at h
  split at h
  case isTrue =>
    obtain rfl := Option.some.inj h
    obtain ⟨-, rfl⟩ := Prod.mk.inj (Option.some.inj hretyped)
    constructor
    · intro hslot
      cases hslot
    · intro _ layout hstruct
      have hpod := TypeDatabase.isPodArray_of_struct hstruct depth
      have hholds : ∀ element length, holdsPointer db (.array element length) = false :=
        fun element length => rfl
      simp only [ofLocal?, TypeDatabase.arrayOf, hpod, hholds, Bool.and_false, Bool.false_eq_true,
        if_false]
  case isFalse =>
    rw [Option.ite_none_right_eq_some, Bool.and_eq_true] at h
    obtain ⟨⟨rfl, -⟩, h⟩ := h
    cases cast
    case false =>
      obtain rfl := Option.some.inj h
      obtain ⟨-, rfl⟩ := Prod.mk.inj (Option.some.inj hretyped)
      exact ⟨fun _ => rfl, fun harray => absurd harray Bool.false_ne_true⟩
    case true =>
      obtain rfl := Option.some.inj h
      obtain ⟨-, rfl⟩ := Prod.mk.inj (Option.some.inj hretyped)
      exact ⟨fun _ => rfl, fun harray => absurd harray Bool.false_ne_true⟩

/-- The shape of an argument after its local was given its new type: as before for a slot, and
unsupported for an array. -/
theorem classify_declare {function : DecompiledFunction} {argument : Expr}
    (h : (classify db function depth argument).retyped? db interface depth = some (name, type)) :
    ((classify db function depth argument).isArray = false →
        classify db (function.declare name type) depth argument =
          classify db function depth argument) ∧
      ((classify db function depth argument).isArray = true →
        ∀ layout, db.find? interface = some (.struct layout) →
          classify db (function.declare name type) depth argument =
            .unsupported argument.text) := by
  obtain ⟨named, byAddress, place, hargument, hplace, hshape⟩ := exists_localFor?_of_classify h
  obtain rfl := name_of_ofLocal? hshape h
  have hagain : (function.declare place.name type).localFor? named = some { place with type } := by
    rw [DecompiledFunction.localFor?_declare, hplace, Option.map_some, LocalVariable.declare_self]
  obtain ⟨hslot, harray⟩ := ofLocal?_again hshape h
  rw [classify_of_localFor? hargument hagain]
  constructor
  · intro hisArray
    rw [hslot hisArray]
    rfl
  · intro hisArray layout hstruct
    rw [harray hisArray layout hstruct]
    rfl

end Destination

namespace Traversal

/-- A pass over new types. After the local of an offer was given the type that is offered, the
same call makes the same offer if the destination is a slot, named by its address with or
without a cast: the shape is the same, and so are local and type. If the destination is an
array and the interface is a struct, the shape is unsupported and nothing is offered. -/
theorem offer_declare (traversal : Traversal) (function : DecompiledFunction) (call : MatchedCall)
    (argument : Expr) (protocol : ResolvedProtocol) {name : String} {type : CType}
    (h : traversal.offer function call argument protocol = .ok (name, type)) :
    let types := traversal.context.types
    let shape (function : DecompiledFunction) : Destination :=
      Destination.classify types function call.service.pointerDepth argument
    let again := function.declare name type
    ((shape function).isArray = false →
        shape again = shape function ∧
          traversal.offer again call argument protocol = .ok (name, type)) ∧
      ((shape function).isArray = true →
        ∀ layout, types.find? protocol.interfaceType = some (.struct layout) →
          shape again = .unsupported argument.text ∧
            traversal.offer again call argument protocol =
              .error (.unsupportedDestination call.site argument.text)) := by
  intro types shape again
  have hretyped := offer_eq_ok_iff.1 h
  obtain ⟨hslot, harray⟩ := Destination.classify_declare hretyped
  constructor
  · intro hisArray
    have hshape := hslot hisArray
    exact ⟨hshape, offer_eq_ok_iff.2 (by rw [hshape]; exact hretyped)⟩
  · intro hisArray layout hstruct
    have hshape := harray hisArray layout hstruct
    refine ⟨hshape, ?_⟩
    cases hoffer : traversal.offer again call argument protocol with
    | error error => rw [error_of_offer hoffer]
    | ok offer =>
      have hnone := offer_eq_ok_iff.1 hoffer
      rw [hshape] at hnone
      cases hnone

/-- The slot of the located protocol is offered the same pointer again. -/
theorem offer_declare_blockIo :
    let traversal := BlockIo.batch.traversal [BlockIo.record] BlockIo.record .bootServices
    let argument : Expr := .addressOf (.var ((Variable.stack (-8) 8).rename "block"))
    let call := BlockIo.matchedCall argument
    let protocol : ResolvedProtocol := ⟨"EFI_BLOCK_IO_PROTOCOL_GUID", "EFI_BLOCK_IO_PROTOCOL"⟩
    let type : CType := .pointer (.named "EFI_BLOCK_IO_PROTOCOL")
    let offer (function : DecompiledFunction) := traversal.offer function call argument protocol
    offer BlockIo.function = .ok ("block", type) ∧
      offer (BlockIo.function.declare "block" type) = .ok ("block", type) ∧
      (BlockIo.function.declare "block" type).locals.map (·.type) = [type] := by
  intro traversal argument call protocol type offer
  have hoffer : offer BlockIo.function = .ok ("block", type) := by rfl
  have hagain := (offer_declare traversal BlockIo.function call argument protocol hoffer).1 (by rfl)
  exact ⟨hoffer, hagain.2, by rfl⟩

/-- A local array of one pointer to an integer becomes one of a pointer to the interface, as
which it has no supported shape. -/
theorem classify_array_declared :
    let place : LocalVariable := ⟨"block", .stack (-8), 8, .array (.pointer .sint) (some 1)⟩
    let function := { BlockIo.function with locals := [place] }
    let argument : Expr := .var ((Variable.stack (-8) 8).rename "block")
    let type : CType := .array (.pointer (.named "EFI_BLOCK_IO_PROTOCOL")) (some 1)
    let classify (function : DecompiledFunction) : Destination :=
      Destination.classify BlockIo.types function 1 argument
    (function.locals.map LocalVariable.name).Nodup ∧
      BlockIo.types.find? "EFI_BLOCK_IO_PROTOCOL" =
        some (.struct (.empty (some "EFI_BLOCK_IO_PROTOCOL"))) ∧
      classify function = .podArray "block" (some 1) ∧
      (classify function).retyped? BlockIo.types "EFI_BLOCK_IO_PROTOCOL" 1 =
        some ("block", type) ∧
      classify (function.declare "block" type) = .unsupported argument.text ∧
      (classify (function.declare "block" type)).retyped? BlockIo.types
        "EFI_BLOCK_IO_PROTOCOL" 1 = none :=
  ⟨List.nodup_singleton "block", by rfl, by rfl, by rfl, by rfl, by rfl⟩

end Traversal
end UefiTyping
