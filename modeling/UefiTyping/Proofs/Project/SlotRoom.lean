import UefiTyping.Proofs.Project.BodySequence
import UefiTyping.Proofs.Retype.DryRun

/-!
# Room for a pointer

A slot is measured twice, by two measures. Whether a local is storage for one pointer is decided
with the pointer size of the database. Whether it has room for the new type is decided by the
project, which has no database and takes every pointer to be of eight bytes; and only registers
are measured. So a slot of the size of a pointer is taken on x64 and wherever pointers are at
least as wide, and with narrower pointers a register may be refused that could hold one.
-/
namespace UefiTyping

/-! ## Calls for a slot -/

/-- A matched call in a function whose protocol resolves, and whose interface goes to a slot:
a local with a name of its own that the interface argument gives the address of, with or
without a cast. -/
structure SlotCall (traversal : Traversal) (function : DecompiledFunction) where
  expr : Expr
  mem_calls : expr ∈ function.calls
  matched : MatchedCall
  matched_eq : MatchedCall.ofCall? traversal.context.types function traversal.table
    traversal.recordAddress expr = some matched
  arguments : ServiceArguments
  arguments_eq : matched.arguments = .ok arguments
  protocol : ResolvedProtocol
  resolve_eq : ResolvedProtocol.resolve traversal.context traversal.records traversal.restricted
    matched.site arguments.guid = .ok protocol
  place : LocalVariable
  place_mem : place ∈ function.locals
  unique : ∀ other ∈ function.locals, other.name = place.name → other = place
  shape : Destination
  shape_eq : shape = .pointerSlot place.name ∨ shape = .pointerToPointer place.name
  classify_eq : Destination.classify traversal.context.types function matched.service.pointerDepth
    arguments.interface = shape

namespace SlotCall
variable {traversal : Traversal} {function : DecompiledFunction}
  (call : SlotCall traversal function)

/-- The type that is computed for the slot. -/
def type : CType := .pointer (.named call.protocol.interfaceType)

/-- The report of the call with an outcome. -/
def report (outcome : SiteOutcome) : SiteReport :=
  ⟨function.address, call.matched.site, call.matched.service.name, some call.protocol.name, outcome⟩

theorem local?_eq : function.local? call.place.name = some call.place := by
  obtain ⟨found, hfound⟩ := DecompiledFunction.exists_local_of_mem call.place_mem
  have hsame : found = call.place :=
    call.unique found (DecompiledFunction.mem_of_local? hfound)
      (DecompiledFunction.name_of_local? hfound)
  rw [hfound, hsame]

theorem offer_eq :
    traversal.offer function call.matched call.arguments.interface call.protocol =
      .ok (call.place.name, call.type) := by
  rw [Traversal.offer_eq_ok_iff, call.classify_eq]
  rcases call.shape_eq with hshape | hshape
  · rw [hshape]
    rfl
  · rw [hshape]
    rfl

theorem findingAt?_eq :
    traversal.findingAt? function call.expr =
      some (.proposed ⟨call.matched.site, call.matched.service.name, some call.protocol.name,
        .ok (call.place.name, call.type)⟩) := by
  rw [Traversal.findingAt?, call.matched_eq, Option.map_some, Option.some.injEq]
  exact (Traversal.examine_eq_proposed_iff.2
    ⟨call.arguments, call.protocol, call.arguments_eq, call.resolve_eq, call.offer_eq, rfl⟩).1

/-- A project reports the call by whether it takes the type. -/
theorem sitesAt_eq (project : AnalysisProject) :
    traversal.sitesAt function false project call.expr =
      [call.report (if project.accepts function.address call.place call.type then
          .retyped call.place.name call.type
        else .failed (.retype function.address call.place.name))] :=
  Traversal.sitesAt_of_offer call.findingAt?_eq rfl call.local?_eq false project

end SlotCall

namespace Traversal

/-- A slot that is wide enough for a pointer of the database is taken wherever the project finds
room for one of eight bytes. In a function that is not left alone, a matched call whose protocol
resolves gives a slot of at least the pointer size its type, and is reported as retyped, when
the slot is no register or has eight bytes; so it is for every database whose pointers have at
least eight bytes. A narrower register is refused, though with narrower pointers it could hold
the interface pointer. -/
theorem slot_retyped_of_room (traversal : Traversal) (function : DecompiledFunction)
    (call : SlotCall traversal function) (project : AnalysisProject)
    (hkept : project.isExcluded function.address = false)
    (hsize : traversal.context.types.pointerSize ≤ call.place.size) :
    let sites := (traversal.apply function false project).1.sites
    let HasRoom := ∀ id, call.place.storage = .register id →
      TypeDatabase.pointerSizeX64 ≤ call.place.size
    (HasRoom →
        project.accepts function.address call.place call.type = true ∧
          traversal.sitesAt function false project call.expr =
            [call.report (.retyped call.place.name call.type)] ∧
          call.report (.retyped call.place.name call.type) ∈ sites) ∧
      (¬ HasRoom →
        project.accepts function.address call.place call.type = false ∧
          traversal.sitesAt function false project call.expr =
            [call.report (.failed (.retype function.address call.place.name))] ∧
          call.report (.failed (.retype function.address call.place.name)) ∈ sites) ∧
      (TypeDatabase.pointerSizeX64 ≤ traversal.context.types.pointerSize → HasRoom) := by
  intro sites HasRoom
  have haccepts := AnalysisProject.accepts_of_not_isExcluded hkept call.place call.type
  have hroom : AnalysisProject.hasRoom call.place call.type = true ↔ HasRoom :=
    AnalysisProject.hasRoom_pointer_iff
  have hsites := call.sitesAt_eq project
  refine ⟨fun h => ?_, fun h => ?_, fun hwide id _ => Nat.le_trans hwide hsize⟩
  · have htaken := haccepts.trans (hroom.2 h)
    rw [htaken, if_pos rfl] at hsites
    refine ⟨htaken, hsites, mem_sites_apply call.mem_calls ?_⟩
    rw [hsites]
    exact List.mem_singleton_self _
  · have hrefused := haccepts.trans (Bool.eq_false_iff.2 (mt hroom.1 h))
    rw [hrefused, if_neg Bool.false_ne_true] at hsites
    refine ⟨hrefused, hsites, mem_sites_apply call.mem_calls ?_⟩
    rw [hsites]
    exact List.mem_singleton_self _

end Traversal

/-! ## The interface in a register -/

namespace BlockIo

/-- The function with a register of a size in place of the slot. -/
def functionWith (size : Nat) : DecompiledFunction :=
  { function with locals := [⟨"block", .register 1, size, .pointer .void⟩] }

/-- The walk on a database with pointers of a size. -/
def traversalWith (pointerSize : Nat) : Traversal :=
  { batch.traversal [record] record .bootServices with
    context := ⟨{ types with pointerSize }, .empty, program.image⟩ }

/-- The call in the loop, for the register. -/
def registerCall (pointerSize size : Nat) :
    SlotCall (traversalWith pointerSize) (functionWith size) where
  expr := call
  mem_calls := List.mem_singleton_self _
  matched := matchedCall (.addressOf (.var ((Variable.stack (-8) 8).rename "block")))
  matched_eq := by rfl
  arguments := ⟨.addressOf (.var (.global 0x3000 16)),
    .addressOf (.var ((Variable.stack (-8) 8).rename "block"))⟩
  arguments_eq := by rfl
  protocol := ⟨"EFI_BLOCK_IO_PROTOCOL_GUID", "EFI_BLOCK_IO_PROTOCOL"⟩
  resolve_eq := by rfl
  place := ⟨"block", .register 1, size, .pointer .void⟩
  place_mem := List.mem_singleton_self _
  unique := fun _ hother _ => List.mem_singleton.1 hother
  shape := .pointerSlot "block"
  shape_eq := .inl rfl
  classify_eq := by rfl

end BlockIo

namespace Traversal

/-- A register of eight bytes is retyped on x64. -/
theorem slot_retyped_of_room_blockIo :
    let call := BlockIo.registerCall 8 8
    BlockIo.project.isExcluded (BlockIo.functionWith 8).address = false ∧
      (BlockIo.traversalWith 8).context.types.pointerSize ≤ call.place.size ∧
      call.report (.retyped "block" (.pointer (.named "EFI_BLOCK_IO_PROTOCOL"))) ∈
        ((BlockIo.traversalWith 8).apply (BlockIo.functionWith 8) false
          BlockIo.project).1.sites := by
  intro call
  have hkept : BlockIo.project.isExcluded (BlockIo.functionWith 8).address = false := by rfl
  have hsize : (BlockIo.traversalWith 8).context.types.pointerSize ≤ call.place.size :=
    Nat.le_refl 8
  obtain ⟨htaken, -, hwide⟩ :=
    slot_retyped_of_room (BlockIo.traversalWith 8) (BlockIo.functionWith 8) call BlockIo.project
      hkept hsize
  exact ⟨hkept, hsize, (htaken (hwide (Nat.le_refl 8))).2.2⟩

/-- A register of four bytes is decided on as storage for a pointer of four bytes, and refused
as too narrow for it. -/
theorem register_of_pointer_size_refused :
    let traversal := BlockIo.traversalWith 4
    let function := BlockIo.functionWith 4
    let call := BlockIo.registerCall 4 4
    BlockIo.project.isExcluded function.address = false ∧
      traversal.context.types.pointerSize ≤ call.place.size ∧
      traversal.context.types.sizeOf call.type = some call.place.size ∧
      Destination.classify traversal.context.types function call.matched.service.pointerDepth
        call.arguments.interface = .pointerSlot "block" ∧
      BlockIo.project.accepts function.address call.place call.type = false ∧
      (traversal.apply function false BlockIo.project).1.sites =
        [call.report (.failed (.retype 0x1000 "block"))] :=
  ⟨by rfl, Nat.le_refl 4, by rfl, by rfl, by rfl, by rfl⟩

end Traversal
end UefiTyping
