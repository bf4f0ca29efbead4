import UefiTyping.Proofs.Retype.DryRun
import UefiTyping.Proofs.TypeDatabase.Width

/-!
# Numbers in the types of a run

The types that a run offers carry no number of their own but the length of an array, and that
is the length of an array that was there before. So a run over types whose numbers fit in
words offers such types only.
-/
namespace UefiTyping

namespace CType

theorem FitsWords.withPointers {type : CType} (h : type.FitsWords) (depth : Nat) :
    (type.withPointers depth).FitsWords := by
  induction depth with
  | zero => exact h
  | succ depth ih => exact .pointer ih

theorem FitsWords.length_lt {type element : CType} {length : Option Nat} (h : type.FitsWords)
    (hparts : type.arrayParts? = some (element, length)) : ∀ n ∈ length, n < UInt64.size := by
  cases h with
  | array _ hlength =>
    obtain ⟨-, rfl⟩ := Prod.mk.inj (Option.some.inj hparts)
    exact hlength
  | void | int | float | pointer | struct | union | enum | function | synonym | named =>
    cases hparts

end CType

/-! ## Offers -/

namespace Destination
variable {db : TypeDatabase} {depth : Nat} {interface name : String} {type : CType}

theorem fitsWords_of_retyped? {destination : Destination}
    (hlength : ∀ {place length}, destination = .podArray place length →
      ∀ n ∈ length, n < UInt64.size)
    (h : destination.retyped? db interface depth = some (name, type)) : type.FitsWords := by
  cases destination with
  | pointerSlot place | pointerToPointer place =>
    obtain ⟨-, rfl⟩ := Prod.mk.inj (Option.some.inj h)
    exact .pointer (.named interface)
  | podArray place length =>
    obtain ⟨-, rfl⟩ := Prod.mk.inj (Option.some.inj h)
    exact .array (CType.FitsWords.withPointers (.named interface) depth) (hlength rfl)
  | unsupported argument => cases h

/-- An array keeps the length that its type resolves to. -/
theorem length_lt_of_ofLocal? (hdb : db.FitsWords) {place : LocalVariable}
    (hplace : place.type.FitsWords) {byAddress cast : Bool} {length : Option Nat}
    (h : ofLocal? db depth place byAddress cast = some (.podArray name length)) :
    ∀ n ∈ length, n < UInt64.size := by
  rw [ofLocal?] at h
  split at h
  · obtain ⟨-, rfl⟩ := Destination.podArray.inj (Option.some.inj h)
    intro n hn
    obtain ⟨parts, hparts, hlength⟩ := Option.bind_eq_some_iff.1 hn
    obtain ⟨concrete, hresolve, harray⟩ := Option.bind_eq_some_iff.1 hparts
    exact (hdb.of_chase hplace hresolve).length_lt harray n hlength
  · rw [Option.ite_none_right_eq_some] at h
    cases cast
    · cases h.2
    · cases h.2

end Destination

namespace RetypeBatch

/-- The types that a batch works with fit in words: those of its database, and those of the
locals of its functions. -/
structure FitsWords (batch : RetypeBatch) : Prop where
  types : batch.types.FitsWords
  locals : ∀ {entry function}, batch.source.decompile entry = .ok function →
    ∀ place ∈ function.locals, place.type.FitsWords

/-- What is offered fits in words. -/
theorem FitsWords.of_offers {batch : RetypeBatch} (h : batch.FitsWords)
    {records : List UsageRecord} {task : Task} (htask : task ∈ batch.agenda records)
    {function : DecompiledFunction} {proposal : Proposal} {place : LocalVariable} {type : CType}
    (hoffers : task.Offers function proposal place type) : type.FitsWords := by
  -- From the offer back to the local whose array keeps its length.
  obtain ⟨rfl, hoffer, -⟩ := hoffers
  obtain ⟨record, -, hfound, table, -, hfinding⟩ := settle_mem_agenda_iff.1 htask
  obtain ⟨entry, -, hdecompiled⟩ := functionOf_eq_ok_iff.1 hfound
  obtain ⟨matched, -, arguments, protocol, -, -, hretyped, -⟩ :=
    Traversal.proposed_mem_findings_iff.1 ⟨hfinding, hoffer⟩
  obtain ⟨found, hlocal, byAddress, cast, destination, hdestination, htype⟩ :=
    Destination.exists_ofLocal?_of_classify (Traversal.offer_eq_ok_iff.1 hretyped)
  refine Destination.fitsWords_of_retyped? ?_ htype
  rintro name length rfl
  exact Destination.length_lt_of_ofLocal? h.types (h.locals hdecompiled found hlocal) hdestination

end RetypeBatch
end UefiTyping
