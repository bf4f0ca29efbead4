import Mathlib.Data.List.Nodup
import UefiTyping.Proofs.Retype.DryRun
import UefiTyping.Proofs.Retype.Justification

/-!
# Locals that share a name

A destination is decided on at one local and offered to the store under the name of that local.
The first lookup goes by the name of the variable and then by its storage, the second by name
alone. So the store is asked for the first local of the name. That is the one decided on if the
variable was found by name, and always if the locals have names of their own; a local that was
found by its storage behind another of its name is passed over for that one.
-/
namespace UefiTyping

/-! ## Positions of locals -/

namespace DecompiledFunction
variable {function : DecompiledFunction} {name : String} {index : Nat}

/-- Where the first local of a name stands. -/
def indexOf? (function : DecompiledFunction) (name : String) : Option Nat :=
  function.locals.findIdx? (·.name == name)

/-- Where the local stands that a variable refers to. -/
def indexFor? (function : DecompiledFunction) (place : Variable) : Option Nat :=
  function.indexOf? place.name <|> function.locals.findIdx? (·.storage == place.storage)

theorem indexOf?_eq_some_iff :
    function.indexOf? name = some index ↔
      (∃ place, function.locals[index]? = some place ∧ place.name = name) ∧
        ∀ earlier < index, ∀ other, function.locals[earlier]? = some other → other.name ≠ name := by
  rw [indexOf?, List.findIdx?_eq_some_iff_getElem]
  constructor
  · rintro ⟨hlength, hname, hearlier⟩
    refine ⟨⟨_, List.getElem?_eq_getElem hlength, eq_of_beq hname⟩, fun earlier hlt other h => ?_⟩
    obtain ⟨hlength', rfl⟩ := List.getElem?_eq_some_iff.1 h
    exact fun hother => hearlier earlier hlt (beq_iff_eq.2 hother)
  · rintro ⟨⟨place, hplace, rfl⟩, hearlier⟩
    obtain ⟨hlength, rfl⟩ := List.getElem?_eq_some_iff.1 hplace
    refine ⟨hlength, beq_self_eq_true _, fun earlier hlt hname => ?_⟩
    exact hearlier earlier hlt _ (List.getElem?_eq_getElem _) (eq_of_beq hname)

theorem exists_indexOf?_of_local? {place : LocalVariable} (h : function.local? name = some place) :
    ∃ index, function.indexOf? name = some index ∧ function.locals[index]? = some place := by
  rw [local?, List.find?_eq_bind_findIdx?_getElem?] at h
  exact Option.bind_eq_some_iff.1 h

theorem indexFor?_of_indexOf? {named : Variable} (h : function.indexOf? named.name = some index) :
    function.indexFor? named = some index := by
  rw [indexFor?, h]
  rfl

/-- The local that a variable refers to stands where the variable is found. -/
theorem exists_indexFor?_of_localFor? {named : Variable} {place : LocalVariable}
    (h : function.localFor? named = some place) :
    ∃ index, function.indexFor? named = some index ∧ function.locals[index]? = some place := by
  rw [localFor?, Option.orElse_eq_orElse, Option.orElse_eq_or, Option.or_eq_some_iff] at h
  rcases h with hname | ⟨hnone, hstorage⟩
  · obtain ⟨index, hindex, hplace⟩ := exists_indexOf?_of_local? hname
    exact ⟨index, indexFor?_of_indexOf? hindex, hplace⟩
  · have hindex : function.indexOf? named.name = none :=
      List.findIdx?_eq_none_iff.2 fun place hplace => by
        simpa using List.find?_eq_none.1 hnone place hplace
    rw [indexFor?, hindex]
    rw [List.find?_eq_bind_findIdx?_getElem?] at hstorage
    exact Option.bind_eq_some_iff.1 hstorage

end DecompiledFunction

/-! ## Offers for a destination -/

/-- A store call that a matched call leads to, with the local that the destination was decided
on and the one that the store is asked for, each by its position. -/
structure DestinationOffer (traversal : Traversal) (function : DecompiledFunction)
    (call : MatchedCall) (made : StoreCall) where
  arguments : ServiceArguments
  arguments_eq : call.arguments = .ok arguments
  protocol : ResolvedProtocol
  resolve_eq : ResolvedProtocol.resolve traversal.context traversal.records traversal.restricted
    call.site arguments.guid = .ok protocol
  /-- The variable that the interface argument names. -/
  named : Variable
  byAddress : Bool
  named_eq : Destination.named? arguments.interface.stripCasts = some (named, byAddress)
  /-- The local that the variable refers to. -/
  place : LocalVariable
  localFor_eq : function.localFor? named = some place
  /-- Where that local stands. -/
  decided : Nat
  decided_eq : function.indexFor? named = some decided
  place_eq : function.locals[decided]? = some place
  shape : Destination
  shape_eq : Destination.classify traversal.context.types function call.service.pointerDepth
    arguments.interface = shape
  /-- The shape is decided by the declared type of that local. -/
  inspected : Destination.ofLocal? traversal.context.types call.service.pointerDepth place byAddress
    (Destination.isCast arguments.interface) = some shape
  retyped_eq : shape.retyped? traversal.context.types protocol.interfaceType
    call.service.pointerDepth = some (place.name, made.type)
  /-- The store is asked for what is found under the name. -/
  local_eq : function.local? place.name = some made.place
  /-- Where the local stands that the store is asked for. -/
  asked : Nat
  asked_eq : function.indexOf? place.name = some asked
  made_eq : function.locals[asked]? = some made.place

namespace DestinationOffer
variable {traversal : Traversal} {function : DecompiledFunction} {call : MatchedCall}
  {made : StoreCall} (offer : DestinationOffer traversal function call made)

/-- The store is not asked for a local behind the one decided on. -/
theorem asked_le_decided : offer.asked ≤ offer.decided := by
  obtain ⟨-, hearlier⟩ := DecompiledFunction.indexOf?_eq_some_iff.1 offer.asked_eq
  by_contra hlt
  exact hearlier offer.decided (Nat.lt_of_not_le hlt) offer.place offer.place_eq rfl

/-- The store is asked for the local decided on if that is the first of its name. -/
theorem asked_eq_decided_iff :
    offer.asked = offer.decided ↔
      ∀ earlier < offer.decided, ∀ other, function.locals[earlier]? = some other →
        other.name ≠ offer.place.name := by
  constructor
  · intro h
    rw [← h]
    exact (DecompiledFunction.indexOf?_eq_some_iff.1 offer.asked_eq).2
  · intro hearlier
    have hdecided : function.indexOf? offer.place.name = some offer.decided :=
      DecompiledFunction.indexOf?_eq_some_iff.2 ⟨⟨offer.place, offer.place_eq, rfl⟩, hearlier⟩
    exact Option.some.inj (offer.asked_eq.symm.trans hdecided)

/-- A variable that is found by its name is found at the first local of that name. -/
theorem asked_eq_decided_of_local? {found : LocalVariable}
    (h : function.local? offer.named.name = some found) : offer.asked = offer.decided := by
  obtain ⟨index, hindex, hfound⟩ := DecompiledFunction.exists_indexOf?_of_local? h
  have hdecided : offer.decided = index := Option.some.inj <|
    offer.decided_eq.symm.trans (DecompiledFunction.indexFor?_of_indexOf? hindex)
  have hplace : offer.place = found := by
    have hplace := offer.place_eq
    rw [hdecided, hfound] at hplace
    exact (Option.some.inj hplace).symm
  have hname : offer.place.name = offer.named.name :=
    hplace ▸ DecompiledFunction.name_of_local? h
  have hasked := offer.asked_eq
  rw [hname, hindex] at hasked
  rw [hdecided, Option.some.inj hasked]

theorem asked_eq_decided_of_nodup (hnames : (function.locals.map LocalVariable.name).Nodup) :
    offer.asked = offer.decided := by
  refine offer.asked_eq_decided_iff.2 fun earlier hlt other hother hname => ?_
  obtain ⟨hlength, rfl⟩ := List.getElem?_eq_some_iff.1 hother
  obtain ⟨hlength', hplace⟩ := List.getElem?_eq_some_iff.1 offer.place_eq
  have hne := List.pairwise_iff_getElem.1 hnames earlier offer.decided (by simpa) (by simpa) hlt
  rw [List.getElem_map, List.getElem_map, hplace] at hne
  exact hne hname

end DestinationOffer

namespace Traversal
variable {traversal : Traversal} {function : DecompiledFunction} {call : MatchedCall}

/-- What the store is offered for a matched call goes to the first local of the name that the
destination was decided under. -/
theorem exists_destinationOffer {σ : Type} [VariableStore σ] {dryRun : Bool} {store : σ}
    {made : StoreCall}
    (h : made ∈ ((traversal.examine function call).commit function dryRun
      (⟨store, []⟩ : Audited σ)).2.calls) :
    dryRun = false ∧ made.function = function.address ∧
      Nonempty (DestinationOffer traversal function call made) := by
  let task : Task := .settle function (traversal.examine function call)
  have hcalls := (task.perform_audited dryRun (⟨store, []⟩ : Audited σ)).2.2 made h
  obtain ⟨hreal, function', proposal, ⟨htask, hoffer, hlocal⟩, hfunction⟩ :=
    hcalls.resolve_left List.not_mem_nil
  obtain ⟨rfl, hexamine⟩ := Task.settle.inj htask
  obtain ⟨arguments, protocol, harguments, hresolve, hretyped, -⟩ :=
    examine_eq_proposed_iff.1 ⟨hexamine, hoffer⟩
  have hretyped := offer_eq_ok_iff.1 hretyped
  obtain ⟨named, byAddress, place, hnamed, hplace, hinspected⟩ :=
    Destination.exists_localFor?_of_classify hretyped
  have hname := Destination.name_of_ofLocal? hinspected hretyped
  rw [hname] at hlocal hretyped
  obtain ⟨decided, hdecided, hstands⟩ := DecompiledFunction.exists_indexFor?_of_localFor? hplace
  obtain ⟨asked, hasked, hmade⟩ := DecompiledFunction.exists_indexOf?_of_local? hlocal
  exact ⟨hreal, hfunction.symm,
    ⟨{ arguments, arguments_eq := harguments, protocol, resolve_eq := hresolve, named, byAddress,
       named_eq := hnamed, place, localFor_eq := hplace, decided, decided_eq := hdecided,
       place_eq := hstands, shape := _, shape_eq := rfl, inspected := hinspected,
       retyped_eq := hretyped, local_eq := hlocal, asked, asked_eq := hasked, made_eq := hmade }⟩⟩

/-- The store is asked for the first local of the name of the one decided on, whatever the
function, the context and the call. This is the very local that the variable in the argument
refers to, and whose type was inspected, exactly if no local before it has its name; so it is
when the variable was found by its own name, and when the locals have names of their own. -/
theorem offered_to_first_of_name {σ : Type} [VariableStore σ] (traversal : Traversal)
    (function : DecompiledFunction) (call : MatchedCall) (dryRun : Bool) (store : σ) :
    ∀ made ∈ ((traversal.examine function call).commit function dryRun
        (⟨store, []⟩ : Audited σ)).2.calls,
      dryRun = false ∧ made.function = function.address ∧
        ∃ offer : DestinationOffer traversal function call made,
          offer.asked ≤ offer.decided ∧
            (offer.asked = offer.decided ↔
              ∀ earlier < offer.decided, ∀ other, function.locals[earlier]? = some other →
                other.name ≠ offer.place.name) ∧
            (∀ found, function.local? offer.named.name = some found →
              offer.asked = offer.decided) ∧
            ((function.locals.map LocalVariable.name).Nodup → offer.asked = offer.decided) := by
  intro made hmade
  obtain ⟨hreal, hfunction, ⟨offer⟩⟩ := exists_destinationOffer hmade
  exact ⟨hreal, hfunction, offer, offer.asked_le_decided, offer.asked_eq_decided_iff,
    fun _ => offer.asked_eq_decided_of_local?, offer.asked_eq_decided_of_nodup⟩

/-- A slot that is found by its storage alone, behind a local of another name. -/
theorem offered_to_first_of_name_blockIo :
    let other : LocalVariable := ⟨"other", .register 1, 4, .sint⟩
    let function := { BlockIo.function with locals := [other, BlockIo.place] }
    let traversal := BlockIo.batch.traversal [BlockIo.record] BlockIo.record .bootServices
    let call := BlockIo.matchedCall (.addressOf (.var (Variable.stack (-8) 8)))
    let made : StoreCall :=
      ⟨0x1000, BlockIo.place, .pointer (.named "EFI_BLOCK_IO_PROTOCOL"), true⟩
    made ∈ ((traversal.examine function call).commit function false
        (⟨BlockIo.project, []⟩ : Audited _)).2.calls ∧
      (function.locals.map LocalVariable.name).Nodup ∧
      ∃ offer : DestinationOffer traversal function call made, offer.asked = offer.decided := by
  intro other function traversal call made
  have hmade : made ∈ ((traversal.examine function call).commit function false
      (⟨BlockIo.project, []⟩ : Audited _)).2.calls := by
    have hcalls : ((traversal.examine function call).commit function false
        (⟨BlockIo.project, []⟩ : Audited _)).2.calls = [made] := by rfl
    rw [hcalls]
    exact List.mem_singleton_self made
  have hnames : (function.locals.map LocalVariable.name).Nodup := by
    simp [function, other, BlockIo.place]
  obtain ⟨-, -, offer, -, -, -, hsame⟩ :=
    offered_to_first_of_name traversal function call false BlockIo.project made hmade
  exact ⟨hmade, hnames, offer, hsame hnames⟩

/-- The slot is decided on, as the second local, and a register of the same name stands before
it: the store is asked for the register, and a project refuses it for its width. -/
theorem offered_to_register_of_same_name :
    let register : LocalVariable := ⟨"block", .register 1, 4, .sint⟩
    let function := { BlockIo.function with locals := [register, BlockIo.place] }
    let traversal := BlockIo.batch.traversal [BlockIo.record] BlockIo.record .bootServices
    let named := Variable.stack (-8) 8
    let call := BlockIo.matchedCall (.addressOf (.var named))
    let result := (traversal.examine function call).commit function false
      (⟨BlockIo.project, []⟩ : Audited _)
    function.localFor? named = some BlockIo.place ∧ function.indexFor? named = some 1 ∧
      Destination.classify traversal.context.types function 1 (.addressOf (.var named)) =
        .pointerSlot "block" ∧
      result.2.calls.map (·.place) = [register] ∧ function.indexOf? "block" = some 0 ∧
      result.1.sites.map (·.outcome) = [.failed (.retype 0x1000 "block")] :=
  ⟨by rfl, by rfl, by rfl, by rfl, by rfl, by rfl⟩

end Traversal
end UefiTyping
