import UefiTyping.Proofs.Retype.Agenda
import UefiTyping.Proofs.Retype.Decision

/-!
# Justified retyping

Whatever the store answers, a run offers it a type only for a reason: a recorded function
with a matched service call, a GUID that can be read, a protocol that goes with it, and a
local that the call writes to. The offers are seen through an audited store, which answers
as the store inside it does and writes every offer down.
-/
namespace UefiTyping

/-! ## Audited runs -/

section Audit
variable {σ : Type} [VariableStore σ]

namespace Task

/-- The task offers a type to the local of a store call. -/
def OffersCall (task : Task) (call : StoreCall) : Prop :=
  ∃ function proposal, task.Offers function proposal call.place call.type ∧
    function.address = call.function

/-- Performing a task on an audited store is performing it on the store inside, and what is
written down is an offer of the task. -/
theorem perform_audited (dryRun : Bool) (task : Task) (audited : Audited σ) :
    (task.perform dryRun audited).1 = (task.perform dryRun audited.store).1 ∧
      (task.perform dryRun audited).2.store = (task.perform dryRun audited.store).2 ∧
      ∀ call ∈ (task.perform dryRun audited).2.calls,
        call ∈ audited.calls ∨ dryRun = false ∧ task.OffersCall call := by
  rcases task.perform_cases dryRun with
    ⟨report, -, hperform⟩ | ⟨function, proposal, place, type, hreal, hoffers, hperform⟩
  · rw [hperform audited, hperform audited.store]
    exact ⟨rfl, rfl, fun call hcall => .inl hcall⟩
  · rw [hperform audited, hperform audited.store]
    refine ⟨rfl, rfl, fun call hcall => ?_⟩
    rcases List.mem_append.1 hcall with hold | hnew
    · exact .inl hold
    · obtain rfl := List.mem_singleton.1 hnew
      exact .inr ⟨hreal, function, proposal, hoffers, rfl⟩

end Task

namespace RetypeBatch

/-- An audited run reports what the run on the store inside reports and leaves that store
the same. -/
theorem run_audited (batch : RetypeBatch) (records : List UsageRecord) (audited : Audited σ) :
    (batch.run records audited).1 = (batch.run records audited.store).1 ∧
      (batch.run records audited).2.store = (batch.run records audited.store).2 := by
  rw [run_eq_each_agenda, run_eq_each_agenda]
  refine Stage.each_simulation (R := fun (audited : Audited σ) store => audited.store = store)
    _ _ _ ?_ rfl
  rintro task - audited store rfl
  have hperform := task.perform_audited batch.config.dryRun audited
  exact ⟨hperform.1, hperform.2.1⟩

/-- Every store call of a run is an offer on its agenda, and made for real. -/
theorem offers_of_mem_calls {batch : RetypeBatch} {records : List UsageRecord} {store : σ}
    {call : StoreCall} (h : call ∈ (batch.run records (⟨store, []⟩ : Audited σ)).2.calls) :
    batch.config.dryRun = false ∧ ∃ task ∈ batch.agenda records, task.OffersCall call := by
  rw [run_eq_each_agenda] at h
  refine Stage.each_invariant (I := fun audited : Audited σ => ∀ call ∈ audited.calls,
      batch.config.dryRun = false ∧ ∃ task ∈ batch.agenda records, task.OffersCall call)
    (Task.perform batch.config.dryRun) _ ?_ (by simp) call h
  intro task htask audited haudited call hcall
  rcases (task.perform_audited batch.config.dryRun audited).2.2 call hcall with hold | hnew
  · exact haudited call hold
  · exact ⟨hnew.1, task, htask, hnew.2⟩

end RetypeBatch
end Audit

/-! ## Justifications -/

section Justification
variable (source : FunctionSource) (types : TypeDatabase) (protocols : ProtocolRegistry)
  (registry : ServiceTableRegistry) (config : RetypeConfig) (records : List UsageRecord)

/-- A call of a service of an enabled table, in the function of one of the records. -/
structure ServiceSite where
  record : UsageRecord
  record_mem : record ∈ records
  entry : UInt64
  entry_eq : (record.functionAddress <|> source.functionAt? record.codeAddress) = some entry
  function : DecompiledFunction
  decompiled : source.decompile entry = .ok function
  kind : ServiceTableKind
  enabled : kind ∈ config.tables
  table : ServiceTable
  registered : registry.ofKind? kind = some table
  service : CallDescriptor
  service_mem : service ∈ table.entries
  target : Expr
  args : List Expr
  address : Option UInt64
  contained : function.Contains (.callThrough target args address)
  slot : TableSlot
  slot_eq : TableSlot.ofTarget? target = some slot
  offset_eq : slot.offset.toNat = service.tableOffset.toNat
  /-- The base of the slot is not declared as another table. -/
  mayBe : slot.mayBe types function table = true
  args_length : args.length = service.argCount

variable {source types registry config records} in
/-- The address that a site is known by: that of the call, else that of the record. -/
def ServiceSite.site (place : ServiceSite source types registry config records) : UInt64 :=
  place.address.getD place.record.codeAddress

/-- What justifies a store call: a service call whose GUID argument denotes a stored GUID,
an interface type that goes with the GUID, and an interface argument that the local
receives. -/
structure Justification (call : StoreCall) extends
    ServiceSite source types registry config records where
  function_eq : function.address = call.function
  local_mem : call.place ∈ function.locals
  guidArgument : Expr
  guidArgument_eq : args[service.guidIndex]? = some guidArgument
  location : UInt64
  location_eq : guidArgument.simplify.constantAddress = some location
  guid : Guid
  /-- The sixteen bytes of the GUID are stored at the address that its argument denotes. -/
  stored : source.image.read? location 16 = some guid.bytes.toList
  allowed : config.requireUsageSite = true →
    ∃ other ∈ records, other.codeAddress = toServiceSite.site ∧
      (other.guid = none ∨ other.guid = some guid)
  interface : String
  /-- The interface is that of the registered protocol; a record stands in for a missing one. -/
  interface_eq :
    (∃ entry, protocols.lookup? guid = some entry ∧ interface = entry.interfaceType) ∨
      protocols.lookup? guid = none ∧ ∃ other ∈ records, ∃ name,
        other.codeAddress = toServiceSite.site ∧ other.guid = some guid ∧
          other.protocolName = some name ∧ interface = interfaceTypeFor name
  known : types.has interface = true
  interfaceArgument : Expr
  interfaceArgument_eq : args[service.interfaceIndex]? = some interfaceArgument
  /-- The interface argument names the local. -/
  destination :
    (Destination.classify types function service.pointerDepth interfaceArgument).retyped? types
      interface service.pointerDepth = some (call.place.name, call.type)
  /-- The new type is a pointer to the interface, or an array of such at the service's depth. -/
  type_eq : call.type = .pointer (.named interface) ∨
    ∃ length, call.type = .array ((CType.named interface).withPointers service.pointerDepth) length

variable {source types protocols registry config records}

/-- An offer on the agenda is justified for the store call that makes it. -/
theorem Justification.nonempty_of_offers {task : Task} {call : StoreCall}
    (htask : task ∈
      (RetypeBatch.ofRegistry source types protocols registry config).agenda records)
    (hoffers : task.OffersCall call) :
    Nonempty (Justification source types protocols registry config records call) := by
  -- From the offer back to the record: the task, its finding, the call, and what it asks for.
  obtain ⟨function, proposal, ⟨rfl, hoffer, hlocal⟩, hfunction⟩ := hoffers
  obtain ⟨record, hrecord, hfound, table, htable, hfinding⟩ :=
    RetypeBatch.settle_mem_agenda_iff.1 htask
  obtain ⟨kind, henabled, hregistered⟩ := List.mem_filterMap.1 htable
  obtain ⟨entry, hentry, hdecompiled⟩ := RetypeBatch.functionOf_eq_ok_iff.1 hfound
  obtain ⟨matched, hmatched, arguments, protocol, harguments, hresolve, hretyped, -⟩ :=
    Traversal.proposed_mem_findings_iff.1 ⟨hfinding, hoffer⟩
  obtain ⟨target, address, slot, hcontained, hslot, hservice, hmay, hsite⟩ :=
    Traversal.mem_matchedCalls_iff.1 hmatched
  obtain ⟨hentries, hoffset⟩ := TableSlot.service?_eq_some hservice
  obtain ⟨hlength, hguidArgument, hinterfaceArgument⟩ :=
    MatchedCall.arguments_eq_ok_iff.1 harguments
  obtain ⟨guid, hguid, hallowed, hprotocol, hknown⟩ :=
    ResolvedProtocol.resolve_eq_ok_iff.1 hresolve
  obtain ⟨location, hlocation, hstored⟩ := ResolvedProtocol.guidOf?_eq_some_iff.1 hguid
  have hdestination := Traversal.offer_eq_ok_iff.1 hretyped
  have hallowed : config.requireUsageSite = true → ∃ other ∈ records,
      other.codeAddress = matched.site ∧ (other.guid = none ∨ other.guid = some guid) := by
    intro hrestricted
    obtain ⟨other, hother, hallows⟩ := hallowed hrestricted
    exact ⟨other, hother, UsageRecord.allows_iff.1 hallows⟩
  have hinterface := ResolvedProtocol.ofGuid?_eq_some hprotocol
  rw [hsite] at hallowed hinterface
  let place : ServiceSite source types registry config records :=
    { record, record_mem := hrecord, entry, entry_eq := hentry, function,
      decompiled := hdecompiled, kind, enabled := henabled, table, registered := hregistered,
      service := matched.service, service_mem := hentries, target, args := matched.args, address,
      contained := hcontained, slot, slot_eq := hslot, offset_eq := hoffset, mayBe := hmay,
      args_length := hlength }
  exact ⟨{ toServiceSite := place
           function_eq := hfunction
           local_mem := DecompiledFunction.mem_of_local? hlocal
           guidArgument := arguments.guid
           guidArgument_eq := hguidArgument
           location
           location_eq := hlocation
           guid
           stored := hstored
           allowed := hallowed
           interface := protocol.interfaceType
           interface_eq := by
             rcases hinterface with ⟨known, hlookup, rfl⟩ | ⟨hnone, other, hother, h⟩
             · exact .inl ⟨known, hlookup, rfl⟩
             · exact .inr ⟨hnone, other, hother, protocol.name, h⟩
           known := hknown
           interfaceArgument := arguments.interface
           interfaceArgument_eq := hinterfaceArgument
           destination := hdestination
           type_eq := Destination.type_of_retyped? hdestination }⟩

/-- No retyping without a reason: every type that a run offers to its store is justified,
whatever the store answers, and a run that only plans offers none. -/
theorem RetypeBatch.store_calls_justified {σ : Type} [VariableStore σ] (source : FunctionSource)
    (types : TypeDatabase) (protocols : ProtocolRegistry) (registry : ServiceTableRegistry)
    (config : RetypeConfig) (records : List UsageRecord) (store : σ) :
    let batch := ofRegistry source types protocols registry config
    let audited := batch.run records (⟨store, []⟩ : Audited σ)
    (audited.1, audited.2.store) = batch.run records store ∧
      ∀ call ∈ audited.2.calls, config.dryRun = false ∧
        Nonempty (Justification source types protocols registry config records call) := by
  intro batch audited
  obtain ⟨hreport, hstore⟩ := batch.run_audited records (⟨store, []⟩ : Audited σ)
  refine ⟨Prod.ext hreport hstore, fun call hcall => ?_⟩
  obtain ⟨hreal, task, htask, hoffers⟩ := offers_of_mem_calls hcall
  exact ⟨hreal, Justification.nonempty_of_offers htask hoffers⟩

/-- The one type that the project is offered for the interface of the located protocol. -/
theorem RetypeBatch.store_calls_justified_blockIo :
    let offer : StoreCall :=
      ⟨0x1000, BlockIo.place, .pointer (.named "EFI_BLOCK_IO_PROTOCOL"), true⟩
    let audited := BlockIo.batch.run [BlockIo.record] (⟨BlockIo.project, []⟩ : Audited _)
    audited.2.calls = [offer] ∧ Nonempty (Justification BlockIo.program.source BlockIo.types .empty
      BlockIo.registry .standard [BlockIo.record] offer) := by
  intro offer audited
  have hcalls : audited.2.calls = [offer] := by rfl
  have hmem : offer ∈ audited.2.calls := by
    rw [hcalls]
    exact List.mem_singleton_self offer
  refine ⟨hcalls, ?_⟩
  exact ((store_calls_justified BlockIo.program.source BlockIo.types .empty BlockIo.registry
    .standard [BlockIo.record] BlockIo.project).2 offer hmem).2

end Justification
end UefiTyping
