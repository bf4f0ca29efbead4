import UefiTyping.Proofs.Function.Containment
import UefiTyping.Retype.Finding

/-!
# What a decision establishes

A traversal decides at each call in steps that can fail: the slot, the service, the
arguments, the GUID, the protocol, the destination. Each step succeeds under a condition
of its own, stated here once, and so a proposal with an offer is traced back to the call
that it was made for.
-/
namespace UefiTyping

/-! ## Matching -/

/-- A service is found by its whole offset. -/
theorem TableSlot.service?_eq_some {slot : TableSlot} {table : ServiceTable}
    {service : CallDescriptor} (h : slot.service? table = some service) :
    service ∈ table.entries ∧ slot.offset.toNat = service.tableOffset.toNat := by
  rw [service?, Option.ite_none_right_eq_some] at h
  obtain ⟨hsmall, hfound⟩ := h
  rw [ServiceTable.findByOffset?] at hfound
  have hoffset := List.find?_some hfound
  rw [beq_iff_eq] at hoffset
  refine ⟨List.mem_of_find?_eq_some hfound, ?_⟩
  rw [hoffset, UInt64.toNat_toUInt32, Nat.mod_eq_of_lt hsmall]

/-- What a matched call is: a call through a slot of the table that has a service. -/
theorem MatchedCall.ofCall?_eq_some_iff {db : TypeDatabase} {function : DecompiledFunction}
    {table : ServiceTable} {recordAddress : UInt64} {e : Expr} {call : MatchedCall} :
    ofCall? db function table recordAddress e = some call ↔
      ∃ target address slot, e = .callThrough target call.args address ∧
        TableSlot.ofTarget? target = some slot ∧ slot.service? table = some call.service ∧
        slot.mayBe db function table = true ∧ call.site = address.getD recordAddress := by
  cases e
  case callThrough target args address =>
    simp only [ofCall?, Option.bind_eq_bind, Option.bind_eq_some_iff, Option.ite_none_right_eq_some,
      Option.some.injEq, Expr.callThrough.injEq]
    constructor
    · rintro ⟨slot, hslot, service, hservice, hmay, rfl⟩
      exact ⟨target, address, slot, ⟨rfl, rfl, rfl⟩, hslot, hservice, hmay, rfl⟩
    · rintro ⟨_, _, slot, ⟨rfl, rfl, rfl⟩, hslot, hservice, hmay, hsite⟩
      refine ⟨slot, hslot, _, hservice, hmay, ?_⟩
      rw [← hsite]
  all_goals simp [ofCall?]

/-- The arguments are told when their number is right and the descriptor points at them. -/
theorem MatchedCall.arguments_eq_ok_iff {call : MatchedCall} {arguments : ServiceArguments} :
    call.arguments = .ok arguments ↔
      call.args.length = call.service.argCount ∧
        call.args[call.service.guidIndex]? = some arguments.guid ∧
        call.args[call.service.interfaceIndex]? = some arguments.interface := by
  rw [MatchedCall.arguments]
  by_cases hlength : call.args.length = call.service.argCount
  · simp only [hlength, ne_eq, not_true_eq_false, if_false, true_and]
    cases call.args[call.service.guidIndex]? with
    | none => simp
    | some guid =>
      cases call.args[call.service.interfaceIndex]? with
      | none => simp
      | some interface =>
        obtain ⟨guid', interface'⟩ := arguments
        simp
  · simp [hlength]

/-! ## Resolution -/

/-- A record allows the GUIDs that it could describe, at its own address. -/
theorem UsageRecord.allows_iff {record : UsageRecord} {site : UInt64} {guid : Guid} :
    record.allows site guid = true ↔
      record.codeAddress = site ∧ (record.guid = none ∨ record.guid = some guid) := by
  rw [UsageRecord.allows, matchesGuid]
  cases record.guid <;> simp

namespace ResolvedProtocol
variable {records : List UsageRecord} {site : UInt64} {argument : Expr} {guid : Guid}
  {protocol : ResolvedProtocol}

theorem guidOf?_eq_some_iff {image : Image} :
    guidOf? image argument = some guid ↔
      ∃ location, argument.simplify.constantAddress = some location ∧
        image.read? location 16 = some guid.bytes.toList := by
  simp only [guidOf?, Option.bind_eq_bind, Option.bind_eq_some_iff, Image.guid?_eq_some_iff]

/-- The protocol of a GUID is the one registered, else one named by a record for the site
that carries the GUID. -/
theorem ofGuid?_eq_some {protocols : ProtocolRegistry}
    (h : ofGuid? protocols records site guid = some protocol) :
    (∃ entry, protocols.lookup? guid = some entry ∧
        protocol = ⟨entry.protocolName, entry.interfaceType⟩) ∨
      protocols.lookup? guid = none ∧ ∃ record ∈ records, record.codeAddress = site ∧
        record.guid = some guid ∧ record.protocolName = some protocol.name ∧
        protocol.interfaceType = interfaceTypeFor protocol.name := by
  rw [ofGuid?] at h
  split at h
  case h_1 entry hentry => exact .inl ⟨entry, hentry, (Option.some.inj h).symm⟩
  case h_2 hnone =>
    obtain ⟨name, hname, rfl⟩ := Option.map_eq_some_iff.1 h
    obtain ⟨record, hfound, hrecord⟩ := Option.bind_eq_some_iff.1 hname
    have hmatch := List.find?_some hfound
    rw [Bool.and_eq_true, beq_iff_eq, beq_iff_eq] at hmatch
    exact .inr ⟨hnone, record, List.mem_of_find?_eq_some hfound, hmatch.1, hmatch.2, hrecord, rfl⟩

theorem resolve_eq_ok_iff {context : AnalysisContext} {restricted : Bool} :
    resolve context records restricted site argument = .ok protocol ↔
      ∃ guid, guidOf? context.image argument = some guid ∧
        (restricted = true → ∃ record ∈ records, record.allows site guid = true) ∧
        ofGuid? context.protocols records site guid = some protocol ∧
        context.types.has protocol.interfaceType = true := by
  rw [resolve]
  cases guidOf? context.image argument with
  | none => simp
  | some guid =>
    have hguard : (restricted && !records.any (·.allows site guid)) = true ↔
        ¬ (restricted = true → ∃ record ∈ records, record.allows site guid = true) := by
      cases restricted <;> simp
    simp only [hguard, Option.some.injEq, exists_eq_left']
    by_cases hallowed : restricted = true → ∃ record ∈ records, record.allows site guid = true
    · rw [if_neg (not_not_intro hallowed)]
      cases ofGuid? context.protocols records site guid with
      | none => simp
      | some found =>
        by_cases hhas : context.types.has found.interfaceType = true
        · simp only [hhas, if_true, Except.ok.injEq, Option.some.injEq]
          constructor
          · rintro rfl
            exact ⟨hallowed, rfl, hhas⟩
          · rintro ⟨-, rfl, -⟩
            rfl
        · simp only [hhas, Option.some.injEq]
          constructor
          · intro h
            cases h
          · rintro ⟨-, rfl, hhas'⟩
            exact absurd hhas' hhas
    · rw [if_pos hallowed]
      simp [hallowed]

/-- All that resolution can fail with. -/
theorem error_of_resolve {context : AnalysisContext} {restricted : Bool} {error : AnalysisError}
    (h : resolve context records restricted site argument = .error error) :
    error = .unresolvedGuid site argument.text ∨ (∃ guid, error = .unknownProtocol site guid) ∨
      ∃ name type, error = .unknownInterfaceType name type := by
  rw [resolve] at h
  cases hguid : guidOf? context.image argument with
  | none =>
    rw [hguid] at h
    exact .inl (Except.error.inj h).symm
  | some guid =>
    simp only [hguid] at h
    by_cases hguard : (restricted && !records.any (·.allows site guid)) = true
    · rw [if_pos hguard] at h
      exact .inr (.inl ⟨guid, (Except.error.inj h).symm⟩)
    · rw [if_neg hguard] at h
      cases hprotocol : ofGuid? context.protocols records site guid with
      | none =>
        rw [hprotocol] at h
        exact .inr (.inl ⟨guid, (Except.error.inj h).symm⟩)
      | some protocol =>
        simp only [hprotocol] at h
        by_cases hhas : context.types.has protocol.interfaceType = true
        · rw [if_pos hhas] at h
          cases h
        · rw [if_neg hhas] at h
          exact .inr (.inr ⟨_, _, (Except.error.inj h).symm⟩)

end ResolvedProtocol

/-! ## Proposals -/

/-- A slot becomes a pointer to the interface, and an array becomes one of pointers. -/
theorem Destination.type_of_retyped? {destination : Destination} {db : TypeDatabase}
    {interface : String} {depth : Nat} {name : String} {type : CType}
    (h : destination.retyped? db interface depth = some (name, type)) :
    type = .pointer (.named interface) ∨
      ∃ length, type = .array ((CType.named interface).withPointers depth) length := by
  cases destination with
  | pointerSlot place | pointerToPointer place =>
    obtain ⟨-, rfl⟩ : place = name ∧ _ = type := by simpa [retyped?] using h
    exact .inl rfl
  | podArray place length =>
    obtain ⟨-, rfl⟩ : place = name ∧ _ = type := by simpa [retyped?] using h
    exact .inr ⟨length, rfl⟩
  | unsupported argument => cases h

namespace Traversal
variable {traversal : Traversal} {function : DecompiledFunction} {call : MatchedCall}
  {offer : String × CType}

/-- The matched calls stand in the body. -/
theorem mem_matchedCalls_iff :
    call ∈ traversal.matchedCalls function ↔
      ∃ target address slot, function.Contains (.callThrough target call.args address) ∧
        TableSlot.ofTarget? target = some slot ∧
        slot.service? traversal.table = some call.service ∧
        slot.mayBe traversal.context.types function traversal.table = true ∧
        call.site = address.getD traversal.recordAddress := by
  simp only [matchedCalls, List.mem_filterMap, DecompiledFunction.mem_calls_iff,
    MatchedCall.ofCall?_eq_some_iff]
  constructor
  · rintro ⟨_, ⟨hcontains, -⟩, target, address, slot, rfl, h⟩
    exact ⟨target, address, slot, hcontains, h⟩
  · rintro ⟨target, address, slot, hcontains, h⟩
    exact ⟨_, ⟨hcontains, rfl⟩, target, address, slot, rfl, h⟩

theorem offer_eq_ok_iff {argument : Expr} {protocol : ResolvedProtocol} :
    traversal.offer function call argument protocol = .ok offer ↔
      (Destination.classify traversal.context.types function call.service.pointerDepth
        argument).retyped? traversal.context.types protocol.interfaceType
          call.service.pointerDepth = some offer := by
  rw [Traversal.offer]
  split
  case h_1 found hfound => rw [hfound, Except.ok.injEq, Option.some.injEq]
  case h_2 hnone => simp [hnone]

/-- Where nothing is offered the argument names no destination. -/
theorem error_of_offer {argument : Expr} {protocol : ResolvedProtocol} {error : AnalysisError}
    (h : traversal.offer function call argument protocol = .error error) :
    error = .unsupportedDestination call.site argument.text := by
  simp only [Traversal.offer] at h
  split at h
  · cases h
  · exact (Except.error.inj h).symm

/-- Traversals that match the same calls, and resolve the same protocols at them, find the
same. -/
theorem findings_congr {first second : Traversal} (hcontext : first.context = second.context)
    (hcalls : first.matchedCalls function = second.matchedCalls function)
    (hresolve : ∀ call ∈ first.matchedCalls function, ∀ argument,
      ResolvedProtocol.resolve first.context first.records first.restricted call.site argument =
        ResolvedProtocol.resolve second.context second.records second.restricted call.site
          argument) :
    first.findings function = second.findings function := by
  rw [findings, findings, ← hcalls]
  refine List.map_congr_left fun call hcall => ?_
  have hpropose : first.propose function call = second.propose function call := by
    funext arguments
    rw [propose, propose, hresolve call hcall]
    simp only [Traversal.offer, hcontext]
  simp only [examine, hpropose]

/-- An offer is made at a call whose arguments are told, whose protocol is resolved and whose
destination can be retyped. -/
theorem examine_eq_proposed_iff {proposal : Proposal} :
    (traversal.examine function call = .proposed proposal ∧ proposal.offer = .ok offer) ↔
      ∃ arguments protocol, call.arguments = .ok arguments ∧
        ResolvedProtocol.resolve traversal.context traversal.records traversal.restricted
          call.site arguments.guid = .ok protocol ∧
        traversal.offer function call arguments.interface protocol = .ok offer ∧
        proposal = ⟨call.site, call.service.name, some protocol.name, .ok offer⟩ := by
  constructor
  · rintro ⟨hexamine, hoffer⟩
    rw [examine] at hexamine
    cases harguments : call.arguments with
    | error fault => simp [harguments] at hexamine
    | ok arguments =>
      simp only [harguments, Finding.proposed.injEq] at hexamine
      subst hexamine
      rw [propose] at hoffer ⊢
      cases hresolve : ResolvedProtocol.resolve traversal.context traversal.records
          traversal.restricted call.site arguments.guid with
      | error error => simp [hresolve] at hoffer
      | ok protocol =>
        simp only [hresolve] at hoffer
        exact ⟨arguments, protocol, rfl, hresolve, hoffer, by simp [hoffer]⟩
  · rintro ⟨arguments, protocol, harguments, hresolve, hoffer, rfl⟩
    exact ⟨by simp [examine, harguments, propose, hresolve, hoffer], rfl⟩

/-- A proposal with an offer comes from a matched call whose arguments are told, whose
protocol is resolved and whose destination can be retyped. -/
theorem proposed_mem_findings_iff {proposal : Proposal} :
    (.proposed proposal ∈ traversal.findings function ∧ proposal.offer = .ok offer) ↔
      ∃ call ∈ traversal.matchedCalls function, ∃ arguments protocol,
        call.arguments = .ok arguments ∧
        ResolvedProtocol.resolve traversal.context traversal.records traversal.restricted
          call.site arguments.guid = .ok protocol ∧
        traversal.offer function call arguments.interface protocol = .ok offer ∧
        proposal = ⟨call.site, call.service.name, some protocol.name, .ok offer⟩ := by
  simp only [findings, List.mem_map, ← examine_eq_proposed_iff]
  constructor
  · rintro ⟨⟨call, hcall, hexamine⟩, hoffer⟩
    exact ⟨call, hcall, hexamine, hoffer⟩
  · rintro ⟨call, hcall, hexamine, hoffer⟩
    exact ⟨⟨call, hcall, hexamine⟩, hoffer⟩

end Traversal
end UefiTyping
