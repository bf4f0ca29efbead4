import UefiTyping.Proofs.ListSearch
import UefiTyping.Proofs.Retype.Agenda
import UefiTyping.Proofs.Retype.Decision

/-!
# Protocols named by records

A GUID that the registry lacks is named by the usage records. Of the records at the site that
carry the GUID only the first is asked. What it names is the protocol; when it names none there
is none, whatever the records behind it name. So a name that is at hand is lost behind a record
that leaves it out, even where all the names agree.

The restriction to recorded sites has no part in this: a record that names the protocol carries
the GUID, and so allows it.
-/
namespace UefiTyping

namespace UsageRecord

/-- The record is one of the site, and carries the very GUID. -/
def Carries (record : UsageRecord) (site : UInt64) (guid : Guid) : Prop :=
  record.codeAddress = site ∧ record.guid = some guid

/-- The record is the first of the site that carries the GUID. -/
def IsFirst (record : UsageRecord) (records : List UsageRecord) (site : UInt64) (guid : Guid) :
    Prop :=
  ∃ before after, records = before ++ record :: after ∧ record.Carries site guid ∧
    ∀ other ∈ before, ¬ other.Carries site guid

/-- The records of the site that carry the GUID and name a protocol all name the same. -/
def AgreeAt (records : List UsageRecord) (site : UInt64) (guid : Guid) : Prop :=
  ∀ a ∈ records, ∀ b ∈ records, a.Carries site guid → b.Carries site guid →
    ∀ name ∈ a.protocolName, ∀ name' ∈ b.protocolName, name = name'

/-- The first record of the site that carries the GUID leaves the protocol out. -/
def FirstUnnamed (records : List UsageRecord) (site : UInt64) (guid : Guid) : Prop :=
  ∃ record : UsageRecord, record.IsFirst records site guid ∧ record.protocolName = none

variable {record : UsageRecord} {records : List UsageRecord} {site : UInt64} {guid : Guid}

/-- Records agree when there is one name for all of them. -/
theorem AgreeAt.of_name (name : String)
    (h : ∀ record ∈ records, ∀ name' ∈ record.protocolName, name' = name) :
    AgreeAt records site guid := fun a ha b hb _ _ name hname name' hname' =>
  (h a ha name hname).trans (h b hb name' hname').symm

theorem IsFirst.mem (h : record.IsFirst records site guid) : record ∈ records := by
  obtain ⟨before, after, rfl, -, -⟩ := h
  exact List.mem_append_right _ List.mem_cons_self

theorem IsFirst.carries (h : record.IsFirst records site guid) : record.Carries site guid := by
  obtain ⟨before, after, -, hcarries, -⟩ := h
  exact hcarries

/-- A record that carries the GUID is allowed to be used for it. -/
theorem Carries.allows (h : record.Carries site guid) : record.allows site guid = true :=
  allows_iff.2 ⟨h.1, .inr h.2⟩

theorem carries_iff :
    (record.codeAddress == site && record.guid == some guid) = true ↔ record.Carries site guid := by
  rw [Bool.and_eq_true, beq_iff_eq, beq_iff_eq, Carries]

/-- The first record is the one that a search comes to. -/
theorem find?_eq_some_iff_isFirst :
    records.find? (fun record => record.codeAddress == site && record.guid == some guid) =
      some record ↔ record.IsFirst records site guid :=
  find?_eq_some_iff_first fun _ => carries_iff

/-- Where some record carries the GUID, one is the first. -/
theorem exists_isFirst (hmem : record ∈ records) (hcarries : record.Carries site guid) :
    ∃ first : UsageRecord, first.IsFirst records site guid :=
  exists_first_of_mem hmem hcarries

end UsageRecord

namespace ResolvedProtocol
variable {context : AnalysisContext} {records : List UsageRecord} {site : UInt64} {argument : Expr}
  {guid : Guid} {name : String}

theorem recordedName?_of_isFirst {record : UsageRecord} (h : record.IsFirst records site guid) :
    recordedName? records site guid = record.protocolName := by
  rw [recordedName?, UsageRecord.find?_eq_some_iff_isFirst.2 h]
  rfl

theorem exists_isFirst_of_recordedName? (h : recordedName? records site guid = some name) :
    ∃ record : UsageRecord, record.IsFirst records site guid ∧ record.protocolName = some name := by
  obtain ⟨record, hfound, hname⟩ := Option.bind_eq_some_iff.1 h
  exact ⟨record, UsageRecord.find?_eq_some_iff_isFirst.1 hfound, hname⟩

/-- A GUID that the registry lacks resolves to what the records name, restricted or not. -/
theorem resolve_of_unregistered (hguid : guidOf? context.image argument = some guid)
    (hunregistered : context.protocols.lookup? guid = none) (restricted : Bool) :
    resolve context records restricted site argument =
      match recordedName? records site guid with
      | none => .error (.unknownProtocol site guid)
      | some name =>
        if context.types.has (interfaceTypeFor name) then .ok ⟨name, interfaceTypeFor name⟩
        else .error (.unknownInterfaceType name (interfaceTypeFor name)) := by
  rw [resolve, hguid]
  simp only [ofGuid?, hunregistered]
  cases hname : recordedName? records site guid with
  | none => simp
  | some name =>
    -- The record that names the protocol is one that allows the GUID.
    obtain ⟨record, hfirst, -⟩ := exists_isFirst_of_recordedName? hname
    have hallowed : records.any (·.allows site guid) = true :=
      List.any_eq_true.2 ⟨record, hfirst.mem, hfirst.carries.allows⟩
    simp [hallowed]

/-- What the records name is resolved if its interface type is known. -/
theorem resolve_of_unregistered_eq_ok_iff (hguid : guidOf? context.image argument = some guid)
    (hunregistered : context.protocols.lookup? guid = none) {restricted : Bool}
    {protocol : ResolvedProtocol} :
    resolve context records restricted site argument = .ok protocol ↔
      recordedName? records site guid = some protocol.name ∧
        protocol.interfaceType = interfaceTypeFor protocol.name ∧
        context.types.has protocol.interfaceType = true := by
  obtain ⟨name', interface⟩ := protocol
  rw [resolve_of_unregistered hguid hunregistered]
  cases recordedName? records site guid with
  | none => simp
  | some name =>
    simp only [Option.some.injEq]
    by_cases hhas : context.types.has (interfaceTypeFor name) = true
    · simp only [hhas, if_true, Except.ok.injEq, mk.injEq]
      constructor
      · rintro ⟨rfl, rfl⟩
        exact ⟨rfl, rfl, hhas⟩
      · rintro ⟨rfl, rfl, -⟩
        exact ⟨rfl, rfl⟩
    · simp only [hhas]
      constructor
      · intro h
        cases h
      · rintro ⟨rfl, rfl, hhas'⟩
        exact absurd hhas' hhas

/-- A GUID that is read at a call and that the registry lacks is named by the first record of
the site that carries it, and by no other. Where the names in such records agree, the protocol
is resolved exactly if the first of them has a name and some record has one whose interface
type is known; the name is that of such a record. If the first leaves the name out the protocol
stays unknown, whatever the others name. -/
theorem resolve_unregistered_iff (restricted : Bool)
    (hguid : guidOf? context.image argument = some guid)
    (hunregistered : context.protocols.lookup? guid = none)
    (hagree : UsageRecord.AgreeAt records site guid) :
    let outcome := resolve context records restricted site argument
    ((∃ protocol, outcome = .ok protocol) ↔
        ¬ UsageRecord.FirstUnnamed records site guid ∧
          ∃ record ∈ records, record.Carries site guid ∧
            ∃ name, record.protocolName = some name ∧
              context.types.has (interfaceTypeFor name) = true) ∧
      (∀ protocol, outcome = .ok protocol →
        ∃ record ∈ records, record.Carries site guid ∧ record.protocolName = some protocol.name ∧
          protocol.interfaceType = interfaceTypeFor protocol.name) ∧
      (UsageRecord.FirstUnnamed records site guid →
        outcome = .error (.unknownProtocol site guid)) := by
  intro outcome
  refine ⟨⟨?_, ?_⟩, ?_, ?_⟩
  · rintro ⟨protocol, hprotocol⟩
    obtain ⟨hname, htype, hhas⟩ :=
      (resolve_of_unregistered_eq_ok_iff hguid hunregistered).1 hprotocol
    obtain ⟨record, hfirst, hrecord⟩ := exists_isFirst_of_recordedName? hname
    refine ⟨?_, record, hfirst.mem, hfirst.carries, protocol.name, hrecord, htype ▸ hhas⟩
    rintro ⟨other, hother, hunnamed⟩
    rw [recordedName?_of_isFirst hother, hunnamed] at hname
    cases hname
  · rintro ⟨hnamed, record, hmem, hcarries, name, hrecord, hhas⟩
    -- Some record carries the GUID, so one is the first; that one has a name, and the same.
    obtain ⟨first, hfirst⟩ := UsageRecord.exists_isFirst hmem hcarries
    cases hname : first.protocolName with
    | none => exact absurd ⟨first, hfirst, hname⟩ hnamed
    | some firstName =>
      obtain rfl : firstName = name :=
        hagree first hfirst.mem record hmem hfirst.carries hcarries _ hname _ hrecord
      exact ⟨⟨firstName, interfaceTypeFor firstName⟩,
        (resolve_of_unregistered_eq_ok_iff hguid hunregistered).2
          ⟨(recordedName?_of_isFirst hfirst).trans hname, rfl, hhas⟩⟩
  · intro protocol hprotocol
    obtain ⟨hname, htype, -⟩ := (resolve_of_unregistered_eq_ok_iff hguid hunregistered).1 hprotocol
    obtain ⟨record, hfirst, hrecord⟩ := exists_isFirst_of_recordedName? hname
    exact ⟨record, hfirst.mem, hfirst.carries, hrecord, htype⟩
  · rintro ⟨record, hfirst, hunnamed⟩
    refine (resolve_of_unregistered hguid hunregistered restricted).trans ?_
    simp only [recordedName?_of_isFirst hfirst, hunnamed]

/-- The name stands in the first of two records, and the other leaves it out. -/
theorem resolve_unregistered_iff_blockIo :
    let context : AnalysisContext := ⟨BlockIo.types, .empty, BlockIo.program.image⟩
    let argument : Expr := .addressOf (.var (.global 0x3000 16))
    let records := [BlockIo.record, { BlockIo.record with protocolName := none }]
    guidOf? context.image argument = some BlockIo.guid ∧
      context.protocols.lookup? BlockIo.guid = none ∧
      UsageRecord.AgreeAt records 0x1010 BlockIo.guid ∧
      ¬ UsageRecord.FirstUnnamed records 0x1010 BlockIo.guid ∧
      ∃ protocol, resolve context records true 0x1010 argument = .ok protocol := by
  intro context argument records
  have hguid : guidOf? context.image argument = some BlockIo.guid := by rfl
  have hunregistered : context.protocols.lookup? BlockIo.guid = none := by rfl
  have hagree : UsageRecord.AgreeAt records 0x1010 BlockIo.guid :=
    .of_name "EFI_BLOCK_IO_PROTOCOL_GUID" (by simp [records, BlockIo.record])
  have hprotocol : ∃ protocol, resolve context records true 0x1010 argument = .ok protocol :=
    ⟨⟨"EFI_BLOCK_IO_PROTOCOL_GUID", "EFI_BLOCK_IO_PROTOCOL"⟩, by rfl⟩
  have hiff := (resolve_unregistered_iff true hguid hunregistered hagree).1
  exact ⟨hguid, hunregistered, hagree, (hiff.1 hprotocol).1, hprotocol⟩

/-- The same two records in the other order: the name is at hand, and yet the protocol is
unknown. -/
theorem resolve_unknown_behind_unnamed :
    let context : AnalysisContext := ⟨BlockIo.types, .empty, BlockIo.program.image⟩
    let argument : Expr := .addressOf (.var (.global 0x3000 16))
    let records := [{ BlockIo.record with protocolName := none }, BlockIo.record]
    guidOf? context.image argument = some BlockIo.guid ∧
      context.protocols.lookup? BlockIo.guid = none ∧
      UsageRecord.AgreeAt records 0x1010 BlockIo.guid ∧
      (BlockIo.record ∈ records ∧ BlockIo.record.Carries 0x1010 BlockIo.guid ∧
        BlockIo.record.protocolName = some "EFI_BLOCK_IO_PROTOCOL_GUID" ∧
        context.types.has (interfaceTypeFor "EFI_BLOCK_IO_PROTOCOL_GUID") = true) ∧
      ∀ restricted, resolve context records restricted 0x1010 argument =
        .error (.unknownProtocol 0x1010 BlockIo.guid) := by
  intro context argument records
  refine ⟨by rfl, by rfl, ?_, ⟨by simp [records], ⟨rfl, rfl⟩, rfl, by rfl⟩, fun restricted => ?_⟩
  · exact .of_name "EFI_BLOCK_IO_PROTOCOL_GUID" (by simp [records, BlockIo.record])
  · cases restricted
    · rfl
    · rfl

end ResolvedProtocol
end UefiTyping
