import UefiTyping.Proofs.Project.BodySequence
import UefiTyping.Proofs.Retype.PointerStorage

/-!
# Plain slots

What a decision establishes is also enough for it. A service call is plain when it loads from
the table at the offset of a service, passes the address of a stored and registered GUID, is
known to a usage record, and lets the interface go to storage for one pointer, named by its
address. Every plain call that a body contains is reported as retyped, however deep it stands
and whatever else the body contains, with one site each time the walk comes by.
-/
namespace UefiTyping

/-! ## Loads from a table -/

namespace TableSlot

/-- A call target loads from a base at an offset: a field of the base, or the bytes at the sum of
the base and a literal, which may stand on either side. Only a base that is no constant address
counts in a sum, and the side of the base must not be a literal itself if the offset comes
first. Casts on the target, the address and the sides change nothing. -/
inductive Loads (base : Expr) (offset : UInt32) (target : Expr) : Prop
  | field (name : String) : target.stripCasts = .field base name offset.toUInt64 →
      Loads base offset target
  | literalRight {address left right : Expr} {size : UInt8} {literal : Word} :
      target.stripCasts = .deref address size → address.stripCasts = .binary .add left right →
      left.stripCasts = base → right.stripCasts = .int literal → literal.toNat = offset.toNat →
      base.constantAddress = none → Loads base offset target
  | literalLeft {address left right : Expr} {size : UInt8} {literal : Word} :
      target.stripCasts = .deref address size → address.stripCasts = .binary .add left right →
      left.stripCasts = .int literal → right.stripCasts = base → literal.toNat = offset.toNat →
      base.constantAddress = none → (∀ value, base ≠ .int value) → Loads base offset target

variable {base target : Expr} {offset : UInt32}

/-- The address of a literal on the left is split like one on the right. -/
theorem splitAddress?_of_literal_left {left right : Expr} {value : Word}
    (hleft : left.stripCasts = .int value) (hright : ∀ other, right.stripCasts ≠ .int other) :
    splitAddress? (.binary .add left right) = some (right.stripCasts, value) := by
  rw [splitAddress?, hleft]
  cases hbase : right.stripCasts with
  | int other => exact absurd hbase (hright other)
  | _ => rfl

/-- The slot of a load is its base and offset. -/
theorem ofTarget?_of_loads (h : Loads base offset target) :
    ofTarget? target = some ⟨base, offset.toUInt64⟩ := by
  have hsmall : offset.toNat < UInt64.size := Nat.lt_trans offset.toNat_lt (by decide)
  rw [ofTarget?]
  cases h with
  | field name htarget => simp only [htarget]
  | @literalRight address left right size literal htarget haddress hleft hright hliteral hbase =>
    have hsplit : splitAddress? (.binary .add left right) = some (base, literal) := by
      rw [splitAddress?, hright, hleft]
    simp [htarget, haddress, hsplit, hbase, hliteral, hsmall]
  | literalLeft htarget haddress hleft hright hliteral hbase hother =>
    have hsplit := splitAddress?_of_literal_left hleft (hright ▸ hother)
    simp [htarget, haddress, hsplit, hright, hbase, hliteral, hsmall]

/-- The service in a slot is the one at its offset. -/
theorem service?_eq_findByOffset? (base : Expr) (offset : UInt32) (table : ServiceTable) :
    (⟨base, offset.toUInt64⟩ : TableSlot).service? table = table.findByOffset? offset := by
  rw [service?, UInt32.toNat_toUInt64, if_pos offset.toNat_lt, UInt32.toUInt32_toUInt64]

end TableSlot

/-- Something declared with the type may point to the table: unless the type is a pointer to a
struct, which then has the name of the table. -/
def ServiceTable.MayBeBehind (table : ServiceTable) (db : TypeDatabase) (type : CType) : Prop :=
  ∀ target layout, db.resolve type = some (.pointer target) →
    db.resolve target = some (.struct layout) →
      layout.tag = some table.name ∨ target.name? = some table.name

/-- Only the declared type of its base rules a slot out. -/
theorem TableSlot.mayBe_iff {slot : TableSlot} {db : TypeDatabase} {function : DecompiledFunction}
    {table : ServiceTable} :
    slot.mayBe db function table = true ↔
      ∀ type, slot.baseType? function = some type → table.MayBeBehind db type := by
  rw [mayBe]
  cases slot.baseType? function with
  | none => simp
  | some type =>
    simp only [Option.bind_some, Option.some.injEq, forall_eq', ServiceTable.MayBeBehind]
    cases db.resolve type with
    | none => simp
    | some concrete =>
      cases concrete with
      | pointer target =>
        constructor
        · rintro hmay _ layout ⟨⟩ hstruct
          simpa [hstruct] using hmay
        · intro hnames
          cases hstruct : db.resolve target with
          | none => simp [hstruct]
          | some layout =>
            cases layout with
            | struct layout => simpa [hstruct] using hnames target layout rfl hstruct
            | _ => simp [hstruct]
      | _ => simp

/-- A base without a cast is ruled out by the declaration of a variable alone. -/
theorem TableSlot.mayBe_of_local {base : Expr} {offset : UInt64} {db : TypeDatabase}
    {function : DecompiledFunction} {table : ServiceTable} (hcast : Destination.isCast base = false)
    (h : ∀ named place, base = .var named → function.localFor? named = some place →
      table.MayBeBehind db place.type) :
    (⟨base, offset⟩ : TableSlot).mayBe db function table = true := by
  refine mayBe_iff.2 fun type htype => ?_
  cases base with
  | cast inner type => cases hcast
  | var named =>
    obtain ⟨place, hplace, rfl⟩ := Option.map_eq_some_iff.1 htype
    exact h named place rfl hplace
  | _ => cases htype

/-! ## Plain destinations -/

/-- Storage for one pointer is no array. -/
theorem Destination.isPodArray_of_holdsPointer {db : TypeDatabase} {type : CType} {depth : Nat}
    (h : holdsPointer db type = true) : db.isPodArray type depth = false := by
  refine Bool.eq_false_iff.2 fun hpod => ?_
  obtain ⟨element, length, hresolve⟩ := TypeDatabase.exists_resolve_of_isPodArray hpod
  rcases holdsPointer_iff.1 h with ⟨target, hpointer⟩ | ⟨hscalar, -⟩
  · rw [hresolve] at hpointer
    cases hpointer
  · have hreal := TypeDatabase.isScalar_realType_of_resolve hscalar hresolve
    rw [TypeDatabase.classifyRealType, hresolve] at hreal
    cases hreal

/-- Storage for one pointer that is named by its address becomes a pointer to the interface,
whether or not there are casts on the way. -/
theorem Destination.retyped?_of_addressOf {db : TypeDatabase} {function : DecompiledFunction}
    {argument inner : Expr} {named : Variable} {place : LocalVariable}
    (hargument : argument.stripCasts = .addressOf inner) (hinner : inner.stripCasts = .var named)
    (hlocal : function.local? named.name = some place) (hholds : holdsPointer db place.type = true)
    (depth : Nat) (interface : String) :
    (classify db function depth argument).retyped? db interface depth =
      some (place.name, .pointer (.named interface)) := by
  have hfound : function.localFor? named = some place := by
    rw [DecompiledFunction.localFor?, hlocal]
    rfl
  have hshape : classify db function depth argument =
      if isCast argument then .pointerToPointer place.name else .pointerSlot place.name := by
    simp [classify, hargument, named?, hinner, hfound, ofLocal?, hholds,
      isPodArray_of_holdsPointer hholds]
  rw [hshape]
  cases isCast argument
  · rfl
  · rfl

/-! ## Plain calls -/

section PlainCalls
variable (traversal : Traversal) (function : DecompiledFunction)

/-- A call with an address of its own, anywhere in a function, that loads a service from the
table and passes as many arguments as the service takes. -/
structure TableCall where
  target : Expr
  args : List Expr
  site : UInt64
  contained : function.Contains (.callThrough target args (some site))
  base : Expr
  offset : UInt32
  loads : TableSlot.Loads base offset target
  uncast : Destination.isCast base = false
  /-- A base that is a known local is not declared as another table. -/
  declared : ∀ named place, base = .var named → function.localFor? named = some place →
    traversal.table.MayBeBehind traversal.context.types place.type
  service : CallDescriptor
  service_eq : traversal.table.findByOffset? offset = some service
  wellFormed : service.WellFormed
  args_length : args.length = service.argCount

namespace TableCall
variable {traversal function} (call : TableCall traversal function)

/-- The call itself. -/
def expr : Expr := .callThrough call.target call.args (some call.site)

/-- What the call is matched as. -/
def matched : MatchedCall := ⟨call.service, call.site, call.args⟩

/-- The GUID argument. -/
def guidArgument : Expr :=
  call.args.get ⟨call.service.guidIndex, call.args_length ▸ call.wellFormed.1⟩

/-- The interface argument. -/
def interfaceArgument : Expr :=
  call.args.get ⟨call.service.interfaceIndex, call.args_length ▸ call.wellFormed.2⟩

theorem mem_calls : call.expr ∈ function.calls :=
  DecompiledFunction.mem_calls_iff.2 ⟨call.contained, rfl⟩

theorem ofCall?_eq :
    MatchedCall.ofCall? traversal.context.types function traversal.table traversal.recordAddress
      call.expr = some call.matched := by
  refine MatchedCall.ofCall?_eq_some_iff.2 ⟨call.target, some call.site,
    ⟨call.base, call.offset.toUInt64⟩, rfl, TableSlot.ofTarget?_of_loads call.loads, ?_,
    TableSlot.mayBe_of_local call.uncast call.declared, rfl⟩
  rw [TableSlot.service?_eq_findByOffset?, call.service_eq]
  rfl

theorem arguments_eq :
    call.matched.arguments = .ok ⟨call.guidArgument, call.interfaceArgument⟩ :=
  MatchedCall.arguments_eq_ok_iff.2
    ⟨call.args_length, List.getElem?_eq_getElem _, List.getElem?_eq_getElem _⟩

end TableCall

/-- A call of a service for a protocol that is registered, at a site that is recorded, whose
interface goes to a local that holds one pointer. -/
structure PlainCall extends TableCall traversal function where
  location : UInt64
  location_eq : toTableCall.guidArgument.simplify.constantAddress = some location
  guid : Guid
  stored : traversal.context.image.guid? location = some guid
  entry : ProtocolEntry
  registered : traversal.context.protocols.lookup? guid = some entry
  record : UsageRecord
  record_mem : record ∈ traversal.records
  record_site : record.codeAddress = site
  record_guid : record.guid = none ∨ record.guid = some guid
  known : traversal.context.types.has entry.interfaceType = true
  inner : Expr
  argument_eq : toTableCall.interfaceArgument.stripCasts = .addressOf inner
  named : Variable
  inner_eq : inner.stripCasts = .var named
  place : LocalVariable
  local_eq : function.local? named.name = some place
  /-- A register could be too narrow for a pointer. -/
  not_register : ∀ id, place.storage ≠ .register id
  /-- The local is a pointer, or a scalar of the size of one. -/
  storage : (∃ target, traversal.context.types.resolve place.type = some (.pointer target)) ∨
    (traversal.context.types.classify place.type).isScalar = true ∧
      traversal.context.types.sizeOf place.type = some traversal.context.types.pointerSize

namespace PlainCall
variable {traversal function} (call : PlainCall traversal function)

/-- The type that the local gets. -/
def type : CType := .pointer (.named call.entry.interfaceType)

/-- What the call comes to. -/
def proposal : Proposal :=
  ⟨call.site, call.service.name, some call.entry.protocolName, .ok (call.place.name, call.type)⟩

/-- The site that a run reports for the call, and one that only plans. -/
def report (dryRun : Bool) : SiteReport :=
  ⟨function.address, call.site, call.service.name, some call.entry.protocolName,
    if dryRun then .planned call.place.name call.type else .retyped call.place.name call.type⟩

theorem resolve_eq :
    ResolvedProtocol.resolve traversal.context traversal.records traversal.restricted call.site
      call.guidArgument = .ok ⟨call.entry.protocolName, call.entry.interfaceType⟩ := by
  refine ResolvedProtocol.resolve_eq_ok_iff.2 ⟨call.guid, ?_, fun _ => ?_, ?_, call.known⟩
  · rw [ResolvedProtocol.guidOf?, call.location_eq]
    exact call.stored
  · exact ⟨call.record, call.record_mem,
      UsageRecord.allows_iff.2 ⟨call.record_site, call.record_guid⟩⟩
  · rw [ResolvedProtocol.ofGuid?, call.registered]

theorem offer_eq :
    traversal.offer function call.matched call.interfaceArgument
      ⟨call.entry.protocolName, call.entry.interfaceType⟩ = .ok (call.place.name, call.type) :=
  Traversal.offer_eq_ok_iff.2 <|
    Destination.retyped?_of_addressOf call.argument_eq call.inner_eq call.local_eq
      (Destination.holdsPointer_iff.2 call.storage) _ _

/-- The walk finds an offer at the call. -/
theorem findingAt?_eq :
    traversal.findingAt? function call.expr = some (.proposed call.proposal) := by
  have hexamine : traversal.examine function call.matched = .proposed call.proposal :=
    (Traversal.examine_eq_proposed_iff.2
      ⟨_, _, call.arguments_eq, call.resolve_eq, call.offer_eq, rfl⟩).1
  rw [Traversal.findingAt?, call.ofCall?_eq, Option.map_some, hexamine]

theorem accepts {project : AnalysisProject} (hkept : project.isExcluded function.address = false) :
    project.accepts function.address call.place call.type = true := by
  rw [AnalysisProject.accepts_of_not_isExcluded hkept]
  exact AnalysisProject.hasRoom_pointer_iff.2 fun id hregister =>
    absurd hregister (call.not_register id)

/-- A project that does not leave the function alone takes the type. -/
theorem sitesAt_eq (dryRun : Bool) {project : AnalysisProject}
    (hkept : project.isExcluded function.address = false) :
    traversal.sitesAt function dryRun project call.expr = [call.report dryRun] := by
  have hlocal : function.local? call.place.name = some call.place :=
    DecompiledFunction.name_of_local? call.local_eq ▸ call.local_eq
  rw [Traversal.sitesAt_of_offer call.findingAt?_eq rfl hlocal, if_pos (call.accepts hkept)]
  rfl

end PlainCall
end PlainCalls

/-! ## Completeness -/

namespace Traversal
variable {traversal : Traversal} {function : DecompiledFunction}

/-- Each time the walk comes by a plain call it reports the call, between what it reports for
the calls before and for those after. -/
theorem sites_apply_of_split (call : PlainCall traversal function) (dryRun : Bool)
    {project : AnalysisProject} (hkept : project.isExcluded function.address = false)
    {before after : List Expr} (hcalls : function.calls = before ++ call.expr :: after) :
    (traversal.apply function dryRun project).1.sites =
      before.flatMap (traversal.sitesAt function dryRun project) ++
        call.report dryRun :: after.flatMap (traversal.sitesAt function dryRun project) := by
  rw [sites_apply_eq_flatMap, hcalls, List.flatMap_append, List.flatMap_cons,
    call.sitesAt_eq dryRun hkept, List.singleton_append]

theorem report_mem_sites_apply (call : PlainCall traversal function) (dryRun : Bool)
    {project : AnalysisProject} (hkept : project.isExcluded function.address = false) :
    call.report dryRun ∈ (traversal.apply function dryRun project).1.sites := by
  refine mem_sites_apply call.mem_calls ?_
  rw [call.sitesAt_eq dryRun hkept]
  exact List.mem_singleton_self _

/-- Any store is offered the type for the local of a plain call. -/
theorem offer_mem_calls_apply {σ : Type} [VariableStore σ] (call : PlainCall traversal function)
    (store : σ) :
    (function.address, call.place.name, call.type) ∈
      (traversal.apply function false (⟨store, []⟩ : Audited σ)).2.calls.map StoreCall.offer := by
  -- What is offered is what would be planned, on any project that leaves nothing alone.
  have hplan : call.report true ∈
      (traversal.apply function true (AnalysisProject.empty "")).1.sites :=
    report_mem_sites_apply call true (by rfl)
  rw [traversal.calls_apply function (AnalysisProject.empty "") (⟨store, []⟩ : Audited σ)]
  exact List.mem_append_right _ (List.mem_filterMap.2 ⟨call.report true, hplan, rfl⟩)

/-- Nothing that can be retyped plainly is missed. A plain call, wherever it stands in the body,
is among the calls that are walked, and every store is offered a pointer to the interface for its
local. On a project each place of the call in the walk has its one site, between the sites of the
calls before and after: as retyped to that pointer, or as planned, whatever the other calls come
to. After a walk for real the local has that type, unless another call gives it another. -/
theorem plain_calls_retyped (traversal : Traversal) (function : DecompiledFunction)
    (call : PlainCall traversal function) (project : AnalysisProject)
    (hkept : project.isExcluded function.address = false) :
    call.expr ∈ function.calls ∧
      (∀ {σ : Type} [VariableStore σ] (store : σ),
        (function.address, call.place.name, call.type) ∈
          (traversal.apply function false (⟨store, []⟩ : Audited σ)).2.calls.map
            StoreCall.offer) ∧
      (∀ dryRun, let sites := (traversal.apply function dryRun project).1.sites
        call.report dryRun ∈ sites ∧
          ∀ before after, function.calls = before ++ call.expr :: after →
            sites = before.flatMap (traversal.sitesAt function dryRun project) ++
              call.report dryRun :: after.flatMap (traversal.sitesAt function dryRun project)) ∧
      let result := traversal.apply function false project
      (∀ other ∈ result.1.sites, ∀ type,
          other.outcome = .retyped call.place.name type → type = call.type) →
        result.2.typeOf? function.address call.place.name = some call.type := by
  refine ⟨call.mem_calls, fun store => offer_mem_calls_apply call store,
    fun dryRun => ⟨report_mem_sites_apply call dryRun hkept, fun before after hcalls => ?_⟩, ?_⟩
  · exact sites_apply_of_split call dryRun hkept hcalls
  · intro result hsame
    have hfollows := traversal.follows_apply function false project
    exact hfollows.typeOf?_of_retyped (report_mem_sites_apply call false hkept) rfl
      fun other hother _ => hsame other hother

end Traversal

/-! ## The located interface -/

namespace BlockIo

/-- The walk with the protocol registered. -/
def registeredTraversal : Traversal :=
  { batch.traversal [record] record .bootServices with
    context := ⟨types, ProtocolRegistry.empty.insert (.ofName guid "EFI_BLOCK_IO_PROTOCOL_GUID"),
      program.image⟩ }

/-- The call in the loop is a plain one. -/
def plainCall : PlainCall registeredTraversal function where
  target := .field (.var (.register 3 "bs" 8)) "LocateProtocol" 0x140
  args := [.addressOf (.var (.global 0x3000 16)), .int 0,
    .addressOf (.var ((Variable.stack (-8) 8).rename "block"))]
  site := 0x1010
  contained := by
    refine ⟨.loop [.statement call], List.mem_singleton_self _, ?_⟩
    exact .under (List.mem_singleton_self _) (.here (List.mem_singleton_self _) (.self _))
  base := .var (.register 3 "bs" 8)
  offset := 0x140
  loads := .field "LocateProtocol" rfl
  uncast := rfl
  declared := by
    rintro _ place ⟨⟩ hplace
    cases hplace
  service := ⟨"LocateProtocol", 0x140, 3, 0, 2, 1⟩
  service_eq := by rfl
  wellFormed := by decide
  args_length := rfl
  location := 0x3000
  location_eq := by rfl
  guid := guid
  stored := by rfl
  entry := .ofName guid "EFI_BLOCK_IO_PROTOCOL_GUID"
  registered := by rfl
  record := record
  record_mem := List.mem_singleton_self _
  record_site := rfl
  record_guid := .inr rfl
  known := by rfl
  inner := .var ((Variable.stack (-8) 8).rename "block")
  argument_eq := rfl
  named := (Variable.stack (-8) 8).rename "block"
  inner_eq := rfl
  place := place
  local_eq := by rfl
  not_register := by
    rintro id ⟨⟩
  storage := .inl ⟨.void, by rfl⟩

end BlockIo

/-- The call in the loop is reported once, and the slot becomes a pointer to the interface. -/
theorem Traversal.plain_calls_retyped_blockIo :
    let result := BlockIo.registeredTraversal.apply BlockIo.function false BlockIo.project
    BlockIo.project.isExcluded BlockIo.function.address = false ∧
      BlockIo.plainCall.report false ∈ result.1.sites ∧ result.1.sites.length = 1 ∧
      result.2.typeOf? 0x1000 "block" = some (.pointer (.named "EFI_BLOCK_IO_PROTOCOL")) := by
  intro result
  have hkept : BlockIo.project.isExcluded BlockIo.function.address = false := by rfl
  obtain ⟨-, -, hsites, htype⟩ := plain_calls_retyped BlockIo.registeredTraversal BlockIo.function
    BlockIo.plainCall BlockIo.project hkept
  have hlength : result.1.sites.length = 1 := by rfl
  have hreport : BlockIo.plainCall.report false ∈ result.1.sites := (hsites false).1
  refine ⟨hkept, hreport, hlength, htype fun other hother type houtcome => ?_⟩
  obtain ⟨site, hsite⟩ := List.length_eq_one_iff.1 hlength
  rw [hsite, List.mem_singleton] at hreport hother
  rw [hother, ← hreport] at houtcome
  exact ((SiteOutcome.retyped.inj houtcome).2).symm

end UefiTyping
