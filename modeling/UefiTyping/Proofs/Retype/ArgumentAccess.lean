import UefiTyping.Proofs.Retype.Agenda
import UefiTyping.Proofs.Retype.Decision
import UefiTyping.Proofs.Service.Construction

/-!
# Accesses to the arguments of calls

A traversal reads two arguments of a matched call by their index: the GUID, and once the protocol
is resolved the place for the interface. The number of arguments is compared first with what the
service takes, so an index is behind the arguments only if the descriptor is not well formed. A
walk that breaks off at such an index is stated here beside the traversal. Descriptors that came to
be in one of the known ways are well formed, which is why a table can hold them, and the walk for
such a table never breaks off and does what the traversal does.
-/
namespace UefiTyping

/-! ## Calls of well-formed descriptors -/

namespace MatchedCall
variable {call : MatchedCall}

/-- With as many arguments as a well-formed descriptor asks for, both indices are below their
number. -/
theorem indices_lt_length (hformed : call.service.WellFormed)
    (hlength : call.args.length = call.service.argCount) :
    call.service.guidIndex < call.args.length ∧ call.service.interfaceIndex < call.args.length :=
  hlength ▸ hformed

theorem exists_arguments (hformed : call.service.WellFormed)
    (hlength : call.args.length = call.service.argCount) :
    ∃ arguments, call.arguments = .ok arguments := by
  obtain ⟨hguid, hinterface⟩ := indices_lt_length hformed hlength
  exact ⟨⟨_, _⟩, arguments_eq_ok_iff.2 ⟨hlength, List.getElem?_eq_getElem hguid,
    List.getElem?_eq_getElem hinterface⟩⟩

theorem arguments_of_wrong_count (h : call.args.length ≠ call.service.argCount) :
    call.arguments = .error .wrongCount := if_pos h

end MatchedCall

namespace Traversal
variable {σ : Type} [VariableStore σ] {traversal : Traversal} {function : DecompiledFunction}
  {call : MatchedCall} {dryRun : Bool}

/-! ## Walks that break off -/

/-- What is found at a matched call when each argument is read at the moment it is needed. There
is nothing when the index of such an argument is behind the arguments. -/
def visit? (traversal : Traversal) (function : DecompiledFunction) (call : MatchedCall) :
    Option Finding :=
  if call.args.length ≠ call.service.argCount then some (.unreadable .wrongCount)
  else
    call.args[call.service.guidIndex]?.bind fun guid =>
      match ResolvedProtocol.resolve traversal.context traversal.records traversal.restricted
          call.site guid with
      | .error error => some (.proposed ⟨call.site, call.service.name, none, .error error⟩)
      | .ok protocol =>
        call.args[call.service.interfaceIndex]?.map fun interface =>
          .proposed ⟨call.site, call.service.name, some protocol.name,
            traversal.offer function call interface protocol⟩

/-- Visits calls in order, and commits what is found at each before the next one. -/
def visitEach? (traversal : Traversal) (function : DecompiledFunction) (dryRun : Bool) :
    List MatchedCall → σ → Option (RetypeReport × σ)
  | [], store => some (.empty, store)
  | call :: calls, store =>
    (traversal.visit? function call).bind fun finding =>
      let (report, store) := finding.commit function dryRun store
      (visitEach? traversal function dryRun calls store).map fun (reports, store) =>
        (report ++ reports, store)

/-- Walks a function for one table, and breaks off at an index behind the arguments. -/
def walk? (traversal : Traversal) (function : DecompiledFunction) (dryRun : Bool) (store : σ) :
    Option (RetypeReport × σ) :=
  (visitEach? traversal function dryRun (traversal.matchedCalls function) store).map
    fun (report, store) => (.ofStats { RetypeStats.zero with traversals := 1 } ++ report, store)

/-! ## Where a walk breaks off -/

/-- The call has as many arguments as the service takes, and the index of one that is read is not
below that number: that of the GUID, or that of the interface once there is a protocol. -/
def BreaksOff (traversal : Traversal) (call : MatchedCall) : Prop :=
  call.args.length = call.service.argCount ∧
    (call.service.argCount ≤ call.service.guidIndex ∨
      call.service.argCount ≤ call.service.interfaceIndex ∧
        ∃ guid protocol, call.args[call.service.guidIndex]? = some guid ∧
          ResolvedProtocol.resolve traversal.context traversal.records traversal.restricted
            call.site guid = .ok protocol)

/-- A visit breaks off at such calls, and at no others. -/
theorem visit?_eq_none_iff (function : DecompiledFunction) :
    traversal.visit? function call = none ↔ traversal.BreaksOff call := by
  rw [visit?, BreaksOff]
  by_cases hlength : call.args.length = call.service.argCount
  · rw [if_neg (not_not_intro hlength), ← hlength]
    cases hguid : call.args[call.service.guidIndex]? with
    | none => simp [List.getElem?_eq_none_iff.1 hguid]
    | some guid =>
      have hbound : ¬call.args.length ≤ call.service.guidIndex :=
        Nat.not_le_of_lt (List.getElem?_eq_some_iff.1 hguid).1
      cases hresolve : ResolvedProtocol.resolve traversal.context traversal.records
          traversal.restricted call.site guid with
      | error error => simp [hresolve, hbound]
      | ok protocol => simp [hresolve, hbound]
  · simp [hlength]

/-- A walk breaks off at one of its calls, whatever is committed before. -/
theorem visitEach?_eq_none_iff {calls : List MatchedCall} (function : DecompiledFunction)
    (dryRun : Bool) (store : σ) :
    visitEach? traversal function dryRun calls store = none ↔
      ∃ call ∈ calls, traversal.BreaksOff call := by
  induction calls generalizing store with
  | nil => simp [visitEach?]
  | cons call calls ih =>
    rw [List.exists_mem_cons_iff, ← visit?_eq_none_iff function, visitEach?]
    cases hvisit : traversal.visit? function call with
    | none => simp
    | some finding =>
      have hrest := ih (finding.commit function dryRun store).2
      simp [hrest]

/-- A walk breaks off on every store or on none. -/
theorem walk?_eq_none_iff (store : σ) :
    traversal.walk? function dryRun store = none ↔
      ∃ call ∈ traversal.matchedCalls function, traversal.BreaksOff call := by
  rw [← visitEach?_eq_none_iff function dryRun store, walk?]
  simp

/-- A descriptor that points at a fourth of three arguments breaks a visit off. No table has one. -/
example :
    let traversal := BlockIo.batch.traversal [BlockIo.record] BlockIo.record .bootServices
    let call := BlockIo.matchedCall (.int 0)
    let misplaced := { call with service := { call.service with guidIndex := 3 } }
    traversal.visit? BlockIo.function misplaced = none := by
  rfl

/-! ## Walks with well-formed descriptors -/

/-- The visit of a call of a well-formed descriptor finds what the traversal finds. -/
theorem visit?_eq_examine (hformed : call.service.WellFormed) :
    traversal.visit? function call = some (traversal.examine function call) := by
  rw [visit?, examine]
  by_cases hlength : call.args.length = call.service.argCount
  · obtain ⟨arguments, harguments⟩ := MatchedCall.exists_arguments hformed hlength
    obtain ⟨-, hguid, hinterface⟩ := MatchedCall.arguments_eq_ok_iff.1 harguments
    rw [if_neg (not_not_intro hlength), hguid, hinterface, harguments, Option.bind_some]
    simp only [propose]
    cases ResolvedProtocol.resolve traversal.context traversal.records traversal.restricted
      call.site arguments.guid with
    | error error => rfl
    | ok protocol => rfl
  · rw [if_pos hlength, MatchedCall.arguments_of_wrong_count hlength]

/-- No finding at such a call complains of a misplaced argument. -/
theorem examine_ne_misplaced (hformed : call.service.WellFormed) (role : ArgumentRole) :
    traversal.examine function call ≠ .unreadable (.misplaced role) := by
  rw [examine]
  by_cases hlength : call.args.length = call.service.argCount
  · obtain ⟨arguments, harguments⟩ := MatchedCall.exists_arguments hformed hlength
    simp [harguments]
  · simp [MatchedCall.arguments_of_wrong_count hlength]

/-- Visits of such calls commit what the traversal finds, one after the other. -/
theorem visitEach?_eq_each {calls : List MatchedCall}
    (hformed : ∀ call ∈ calls, call.service.WellFormed) (store : σ) :
    visitEach? traversal function dryRun calls store =
      some (Stage.each (Finding.commit function dryRun) (calls.map (traversal.examine function))
        store) := by
  induction calls generalizing store with
  | nil => rfl
  | cons call calls ih =>
    obtain ⟨hcall, hcalls⟩ := List.forall_mem_cons.1 hformed
    have hrest := ih hcalls ((traversal.examine function call).commit function dryRun store).2
    simp only [visitEach?, visit?_eq_examine hcall, Option.bind_some, hrest, Option.map_some]
    rfl

/-- A matched call is one of a service of the table. -/
theorem service_mem_of_mem_matchedCalls (h : call ∈ traversal.matchedCalls function) :
    call.service ∈ traversal.table.entries := by
  obtain ⟨_, _, slot, -, -, hservice, -⟩ := mem_matchedCalls_iff.1 h
  exact (TableSlot.service?_eq_some hservice).1

/-- A table whose descriptors all came to be in one of the known ways leads no traversal behind
the arguments of a call: at every matched call with the right number of arguments both indices are
below that number, nothing that is found complains of a misplaced argument, and the walk that would
break off at an index behind the arguments does what the traversal does, on every store. -/
theorem arguments_read_in_range {σ : Type} [VariableStore σ] (traversal : Traversal)
    (hconstructed : ∀ service ∈ traversal.table.entries, service.Constructed)
    (function : DecompiledFunction) (dryRun : Bool) (store : σ) :
    (∀ call ∈ traversal.matchedCalls function, call.args.length = call.service.argCount →
        call.service.guidIndex < call.args.length ∧
          call.service.interfaceIndex < call.args.length) ∧
      (∀ role, .unreadable (.misplaced role) ∉ traversal.findings function) ∧
      traversal.walk? function dryRun store = some (traversal.apply function dryRun store) := by
  have hformed : ∀ call ∈ traversal.matchedCalls function, call.service.WellFormed :=
    fun call hcall => (hconstructed _ (service_mem_of_mem_matchedCalls hcall)).wellFormed
  refine ⟨?_, ?_, ?_⟩
  · intro call hcall hlength
    exact MatchedCall.indices_lt_length (hformed call hcall) hlength
  · intro role hfinding
    obtain ⟨call, hcall, hexamine⟩ := List.mem_map.1 hfinding
    exact examine_ne_misplaced (hformed call hcall) role hexamine
  · rw [walk?, visitEach?_eq_each hformed]
    rfl

/-- A walk for the boot services reads the arguments of the one call there is. -/
theorem arguments_read_in_range_blockIo :
    let traversal := BlockIo.batch.traversal [BlockIo.record] BlockIo.record .bootServices
    (∀ service ∈ traversal.table.entries, service.Constructed) ∧
      (traversal.matchedCalls BlockIo.function).length = 1 ∧
      traversal.walk? BlockIo.function false BlockIo.project =
        some (traversal.apply BlockIo.function false BlockIo.project) := by
  intro traversal
  have hconstructed : ∀ service ∈ traversal.table.entries, service.Constructed :=
    ServiceTableKind.bootServices.constructed_of_mem_catalog
  exact ⟨hconstructed, by rfl,
    (arguments_read_in_range traversal hconstructed BlockIo.function false BlockIo.project).2.2⟩

end Traversal
end UefiTyping
