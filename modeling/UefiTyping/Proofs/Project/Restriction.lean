import UefiTyping.Proofs.Project.Run
import UefiTyping.Proofs.Retype.Comparison

/-!
# The restriction to recorded sites

When sites need a usage record, a run only withholds: it looks at the same sites, in the same
order, and each comes to the same as without the restriction, or fails because no protocol is
known there. The restriction is asked for before a protocol is looked up and has no part in
which one is found, and a project answers an offer without regard to offers made before.
-/
namespace UefiTyping

/-! ## Sites -/

/-- A site of a restricted run and the same site of a free one. -/
structure SiteReport.Restricts (restricted free : SiteReport) : Prop where
  function_eq : restricted.function = free.function
  site_eq : restricted.site = free.site
  service_eq : restricted.service = free.service
  /-- The site comes to the same, or the restricted run knows no protocol there. -/
  outcome_cases :
    restricted.protocol = free.protocol ∧ restricted.outcome = free.outcome ∨
      ∃ guid, restricted.protocol = none ∧
        restricted.outcome = .failed (.unknownProtocol restricted.site guid)

namespace SiteReport.Restricts

theorem refl (site : SiteReport) : Restricts site site := ⟨rfl, rfl, rfl, .inl ⟨rfl, rfl⟩⟩

/-- What is retyped under the restriction is retyped without it, and alike. -/
theorem eq_of_isRetyped {restricted free : SiteReport} (h : Restricts restricted free)
    (hretyped : restricted.isRetyped = true) : restricted = free := by
  rcases h.outcome_cases with ⟨hprotocol, houtcome⟩ | ⟨guid, -, houtcome⟩
  · obtain ⟨entry, address, service, protocol, outcome⟩ := restricted
    obtain ⟨entry', address', service', protocol', outcome'⟩ := free
    obtain ⟨rfl, rfl, rfl, -⟩ := h
    obtain rfl : protocol = protocol' := hprotocol
    obtain rfl : outcome = outcome' := houtcome
    rfl
  · rw [isRetyped, houtcome] at hretyped
    cases hretyped

/-- The retyped sites of a restricted run are among those of the free one. -/
theorem sublist_isRetyped {restricted free : List SiteReport}
    (h : List.Forall₂ Restricts restricted free) :
    (restricted.filter isRetyped).Sublist (free.filter isRetyped) := by
  induction h with
  | nil => exact .slnil
  | @cons a b restricted free hsite _ ih =>
    by_cases hretyped : a.isRetyped = true
    · obtain rfl := hsite.eq_of_isRetyped hretyped
      rw [List.filter_cons_of_pos hretyped, List.filter_cons_of_pos hretyped]
      exact ih.cons_cons a
    · rw [List.filter_cons_of_neg hretyped]
      exact ih.trans ((List.sublist_cons_self b free).filter isRetyped)

end SiteReport.Restricts

/-! ## Findings -/

/-- The restriction refuses a GUID, or has no part in what a site asks for. -/
theorem ResolvedProtocol.resolve_restricted_cases (context : AnalysisContext)
    (records : List UsageRecord) (site : UInt64) (argument : Expr) :
    resolve context records true site argument = resolve context records false site argument ∨
      ∃ guid, resolve context records true site argument =
        .error (.unknownProtocol site guid) := by
  rw [resolve, resolve]
  cases guidOf? context.image argument with
  | none => exact .inl rfl
  | some guid =>
    cases hallowed : records.any (·.allows site guid) with
    | true => exact .inl (by simp only [hallowed, Bool.not_true, Bool.and_false])
    | false => exact .inr ⟨guid, by simp only [hallowed, Bool.not_false, Bool.and_true, if_true]⟩

/-- What is found at a call under the restriction, and without it. -/
inductive Finding.Restricts : Finding → Finding → Prop
  | same (finding : Finding) : Restricts finding finding
  /-- The GUID is not allowed at the site. -/
  | withheld (proposal : Proposal) (guid : Guid) :
      Restricts (.proposed ⟨proposal.site, proposal.service, none,
        .error (.unknownProtocol proposal.site guid)⟩) (.proposed proposal)

namespace Traversal
variable (traversal : Traversal) (function : DecompiledFunction)

theorem site_propose (call : MatchedCall) (arguments : ServiceArguments) :
    (traversal.propose function call arguments).site = call.site := by
  rw [propose]
  split
  · rfl
  · rfl

theorem service_propose (call : MatchedCall) (arguments : ServiceArguments) :
    (traversal.propose function call arguments).service = call.service.name := by
  rw [propose]
  split
  · rfl
  · rfl

theorem restricts_propose (call : MatchedCall) (arguments : ServiceArguments) :
    Finding.Restricts
      (.proposed ({ traversal with restricted := true }.propose function call arguments))
      (.proposed ({ traversal with restricted := false }.propose function call arguments)) := by
  rcases ResolvedProtocol.resolve_restricted_cases traversal.context traversal.records call.site
    arguments.guid with hsame | ⟨guid, hwithheld⟩
  · have hpropose : { traversal with restricted := true }.propose function call arguments =
        { traversal with restricted := false }.propose function call arguments := by
      rw [propose, propose, hsame]
      rfl
    rw [hpropose]
    exact .same _
  · have hpropose : { traversal with restricted := true }.propose function call arguments =
        ⟨call.site, call.service.name, none, .error (.unknownProtocol call.site guid)⟩ := by
      rw [propose, hwithheld]
    rw [hpropose, ← site_propose { traversal with restricted := false } function call arguments,
      ← service_propose { traversal with restricted := false } function call arguments]
    exact .withheld _ guid

theorem restricts_examine (call : MatchedCall) :
    Finding.Restricts ({ traversal with restricted := true }.examine function call)
      ({ traversal with restricted := false }.examine function call) := by
  simp only [examine]
  cases call.arguments with
  | error fault => exact .same _
  | ok arguments => exact traversal.restricts_propose function call arguments

/-- The restriction has no part in which calls are matched. -/
theorem restricts_findings :
    List.Forall₂ Finding.Restricts ({ traversal with restricted := true }.findings function)
      ({ traversal with restricted := false }.findings function) := by
  rw [findings, findings, List.forall₂_map_left_iff, List.forall₂_map_right_iff]
  exact List.forall₂_same.2 fun call _ => traversal.restricts_examine function call

end Traversal

/-! ## Tasks -/

/-- A task of a restricted run and the same task of a free one. -/
inductive Task.Restricts : Task → Task → Prop
  | same (task : Task) : Restricts task task
  | settle (function : DecompiledFunction) {finding finding' : Finding} :
      finding.Restricts finding' → Restricts (.settle function finding) (.settle function finding')

/-- Tasks that go together report sites that go together, on projects that leave the same
functions alone. -/
theorem AnalysisProject.restricts_perform {task task' : Task} (h : task.Restricts task')
    (dryRun : Bool) {first second : AnalysisProject} (hexcluded : first.excluded = second.excluded) :
    RetypeReport.Parallel SiteReport.Restricts (task.perform dryRun first).1
        (task'.perform dryRun second).1 ∧
      (task.perform dryRun first).2.excluded = (task'.perform dryRun second).2.excluded := by
  refine ⟨?_, ?_⟩
  · have hsame : ∀ task : Task, RetypeReport.Parallel SiteReport.Restricts
        (task.perform dryRun first).1 (task.perform dryRun second).1 := by
      intro task
      rw [fst_perform_congr hexcluded]
      exact .of_sites fun site _ => .refl site
    cases h with
    | same => exact hsame task
    | settle function hfinding =>
      cases hfinding with
      | same => exact hsame _
      | withheld proposal guid =>
        rw [Task.perform_settle_proposed, Task.perform_settle_proposed,
          Proposal.commit_of_error rfl]
        exact .report ⟨rfl, rfl, rfl, .inr ⟨guid, rfl, rfl⟩⟩
  · rw [(follows_perform dryRun task first).excluded_eq,
      (follows_perform dryRun task' second).excluded_eq, hexcluded]

namespace RetypeBatch
variable (source : FunctionSource) (types : TypeDatabase) (protocols : ProtocolRegistry)
  (registry : ServiceTableRegistry) (config : RetypeConfig) (records : List UsageRecord)

/-- The agenda of a restricted run, beside that of a free one. -/
theorem restricts_agenda :
    let batch (restricted : Bool) :=
      ofRegistry source types protocols registry (config.withUsageSite restricted)
    List.Forall₂ Task.Restricts ((batch true).agenda records) ((batch false).agenda records) := by
  intro batch
  rw [agenda, agenda]
  refine List.rel_flatMap (R := Eq) (List.forall₂_refl records) ?_
  rintro record _ rfl
  have hfunction : (batch true).functionOf record = (batch false).functionOf record := rfl
  rw [tasksOf, tasksOf, hfunction]
  refine .cons (.same _) ?_
  cases (batch false).functionOf record with
  | error error => exact .cons (.same _) .nil
  | ok function =>
    refine List.rel_flatMap (R := Eq) (List.forall₂_refl _) ?_
    rintro table _ rfl
    refine .cons (.same _) ?_
    rw [List.forall₂_map_left_iff, List.forall₂_map_right_iff]
    exact (Traversal.restricts_findings ((batch true).traversal records record table) function).imp
      fun _ _ hfinding => .settle function hfinding

/-- The restriction to recorded sites only withholds. Over the same records and project, the
restricted run and the free one report the same sites in the same order; at each, protocol
and outcome are the same, or the restricted run knows no protocol. So without the restriction
no retyping is lost, and none is another. -/
theorem restriction_only_withholds (project : AnalysisProject) :
    let batch (restricted : Bool) :=
      ofRegistry source types protocols registry (config.withUsageSite restricted)
    let restricted := ((batch true).run records project).1.sites
    let free := ((batch false).run records project).1.sites
    List.Forall₂ SiteReport.Restricts restricted free ∧
      (restricted.filter SiteReport.isRetyped).Sublist (free.filter SiteReport.isRetyped) := by
  intro batch restricted free
  have hsites : List.Forall₂ SiteReport.Restricts restricted free := by
    show List.Forall₂ _ ((batch true).run records project).1.sites
      ((batch false).run records project).1.sites
    rw [run_eq_each_agenda, run_eq_each_agenda]
    exact (Stage.parallel_each (T := Task.Restricts)
      (R := fun first second : AnalysisProject => first.excluded = second.excluded)
      (fun htask _ _ hexcluded => AnalysisProject.restricts_perform htask config.dryRun hexcluded)
      (restricts_agenda source types protocols registry config records) rfl).1.sites
  exact ⟨hsites, SiteReport.Restricts.sublist_isRetyped hsites⟩

/-- A call that no record is for, with a GUID that the registry knows. -/
example :
    let known := ProtocolRegistry.empty.insert (.ofName BlockIo.guid "EFI_BLOCK_IO_PROTOCOL_GUID")
    let elsewhere : UsageRecord := { BlockIo.record with codeAddress := 0x1020 }
    let batch (restricted : Bool) := ofRegistry BlockIo.program.source BlockIo.types known
      BlockIo.registry (RetypeConfig.standard.withUsageSite restricted)
    let outcomes (restricted : Bool) :=
      ((batch restricted).run [elsewhere] BlockIo.project).1.sites.map (·.outcome)
    outcomes true = [.failed (.unknownProtocol 0x1010 BlockIo.guid)] ∧
      outcomes false = [.retyped "block" (.pointer (.named "EFI_BLOCK_IO_PROTOCOL"))] :=
  ⟨rfl, rfl⟩

end RetypeBatch
end UefiTyping
