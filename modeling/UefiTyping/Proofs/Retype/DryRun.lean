import UefiTyping.Proofs.Retype.Comparison
import UefiTyping.Proofs.Retype.Decision

/-!
# Planning a run

A run that only plans makes no offers, and still says all that a real run does: the same
sites in the same order, a plan wherever the real run asks its store, and the same failure
everywhere else. Nothing that a run decides depends on what the store answered before, and
the local that a plan names is there when the real run looks for it.
-/
namespace UefiTyping

/-! ## Offers that can be made -/

theorem DecompiledFunction.mem_of_localFor? {function : DecompiledFunction} {place : Variable}
    {found : LocalVariable} (h : function.localFor? place = some found) :
    found ∈ function.locals := by
  rw [localFor?, Option.orElse_eq_orElse, Option.orElse_eq_or, Option.or_eq_some_iff] at h
  rcases h with h | ⟨-, h⟩
  · exact mem_of_local? h
  · exact List.mem_of_find?_eq_some h

theorem DecompiledFunction.exists_local_of_mem {function : DecompiledFunction}
    {place : LocalVariable} (h : place ∈ function.locals) :
    ∃ found, function.local? place.name = some found := by
  rw [← Option.isSome_iff_exists, local?, List.find?_isSome]
  exact ⟨place, h, beq_self_eq_true place.name⟩

namespace Destination
variable {db : TypeDatabase} {depth : Nat} {interface name : String} {type : CType}

/-- A destination at a local is retyped under the name of the local. -/
theorem name_of_ofLocal? {place : LocalVariable} {byAddress cast : Bool} {destination : Destination}
    (h : ofLocal? db depth place byAddress cast = some destination)
    (hretyped : destination.retyped? db interface depth = some (name, type)) :
    name = place.name := by
  rw [ofLocal?] at h
  split at h
  · obtain rfl := Option.some.inj h
    exact (congrArg Prod.fst (Option.some.inj hretyped)).symm
  · rw [Option.ite_none_right_eq_some] at h
    obtain ⟨-, h⟩ := h
    obtain rfl := Option.some.inj h
    cases cast
    · exact (congrArg Prod.fst (Option.some.inj hretyped)).symm
    · exact (congrArg Prod.fst (Option.some.inj hretyped)).symm

/-- An argument that names a local has the shape of the local. -/
theorem classify_of_localFor? {function : DecompiledFunction} {argument : Expr} {named : Variable}
    {byAddress : Bool} {place : LocalVariable}
    (hargument : named? argument.stripCasts = some (named, byAddress))
    (hplace : function.localFor? named = some place) :
    classify db function depth argument =
      (ofLocal? db depth place byAddress (isCast argument)).getD (.unsupported argument.text) := by
  simp only [classify, hargument, hplace, Option.bind_eq_bind, Option.bind_some]

/-- What is retyped is a destination at the local that the variable in the argument refers to. -/
theorem exists_localFor?_of_classify {function : DecompiledFunction} {argument : Expr}
    (h : (classify db function depth argument).retyped? db interface depth = some (name, type)) :
    ∃ named byAddress place, named? argument.stripCasts = some (named, byAddress) ∧
      function.localFor? named = some place ∧
      ofLocal? db depth place byAddress (isCast argument) =
        some (classify db function depth argument) := by
  rw [classify] at h ⊢
  cases hshape : (named? argument.stripCasts).bind fun named =>
      (function.localFor? named.1).bind fun place =>
        ofLocal? db depth place named.2 (isCast argument) with
  | none =>
    simp only [Option.bind_eq_bind, hshape, Option.getD_none] at h
    cases h
  | some destination =>
    simp only [Option.bind_eq_bind, hshape, Option.getD_some]
    obtain ⟨⟨named, byAddress⟩, hargument, hnamed⟩ := Option.bind_eq_some_iff.1 hshape
    obtain ⟨place, hplace, hlocal⟩ := Option.bind_eq_some_iff.1 hnamed
    exact ⟨named, byAddress, place, hargument, hplace, hlocal⟩

/-- What is retyped is a destination at a local of the function. -/
theorem exists_ofLocal?_of_classify {function : DecompiledFunction} {argument : Expr}
    (h : (classify db function depth argument).retyped? db interface depth = some (name, type)) :
    ∃ place ∈ function.locals, ∃ byAddress cast destination,
      ofLocal? db depth place byAddress cast = some destination ∧
        destination.retyped? db interface depth = some (name, type) := by
  obtain ⟨named, byAddress, place, -, hplace, hlocal⟩ := exists_localFor?_of_classify h
  exact ⟨place, DecompiledFunction.mem_of_localFor? hplace, byAddress, isCast argument, _, hlocal, h⟩

/-- What is retyped is found by its name. -/
theorem exists_local_of_classify {function : DecompiledFunction} {argument : Expr}
    (h : (classify db function depth argument).retyped? db interface depth = some (name, type)) :
    ∃ place, function.local? name = some place := by
  obtain ⟨place, hplace, byAddress, cast, destination, hlocal, hretyped⟩ :=
    exists_ofLocal?_of_classify h
  rw [name_of_ofLocal? hlocal hretyped]
  exact DecompiledFunction.exists_local_of_mem hplace

end Destination

/-- The error is not that of a store that did not take a type. -/
def AnalysisError.NotRefusal (error : AnalysisError) : Prop :=
  ∀ function name, error ≠ .retype function name

/-- A proposal whose offer goes to a local of the function, and whose error is no refusal. -/
structure Proposal.Grounded (proposal : Proposal) (function : DecompiledFunction) : Prop where
  local_of_offer : ∀ {name type}, proposal.offer = .ok (name, type) →
    ∃ place, function.local? name = some place
  notRefusal : ∀ {error}, proposal.offer = .error error → error.NotRefusal

/-- A grounded proposal offers a type for a local of the function, or fails, and not for a store. -/
theorem Proposal.Grounded.offer_cases {proposal : Proposal} {function : DecompiledFunction}
    (h : proposal.Grounded function) :
    (∃ error, proposal.offer = .error error ∧ error.NotRefusal) ∨
      ∃ place type, proposal.offer = .ok (place.name, type) ∧
        function.local? place.name = some place := by
  cases hoffer : proposal.offer with
  | error error => exact .inl ⟨error, rfl, h.notRefusal hoffer⟩
  | ok offer =>
    obtain ⟨name, type⟩ := offer
    obtain ⟨place, hplace⟩ := h.local_of_offer hoffer
    obtain rfl := DecompiledFunction.name_of_local? hplace
    exact .inr ⟨place, type, rfl, hplace⟩

theorem Traversal.grounded_propose (traversal : Traversal) (function : DecompiledFunction)
    (call : MatchedCall) (arguments : ServiceArguments) :
    (traversal.propose function call arguments).Grounded function := by
  rw [propose]
  split
  case h_1 error hresolve =>
    refine ⟨fun hoffer => ?_, fun hoffer entry name hrefusal => ?_⟩
    · cases hoffer
    · obtain rfl := Except.error.inj hoffer
      rcases ResolvedProtocol.error_of_resolve hresolve with
        rfl | ⟨guid, rfl⟩ | ⟨protocol, type, rfl⟩
      all_goals cases hrefusal
  case h_2 protocol hresolve =>
    refine ⟨fun hoffer => ?_, fun hoffer entry name hrefusal => ?_⟩
    · exact Destination.exists_local_of_classify (offer_eq_ok_iff.1 hoffer)
    · rw [error_of_offer hoffer] at hrefusal
      cases hrefusal

/-- A task whose proposal, if it has one, is grounded in its function. -/
def Task.Grounded (task : Task) : Prop :=
  ∀ {function proposal}, task = .settle function (.proposed proposal) →
    proposal.Grounded function

theorem Traversal.grounded_of_mem_findings {traversal : Traversal} {function : DecompiledFunction}
    {finding : Finding} (h : finding ∈ traversal.findings function) :
    (Task.settle function finding).Grounded := by
  rintro _ proposal ⟨⟩
  obtain ⟨call, -, hexamine⟩ := List.mem_map.1 h
  rw [examine] at hexamine
  split at hexamine
  · cases hexamine
  · obtain rfl := Finding.proposed.inj hexamine
    exact grounded_propose _ _ _ _

theorem RetypeBatch.grounded_of_mem_agenda {batch : RetypeBatch} {records : List UsageRecord}
    {task : Task} (h : task ∈ batch.agenda records) : task.Grounded := by
  rintro function proposal rfl
  obtain ⟨record, -, -, table, -, hfinding⟩ := settle_mem_agenda_iff.1 h
  exact Traversal.grounded_of_mem_findings hfinding rfl

/-! ## A plan and what comes of it -/

/-- What a plan says at a site of a function, and what a real run may then say there. -/
inductive SiteOutcome.Foretells (function : UInt64) : SiteOutcome → SiteOutcome → Prop
  /-- The store takes what was planned. -/
  | taken (name : String) (type : CType) :
      Foretells function (.planned name type) (.retyped name type)
  /-- The store does not take it. -/
  | refused (name : String) (type : CType) :
      Foretells function (.planned name type) (.failed (.retype function name))
  /-- Where nothing is planned both runs fail alike, and not for the store. -/
  | failed {error : AnalysisError} : error.NotRefusal →
      Foretells function (.failed error) (.failed error)

/-- A site of a plan and the same site of a real run. -/
structure SiteReport.Foretells (plan real : SiteReport) : Prop where
  function_eq : plan.function = real.function
  site_eq : plan.site = real.site
  service_eq : plan.service = real.service
  protocol_eq : plan.protocol = real.protocol
  outcome : plan.outcome.Foretells real.function real.outcome

/-- The function, variable and type that a site has a plan for. -/
def SiteReport.planned? (site : SiteReport) : Option (UInt64 × String × CType) :=
  match site.outcome with
  | .planned name type => some (site.function, name, type)
  | _ => none

/-- The function, variable and type of an offer to a store. -/
def StoreCall.offer (call : StoreCall) : UInt64 × String × CType :=
  (call.function, call.place.name, call.type)

namespace Task
variable {σ τ : Type} [VariableStore σ] [VariableStore τ] {task : Task}

/-- A planned task foretells the same task done for real, on any two stores, and leaves its
own alone. -/
theorem foretells_perform (hgrounded : task.Grounded) (store : σ) (store' : τ) :
    RetypeReport.Parallel SiteReport.Foretells (task.perform true store).1
        (task.perform false store').1 ∧
      (task.perform true store).2 = store := by
  cases task with
  | count stats => exact ⟨.of_sites (by simp [perform, Stage.report, RetypeReport.ofStats]), rfl⟩
  | skip error => exact ⟨.of_sites (by simp [perform, Stage.report, RetypeReport.ofSkipped]), rfl⟩
  | settle function finding =>
    cases finding with
    | unreadable fault =>
      exact ⟨.of_sites (by simp [perform, Finding.commit, Stage.report, RetypeReport.ofStats]), rfl⟩
    | proposed proposal =>
      rw [perform_settle_proposed, perform_settle_proposed]
      rcases (hgrounded rfl).offer_cases with
        ⟨error, hoffer, hnotRefusal⟩ | ⟨place, type, hoffer, hplace⟩
      · rw [Proposal.commit_of_error hoffer, Proposal.commit_of_error hoffer]
        exact ⟨.report ⟨rfl, rfl, rfl, rfl, .failed hnotRefusal⟩, rfl⟩
      · rw [Proposal.commit_planned hoffer, Proposal.commit_local hoffer hplace]
        refine ⟨.report ⟨rfl, rfl, rfl, rfl, ?_⟩, rfl⟩
        show SiteOutcome.Foretells _ _ (if _ then _ else _)
        split
        · exact .taken place.name type
        · exact .refused place.name type

/-- What a task offers to a store is what it plans. -/
theorem calls_perform (hgrounded : task.Grounded) (store : σ) (audited : Audited τ) :
    (task.perform false audited).2.calls.map StoreCall.offer =
      audited.calls.map StoreCall.offer ++
        (task.perform true store).1.sites.filterMap SiteReport.planned? := by
  cases task with
  | count stats => exact (List.append_nil _).symm
  | skip error => exact (List.append_nil _).symm
  | settle function finding =>
    cases finding with
    | unreadable fault => exact (List.append_nil _).symm
    | proposed proposal =>
      rw [perform_settle_proposed, perform_settle_proposed, Proposal.sites_report]
      rcases (hgrounded rfl).offer_cases with ⟨error, hoffer, -⟩ | ⟨place, type, hoffer, hplace⟩
      · rw [Proposal.commit_of_error hoffer, Proposal.commit_of_error hoffer]
        exact (List.append_nil _).symm
      · rw [Proposal.commit_planned hoffer, Proposal.commit_local hoffer hplace]
        exact List.map_append

end Task

section Offers
variable {σ τ : Type} [VariableStore σ] [VariableStore τ]

/-- Over a list of tasks the offers made are the plans, in order. -/
theorem Task.calls_each_perform {tasks : List Task} (hgrounded : ∀ task ∈ tasks, task.Grounded)
    (store : σ) (audited : Audited τ) :
    (Stage.each (Task.perform false) tasks audited).2.calls.map StoreCall.offer =
      audited.calls.map StoreCall.offer ++
        (Stage.each (Task.perform true) tasks store).1.sites.filterMap SiteReport.planned? := by
  induction tasks generalizing store audited with
  | nil => exact (List.append_nil _).symm
  | cons task tasks ih =>
    have htask := task.calls_perform (hgrounded task (by simp)) store audited
    have htasks := ih (fun task htask => hgrounded task (by simp [htask]))
      (task.perform true store).2 (task.perform false audited).2
    rw [htask, List.append_assoc, ← List.filterMap_append] at htasks
    exact htasks

/-- Over a walk the offers made are the plans, in order. -/
theorem Traversal.calls_apply (traversal : Traversal) (function : DecompiledFunction) (store : σ)
    (audited : Audited τ) :
    (traversal.apply function false audited).2.calls.map StoreCall.offer =
      audited.calls.map StoreCall.offer ++
        (traversal.apply function true store).1.sites.filterMap SiteReport.planned? := by
  rw [apply_eq_each_perform, apply_eq_each_perform]
  refine Task.calls_each_perform (fun task htask => ?_) store audited
  rcases List.mem_cons.1 htask with rfl | htask
  · rintro _ _ ⟨⟩
  · obtain ⟨finding, hfinding, rfl⟩ := List.mem_map.1 htask
    exact grounded_of_mem_findings hfinding

end Offers

namespace RetypeBatch
variable {σ : Type} [VariableStore σ]

/-- A plan foretells the real run. It makes no offer, and whatever the store of the real run
answers, the sites of both pair up: one is planned exactly when the real run asks its store
there, with the same variable and type, and every other outcome is the same, as are the
errors of records and the counters that outcomes have no part in. What the real run offers to
its store is what was planned, in order. -/
theorem plan_foretells_run (source : FunctionSource) (types : TypeDatabase)
    (protocols : ProtocolRegistry) (registry : ServiceTableRegistry) (config : RetypeConfig)
    (records : List UsageRecord) (store : σ) :
    let batch (dryRun : Bool) :=
      ofRegistry source types protocols registry (config.withDryRun dryRun)
    let calls (dryRun : Bool) := ((batch dryRun).run records (⟨store, []⟩ : Audited σ)).2.calls
    let plan := (batch true).run records store
    let real := (batch false).run records store
    plan.2 = store ∧ calls true = [] ∧
      List.Forall₂ SiteReport.Foretells plan.1.sites real.1.sites ∧
      plan.1.recordErrors = real.1.recordErrors ∧
      plan.1.stats.withoutOutcomes = real.1.stats.withoutOutcomes ∧
      (calls false).map StoreCall.offer = plan.1.sites.filterMap SiteReport.planned? := by
  intro batch calls plan real
  -- The flag has no part in the agenda, so both runs perform the same one.
  have hagenda : (batch true).agenda records = (batch false).agenda records := rfl
  have hgrounded : ∀ task ∈ (batch false).agenda records, task.Grounded :=
    fun task htask => grounded_of_mem_agenda htask
  have hrun : ∀ {ρ : Type} [VariableStore ρ] (dryRun : Bool) (start : ρ),
      (batch dryRun).run records start =
        Stage.each (Task.perform dryRun) ((batch false).agenda records) start := by
    intro ρ _ dryRun start
    rw [run_eq_each_agenda]
    cases dryRun
    · rfl
    · rfl
  have hforetells : ∀ {ρ : Type} [VariableStore ρ] (start : ρ),
      RetypeReport.Parallel SiteReport.Foretells ((batch true).run records start).1
          ((batch false).run records start).1 ∧ ((batch true).run records start).2 = start := by
    intro ρ _ start
    rw [hrun, hrun]
    refine Stage.parallel_each (T := fun task task' => task = task' ∧ task.Grounded)
      (R := fun (store _ : ρ) => store = start) ?_ ?_ rfl
    · rintro task _ ⟨rfl, htask⟩ x y rfl
      exact task.foretells_perform htask x y
    · exact List.forall₂_same.2 fun task htask => ⟨rfl, hgrounded task htask⟩
  obtain ⟨hreports, hstore⟩ := hforetells store
  refine ⟨hstore, ?_, hreports.sites, hreports.recordErrors_eq, hreports.stats_eq, ?_⟩
  · exact congrArg Audited.calls (hforetells (⟨store, []⟩ : Audited σ)).2
  · have hcalls := Task.calls_each_perform hgrounded store (⟨store, []⟩ : Audited σ)
    rw [← hrun, ← hrun] at hcalls
    exact hcalls

/-- One plan, and what comes of it on a store that refuses the local. -/
example :
    let batch (dryRun : Bool) := ofRegistry BlockIo.program.source BlockIo.types .empty
      BlockIo.registry (RetypeConfig.standard.withDryRun dryRun)
    let outcomes (dryRun : Bool) := ((batch dryRun).run [BlockIo.record]
      (⟨["block"]⟩ : NameFilter)).1.sites.map (·.outcome)
    outcomes true = [.planned "block" (.pointer (.named "EFI_BLOCK_IO_PROTOCOL"))] ∧
      outcomes false = [.failed (.retype 0x1000 "block")] :=
  ⟨rfl, rfl⟩

end RetypeBatch
end UefiTyping
