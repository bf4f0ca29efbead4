import Mathlib.Algebra.Ring.Nat
import UefiTyping.Proofs.Retype.Agenda

/-!
# The counters of a run

Counters go up in several places: at each site, at each matched call, once for a record, once
for a walk. Reports are put together by adding them, so an equation between what a report
counts and what it lists holds of a whole run when it holds of each part. The number of
walks is the number of tables for each record that is not skipped.
-/
namespace UefiTyping

/-! ## Outcomes -/

namespace SiteReport

/-- Whether a type was planned for a site. -/
def isPlanned (site : SiteReport) : Bool :=
  match site.outcome with
  | .planned .. => true
  | _ => false

/-- Whether a site was left alone. -/
def isFailed (site : SiteReport) : Bool :=
  match site.outcome with
  | .failed _ => true
  | _ => false

end SiteReport

/-! ## Reports -/

/-- The counters of a report agree with its lists, and it reports on so many records, of which
so many are skipped, and on so many walks. -/
structure RetypeReport.Tallies (report : RetypeReport) (records skipped walks : Nat) : Prop where
  retyped_eq : report.stats.retyped = report.sites.countP SiteReport.isRetyped
  planned_eq : report.stats.planned = report.sites.countP SiteReport.isPlanned
  failures_eq : report.stats.failures = report.sites.countP SiteReport.isFailed
  matchedCalls_eq :
    report.stats.matchedCalls = report.sites.length + report.stats.argCountMismatches
  records_eq : report.stats.records = records
  skippedRecords_eq : report.stats.skippedRecords = skipped
  recordErrors_eq : report.recordErrors.length = skipped
  traversals_eq : report.stats.traversals = walks

namespace RetypeReport.Tallies

theorem empty : RetypeReport.empty.Tallies 0 0 0 := ⟨rfl, rfl, rfl, rfl, rfl, rfl, rfl, rfl⟩

/-- Two reports put together tally when each does. -/
theorem append {a b : RetypeReport} {records skipped walks records' skipped' walks' : Nat}
    (h : a.Tallies records skipped walks) (h' : b.Tallies records' skipped' walks') :
    (a ++ b).Tallies (records + records') (skipped + skipped') (walks + walks') where
  retyped_eq := by
    show a.stats.retyped + b.stats.retyped = (a.sites ++ b.sites).countP SiteReport.isRetyped
    rw [List.countP_append, h.retyped_eq, h'.retyped_eq]
  planned_eq := by
    show a.stats.planned + b.stats.planned = (a.sites ++ b.sites).countP SiteReport.isPlanned
    rw [List.countP_append, h.planned_eq, h'.planned_eq]
  failures_eq := by
    show a.stats.failures + b.stats.failures = (a.sites ++ b.sites).countP SiteReport.isFailed
    rw [List.countP_append, h.failures_eq, h'.failures_eq]
  matchedCalls_eq := by
    show a.stats.matchedCalls + b.stats.matchedCalls = (a.sites ++ b.sites).length +
      (a.stats.argCountMismatches + b.stats.argCountMismatches)
    rw [List.length_append, h.matchedCalls_eq, h'.matchedCalls_eq]
    omega
  records_eq := congrArg₂ (· + ·) h.records_eq h'.records_eq
  skippedRecords_eq := congrArg₂ (· + ·) h.skippedRecords_eq h'.skippedRecords_eq
  recordErrors_eq := by
    show (a.recordErrors ++ b.recordErrors).length = _
    rw [List.length_append, h.recordErrors_eq, h'.recordErrors_eq]
  traversals_eq := congrArg₂ (· + ·) h.traversals_eq h'.traversals_eq

/-- The report of one site tallies. -/
theorem report (proposal : Proposal) (function : DecompiledFunction) (outcome : SiteOutcome) :
    (proposal.report function outcome).Tallies 0 0 0 := by
  cases outcome with
  | retyped name type => exact ⟨rfl, rfl, rfl, rfl, rfl, rfl, rfl, rfl⟩
  | planned name type => exact ⟨rfl, rfl, rfl, rfl, rfl, rfl, rfl, rfl⟩
  | failed error => exact ⟨rfl, rfl, rfl, rfl, rfl, rfl, rfl, rfl⟩

end RetypeReport.Tallies

/-! ## Stages -/

/-- Over a list of work the tallies of the items add up. -/
theorem Stage.tallies_each {α σ : Type} {stage : α → Stage σ} {records skipped walks : α → Nat}
    {items : List α}
    (step : ∀ item ∈ items, ∀ x,
      (stage item x).1.Tallies (records item) (skipped item) (walks item)) (x : σ) :
    (each stage items x).1.Tallies (items.map records).sum (items.map skipped).sum
      (items.map walks).sum := by
  induction items generalizing x with
  | nil => exact .empty
  | cons item items ih =>
    have hitem := step item (by simp) x
    have htail := ih (fun item hitem => step item (by simp [hitem])) (stage item x).2
    exact hitem.append htail

section
variable {σ : Type} [VariableStore σ]

/-- A finding is one matched call, and either a site or a wrong number of arguments. -/
theorem Finding.tallies_commit (function : DecompiledFunction) (dryRun : Bool) (finding : Finding)
    (store : σ) : (finding.commit function dryRun store).1.Tallies 0 0 0 := by
  cases finding with
  | unreadable fault => exact ⟨rfl, rfl, rfl, rfl, rfl, rfl, rfl, rfl⟩
  | proposed proposal => exact .report proposal function (proposal.commit function dryRun store).1

/-- What is found in a function adds to no counter of records or walks. -/
theorem Finding.tallies_each_commit (function : DecompiledFunction) (dryRun : Bool)
    (findings : List Finding) (store : σ) :
    (Stage.each (Finding.commit function dryRun) findings store).1.Tallies 0 0 0 := by
  have h := Stage.tallies_each (fun finding (_ : finding ∈ findings) (store : σ) =>
    finding.tallies_commit function dryRun store) store
  simpa using h

/-- A walk is counted once. -/
theorem Traversal.tallies_apply (traversal : Traversal) (function : DecompiledFunction)
    (dryRun : Bool) (store : σ) : (traversal.apply function dryRun store).1.Tallies 0 0 1 := by
  have hwalk : (RetypeReport.ofStats { RetypeStats.zero with traversals := 1 }).Tallies 0 0 1 :=
    ⟨rfl, rfl, rfl, rfl, rfl, rfl, rfl, rfl⟩
  exact hwalk.append (Finding.tallies_each_commit function dryRun _ store)

end

/-! ## Batches -/

namespace RetypeBatch
variable {σ : Type} [VariableStore σ]

/-- Whether the function of a record cannot be had. -/
def skips (batch : RetypeBatch) (record : UsageRecord) : Bool :=
  match batch.functionOf record with
  | .error _ => true
  | .ok _ => false

/-- How often a function is walked for a record. -/
def walksFor (batch : RetypeBatch) (record : UsageRecord) : Nat :=
  if batch.skips record then 0 else batch.tables.length

/-- A record is skipped, or its function is walked once for each table. -/
theorem tallies_runRecord (batch : RetypeBatch) (records : List UsageRecord) (record : UsageRecord)
    (store : σ) :
    (batch.runRecord records record store).1.Tallies 0 (batch.skips record).toNat
      (batch.walksFor record) := by
  rw [runRecord, walksFor, skips]
  cases batch.functionOf record with
  | error error => exact ⟨rfl, rfl, rfl, rfl, rfl, rfl, rfl, rfl⟩
  | ok function =>
    have h := Stage.tallies_each (fun table (_ : table ∈ batch.tables) (store : σ) =>
      (batch.traversal records record table).tallies_apply function batch.config.dryRun store) store
    simpa using h

theorem sum_skips (batch : RetypeBatch) (records : List UsageRecord) :
    (records.map fun record => (batch.skips record).toNat).sum = records.countP batch.skips := by
  induction records with
  | nil => rfl
  | cons record records ih =>
    rw [List.map_cons, List.sum_cons, ih, List.countP_cons, Nat.add_comm]
    cases batch.skips record <;> rfl

/-- Every record that is not skipped accounts for one walk a table. -/
theorem sum_walksFor (batch : RetypeBatch) (records : List UsageRecord) :
    (records.map batch.walksFor).sum =
      (records.length - records.countP batch.skips) * batch.tables.length := by
  induction records with
  | nil => simp
  | cons record records ih =>
    have hle : records.countP batch.skips ≤ records.length := List.countP_le_length
    rw [List.map_cons, List.sum_cons, ih, List.length_cons, walksFor]
    by_cases hskips : batch.skips record = true
    · rw [if_pos hskips, List.countP_cons_of_pos hskips, Nat.zero_add, Nat.add_sub_add_right]
    · rw [if_neg hskips, List.countP_cons_of_neg hskips, Nat.sub_add_comm hle, Nat.succ_mul,
        Nat.add_comm]

/-- A run goes through its records one by one. -/
theorem tallies_run (batch : RetypeBatch) (records : List UsageRecord) (store : σ) :
    (batch.run records store).1.Tallies records.length (records.countP batch.skips)
      ((records.length - records.countP batch.skips) * batch.tables.length) := by
  have hone : (RetypeReport.ofStats { RetypeStats.zero with records := 1 }).Tallies 1 0 0 :=
    ⟨rfl, rfl, rfl, rfl, rfl, rfl, rfl, rfl⟩
  have hrun : (batch.run records store).1.Tallies (records.map fun _ => 1 + 0).sum
      (records.map fun record => 0 + (batch.skips record).toNat).sum
      (records.map fun record => 0 + batch.walksFor record).sum :=
    Stage.tallies_each (fun record _ store =>
      hone.append (batch.tallies_runRecord records record store)) store
  simpa [sum_skips, sum_walksFor] using hrun

/-- The counters of a run account for everything, whatever the store: each outcome is counted as
often as it is listed, a matched call is a site or has a wrong number of arguments, and every
record is skipped with an error or has its function walked once for each enabled table that is
registered. -/
theorem counters_account_for_run (source : FunctionSource) (types : TypeDatabase)
    (protocols : ProtocolRegistry) (registry : ServiceTableRegistry) (config : RetypeConfig)
    (records : List UsageRecord) (store : σ) :
    let report := ((ofRegistry source types protocols registry config).run records store).1
    let stats := report.stats
    stats.retyped = report.sites.countP SiteReport.isRetyped ∧
      stats.planned = report.sites.countP SiteReport.isPlanned ∧
      stats.failures = report.sites.countP SiteReport.isFailed ∧
      stats.matchedCalls = report.sites.length + stats.argCountMismatches ∧
      stats.skippedRecords = report.recordErrors.length ∧
      stats.records = records.length ∧ stats.skippedRecords ≤ stats.records ∧
      stats.traversals = (stats.records - stats.skippedRecords) *
        config.tables.countP (fun kind => (registry.ofKind? kind).isSome) := by
  intro report stats
  have h := (ofRegistry source types protocols registry config).tallies_run records store
  have htables : (config.tables.filterMap registry.ofKind?).length =
      config.tables.countP (fun kind => (registry.ofKind? kind).isSome) :=
    List.length_filterMap_eq_countP
  refine ⟨h.retyped_eq, h.planned_eq, h.failures_eq, h.matchedCalls_eq,
    h.skippedRecords_eq.trans h.recordErrors_eq.symm, h.records_eq, ?_, ?_⟩
  · show report.stats.skippedRecords ≤ report.stats.records
    rw [h.skippedRecords_eq, h.records_eq]
    exact List.countP_le_length
  · show report.stats.traversals = (report.stats.records - report.stats.skippedRecords) * _
    rw [h.traversals_eq, h.records_eq, h.skippedRecords_eq, ← htables]
    rfl

end RetypeBatch
end UefiTyping
