import Mathlib.Data.List.Forall2
import UefiTyping.Project.Basic
import UefiTyping.Retype.Batch

/-!
# The agenda of a run

What a run is going to do follows from the batch and the records alone. The agenda lists
it, task by task: things to count, records to skip, and findings to commit. A run
performs its agenda from left to right, so that a property of whole runs is one of a
single task, carried along the list.
-/
namespace UefiTyping

/-! ## Reports of proposals -/

/-- Whether a site was retyped. -/
def SiteReport.isRetyped (site : SiteReport) : Bool :=
  match site.outcome with
  | .retyped .. => true
  | _ => false

/-- What is reported for a proposal with an outcome. -/
def Proposal.report (proposal : Proposal) (function : DecompiledFunction) (outcome : SiteOutcome) :
    RetypeReport :=
  .ofStats { RetypeStats.zero with matchedCalls := 1 } ++
    .ofSite ⟨function.address, proposal.site, proposal.service, proposal.protocol, outcome⟩

theorem Proposal.sites_report (proposal : Proposal) (function : DecompiledFunction)
    (outcome : SiteOutcome) : (proposal.report function outcome).sites =
      [⟨function.address, proposal.site, proposal.service, proposal.protocol, outcome⟩] := rfl

/-! ## Commits -/

namespace Proposal
variable {σ : Type} [VariableStore σ] {proposal : Proposal} {function : DecompiledFunction}

/-- Without an offer the site fails and the store is not asked. -/
theorem commit_of_error {error : AnalysisError} (h : proposal.offer = .error error) (dryRun : Bool)
    (store : σ) : proposal.commit function dryRun store = (.failed error, store) := by
  simp only [commit, h]

/-- A run that only plans does not make the offer. -/
theorem commit_planned {name : String} {type : CType} (h : proposal.offer = .ok (name, type))
    (store : σ) : proposal.commit function true store = (.planned name type, store) := by
  simp only [commit, h, if_true]

/-- Nothing is offered for a name that no local has. -/
theorem commit_of_no_local {name : String} {type : CType} (h : proposal.offer = .ok (name, type))
    (hlocal : function.local? name = none) (store : σ) :
    proposal.commit function false store =
      (.failed (.retype function.address name), store) := by
  simp only [commit, h, Bool.false_eq_true, if_false, VariableStore.assignNamed, hlocal]

/-- The offer for a local is made to the store, whose answer decides the outcome. -/
theorem commit_local {place : LocalVariable} {type : CType}
    (h : proposal.offer = .ok (place.name, type))
    (hlocal : function.local? place.name = some place) (store : σ) :
    proposal.commit function false store =
      let answer := VariableStore.setType store function.address place type
      (if answer.1 then .retyped place.name type else .failed (.retype function.address place.name),
        answer.2) := by
  simp only [commit, h, Bool.false_eq_true, if_false, VariableStore.assignNamed, hlocal,
    VariableStore.assign]
  cases (VariableStore.setType store function.address place type).1
  · rfl
  · rfl

end Proposal

/-! ## Tasks -/

/-- One thing that a run does. -/
inductive Task
  /-- Adds to the counters. -/
  | count (stats : RetypeStats)
  /-- Reports a record that has no function. -/
  | skip (error : AnalysisError)
  /-- Commits what was found in a function. -/
  | settle (function : DecompiledFunction) (finding : Finding)

namespace Task
variable {σ : Type} [VariableStore σ]

/-- Performs a task. -/
def perform (dryRun : Bool) : Task → Stage σ
  | .count stats => Stage.report (.ofStats stats)
  | .skip error => Stage.report (.ofSkipped error)
  | .settle function finding => finding.commit function dryRun

/-- Settling a proposal reports one site. -/
theorem perform_settle_proposed (dryRun : Bool) (function : DecompiledFunction)
    (proposal : Proposal) (store : σ) :
    (Task.settle function (.proposed proposal)).perform dryRun store =
      (proposal.report function (proposal.commit function dryRun store).1,
        (proposal.commit function dryRun store).2) := rfl

/-- The task offers a type to the local of a store call, for a proposal. -/
structure Offers (task : Task) (function : DecompiledFunction) (proposal : Proposal)
    (place : LocalVariable) (type : CType) : Prop where
  task_eq : task = .settle function (.proposed proposal)
  offer_eq : proposal.offer = .ok (place.name, type)
  local_eq : function.local? place.name = some place

/-- All that a task can do. Most tasks report the same on every store and leave it alone;
the others are for real, and offer one type to one local. -/
theorem perform_cases (dryRun : Bool) (task : Task) :
    (∃ report : RetypeReport, (∀ site ∈ report.sites, site.isRetyped = false) ∧
        ∀ {σ : Type} [VariableStore σ] (store : σ), task.perform dryRun store = (report, store)) ∨
      ∃ function proposal place type, dryRun = false ∧ task.Offers function proposal place type ∧
        ∀ {σ : Type} [VariableStore σ] (store : σ), task.perform dryRun store =
          let answer := VariableStore.setType store function.address place type
          (proposal.report function (if answer.1 then .retyped place.name type
            else .failed (.retype function.address place.name)), answer.2) := by
  cases task with
  | count stats => exact .inl ⟨.ofStats stats, by simp [RetypeReport.ofStats], fun store => rfl⟩
  | skip error => exact .inl ⟨.ofSkipped error, by simp [RetypeReport.ofSkipped], fun store => rfl⟩
  | settle function finding =>
    cases finding with
    | unreadable fault => exact .inl ⟨_, by simp [RetypeReport.ofStats], fun store => rfl⟩
    | proposed proposal =>
      cases hoffer : proposal.offer with
      | error error =>
        refine .inl ⟨proposal.report function (.failed error),
          by simp [Proposal.sites_report, SiteReport.isRetyped], fun store => ?_⟩
        rw [perform_settle_proposed, Proposal.commit_of_error hoffer]
      | ok offer =>
        obtain ⟨name, type⟩ := offer
        cases dryRun with
        | true =>
          refine .inl ⟨proposal.report function (.planned name type),
            by simp [Proposal.sites_report, SiteReport.isRetyped], fun store => ?_⟩
          rw [perform_settle_proposed, Proposal.commit_planned hoffer]
        | false =>
          cases hplace : function.local? name with
          | none =>
            refine .inl ⟨proposal.report function (.failed (.retype function.address name)),
              by simp [Proposal.sites_report, SiteReport.isRetyped], fun store => ?_⟩
            rw [perform_settle_proposed, Proposal.commit_of_no_local hoffer hplace]
          | some place =>
            obtain rfl := DecompiledFunction.name_of_local? hplace
            refine .inr ⟨function, proposal, place, type, rfl, ⟨rfl, hoffer, hplace⟩,
              fun store => ?_⟩
            rw [perform_settle_proposed, Proposal.commit_local hoffer hplace]

/-- Sites are reported only for findings, in the function where they were found. -/
theorem eq_settle_of_mem_sites {dryRun : Bool} {task : Task} {store : σ} {site : SiteReport}
    (h : site ∈ (task.perform dryRun store).1.sites) :
    ∃ function finding, task = .settle function finding ∧ site.function = function.address := by
  cases task with
  | count stats => cases h
  | skip error => cases h
  | settle function finding =>
    refine ⟨function, finding, rfl, ?_⟩
    cases finding with
    | unreadable fault => cases h
    | proposed proposal =>
      obtain rfl := List.mem_singleton.1 h
      rfl

end Task

/-- A walk counts itself and settles what it finds. -/
theorem Traversal.apply_eq_each_perform {σ : Type} [VariableStore σ] (traversal : Traversal)
    (function : DecompiledFunction) (dryRun : Bool) :
    (traversal.apply function dryRun : Stage σ) =
      Stage.each (Task.perform dryRun) (.count { RetypeStats.zero with traversals := 1 } ::
        (traversal.findings function).map (.settle function)) := by
  rw [Stage.each_cons, Stage.each_map]
  rfl

/-! ## Agendas -/

namespace RetypeBatch
variable {σ : Type} [VariableStore σ]

/-- Looks for one table in the function of a record. -/
def tasksFor (batch : RetypeBatch) (records : List UsageRecord) (record : UsageRecord)
    (function : DecompiledFunction) (table : ServiceTable) : List Task :=
  .count { RetypeStats.zero with traversals := 1 } ::
    ((batch.traversal records record table).findings function).map (.settle function)

/-- What there is to do for one of the records. -/
def tasksOf (batch : RetypeBatch) (records : List UsageRecord) (record : UsageRecord) :
    List Task :=
  .count { RetypeStats.zero with records := 1 } ::
    match batch.functionOf record with
    | .error error => [.skip error]
    | .ok function => batch.tables.flatMap (batch.tasksFor records record function)

/-- Everything that a run does. -/
def agenda (batch : RetypeBatch) (records : List UsageRecord) : List Task :=
  records.flatMap (batch.tasksOf records)

theorem each_perform_tasksFor (batch : RetypeBatch) (records : List UsageRecord)
    (record : UsageRecord) (function : DecompiledFunction) (table : ServiceTable) :
    Stage.each (Task.perform batch.config.dryRun) (batch.tasksFor records record function table) =
      ((batch.traversal records record table).apply function batch.config.dryRun : Stage σ) :=
  ((batch.traversal records record table).apply_eq_each_perform function
    batch.config.dryRun).symm

theorem each_perform_tasksOf (batch : RetypeBatch) (records : List UsageRecord)
    (record : UsageRecord) :
    Stage.each (Task.perform batch.config.dryRun) (batch.tasksOf records record) =
      ((Stage.report (.ofStats { RetypeStats.zero with records := 1 })).andThen
        (batch.runRecord records record) : Stage σ) := by
  rw [tasksOf, Stage.each_cons, runRecord]
  congr 1
  cases batch.functionOf record with
  | error error => simp [Task.perform]
  | ok function =>
    rw [Stage.each_flatMap]
    simp only [each_perform_tasksFor]

/-- A run performs its agenda. -/
theorem run_eq_each_agenda (batch : RetypeBatch) (records : List UsageRecord) :
    (batch.run records : Stage σ) =
      Stage.each (Task.perform batch.config.dryRun) (batch.agenda records) := by
  rw [run, agenda, Stage.each_flatMap]
  simp only [each_perform_tasksOf]

/-- A record leads to the function at the entry that it gives, else to the one around its
site. -/
theorem functionOf_eq_ok_iff {batch : RetypeBatch} {record : UsageRecord}
    {function : DecompiledFunction} :
    batch.functionOf record = .ok function ↔
      ∃ entry, (record.functionAddress <|> batch.source.functionAt? record.codeAddress) =
        some entry ∧ batch.source.decompile entry = .ok function := by
  rw [functionOf]
  split
  · rename_i hnone
    simp [hnone]
  · rename_i entry hentry
    simp [hentry]

theorem settle_mem_tasksOf_iff {batch : RetypeBatch} {records : List UsageRecord}
    {record : UsageRecord} {function : DecompiledFunction} {finding : Finding} :
    Task.settle function finding ∈ batch.tasksOf records record ↔
      batch.functionOf record = .ok function ∧ ∃ table ∈ batch.tables,
        finding ∈ (batch.traversal records record table).findings function := by
  rw [tasksOf]
  cases batch.functionOf record with
  | error error => simp
  | ok found =>
    simp only [List.mem_cons, reduceCtorEq, false_or, List.mem_flatMap, tasksFor, List.mem_map,
      Task.settle.injEq, Except.ok.injEq]
    constructor
    · rintro ⟨table, ht, x, hx, rfl, rfl⟩
      exact ⟨rfl, table, ht, hx⟩
    · rintro ⟨rfl, table, ht, hx⟩
      exact ⟨table, ht, finding, hx, rfl, rfl⟩

/-- There is the same to do for two records of one function when the same is found in it. -/
theorem tasksOf_congr {batch : RetypeBatch} {xs ys : List UsageRecord} {record record' : UsageRecord}
    (hsame : batch.functionOf record = batch.functionOf record')
    (hfindings : ∀ function, batch.functionOf record = .ok function → ∀ table,
      (batch.traversal xs record table).findings function =
        (batch.traversal ys record' table).findings function) :
    batch.tasksOf xs record = batch.tasksOf ys record' := by
  rw [tasksOf, tasksOf, ← hsame]
  cases hfunction : batch.functionOf record with
  | error error => rfl
  | ok function =>
    have htasks : batch.tasksFor xs record function = batch.tasksFor ys record' function := by
      funext table
      rw [tasksFor, tasksFor, hfindings function hfunction table]
    simp only [htasks]

/-- The findings on the agenda are those of the functions of the records. -/
theorem settle_mem_agenda_iff {batch : RetypeBatch} {records : List UsageRecord}
    {function : DecompiledFunction} {finding : Finding} :
    Task.settle function finding ∈ batch.agenda records ↔
      ∃ record ∈ records, batch.functionOf record = .ok function ∧
        ∃ table ∈ batch.tables,
          finding ∈ (batch.traversal records record table).findings function := by
  simp only [agenda, List.mem_flatMap, settle_mem_tasksOf_iff]

end RetypeBatch

/-! ## Stages over lists -/

namespace Stage
variable {α β σ τ : Type}

/-- Two lists of items that go together in the same places lead to reports that go together,
and keep the stores in a relation, when every two such items do. -/
theorem each_related {Q : RetypeReport → RetypeReport → Prop} (hempty : Q .empty .empty)
    (happend : ∀ {a b c d}, Q a b → Q c d → Q (a ++ c) (b ++ d)) {T : α → β → Prop}
    {R : σ → τ → Prop} {first : α → Stage σ} {second : β → Stage τ}
    (step : ∀ {a b}, T a b → ∀ {x y}, R x y →
      Q (first a x).1 (second b y).1 ∧ R (first a x).2 (second b y).2)
    {items : List α} {items' : List β} (hitems : List.Forall₂ T items items') {x : σ} {y : τ}
    (hxy : R x y) :
    Q (each first items x).1 (each second items' y).1 ∧
      R (each first items x).2 (each second items' y).2 := by
  induction hitems generalizing x y with
  | nil => exact ⟨hempty, hxy⟩
  | cons hitem _ ih =>
    obtain ⟨hreport, hstore⟩ := step hitem hxy
    obtain ⟨hreports, hstores⟩ := ih hstore
    exact ⟨happend hreport hreports, hstores⟩

/-- Two stages over one list stay in a relation between their stores, and report the same,
if they do so item by item. -/
theorem each_simulation {R : σ → τ → Prop} (first : α → Stage σ) (second : α → Stage τ)
    (items : List α)
    (step : ∀ item ∈ items, ∀ x y, R x y →
      (first item x).1 = (second item y).1 ∧ R (first item x).2 (second item y).2)
    {x : σ} {y : τ} (hxy : R x y) :
    (each first items x).1 = (each second items y).1 ∧
      R (each first items x).2 (each second items y).2 := by
  refine each_related (T := fun item item' => item = item' ∧ item ∈ items) rfl
    (fun h h' => congrArg₂ (· ++ ·) h h') ?_ ?_ hxy
  · rintro item _ ⟨rfl, hitem⟩ x y hxy
    exact step item hitem x y hxy
  · exact List.forall₂_same.2 fun item hitem => ⟨rfl, hitem⟩

/-- What holds between the store before, the report and the store after holds of a list when
it holds of nothing, goes from part to part, and holds of each item. -/
theorem each_relation {P : σ → RetypeReport → σ → Prop} (hempty : ∀ x, P x .empty x)
    (happend : ∀ {x y z a b}, P x a y → P y b z → P x (a ++ b) z)
    (stage : α → Stage σ) (items : List α)
    (step : ∀ item ∈ items, ∀ x, P x (stage item x).1 (stage item x).2) (x : σ) :
    P x (each stage items x).1 (each stage items x).2 := by
  induction items generalizing x with
  | nil => exact hempty x
  | cons item items ih =>
    have hitem := step item (by simp) x
    have htail := ih (fun item hitem => step item (by simp [hitem])) (stage item x).2
    exact happend hitem htail

/-- What every item preserves holds after the list. -/
theorem each_invariant {I : σ → Prop} (stage : α → Stage σ) (items : List α)
    (step : ∀ item ∈ items, ∀ x, I x → I (stage item x).2) {x : σ} (hx : I x) :
    I (each stage items x).2 :=
  each_relation (P := fun x _ y => I x → I y) (fun _ => id) (fun hxy hyz hx => hyz (hxy hx))
    stage items step x hx

end Stage

/-! ## A batch to look at

A function that locates one protocol: the call stands in a loop, the GUID is a global and
the interface goes to a stack slot of unknown pointer type. -/

namespace BlockIo

def guid : Guid := ⟨.ofFn fun i => .ofNat i⟩

def place : LocalVariable := ⟨"block", .stack (-8), 8, .pointer .void⟩

def call : Expr :=
  .callThrough (.field (.var (.register 3 "bs" 8)) "LocateProtocol" 0x140)
    [.addressOf (.var (.global 0x3000 16)), .int 0,
      .addressOf (.var ((Variable.stack (-8) 8).rename "block"))]
    (some 0x1010)

/-- What the call is matched as, with another argument for the interface. -/
def matchedCall (interface : Expr) : MatchedCall :=
  ⟨⟨"LocateProtocol", 0x140, 3, 0, 2, 1⟩, 0x1010,
    [.addressOf (.var (.global 0x3000 16)), .int 0, interface]⟩

def function : DecompiledFunction := ⟨0x1000, "entry", [place], [.loop [.statement call]]⟩

def program : Program :=
  { Program.empty.addFunction function 0x1100 with image := Image.empty.addGuid 0x3000 guid }

def types : TypeDatabase :=
  (TypeDatabase.empty 8).addType "EFI_BLOCK_IO_PROTOCOL"
    (.struct (.empty (some "EFI_BLOCK_IO_PROTOCOL")))

/-- The protocol has a name here only. -/
def record : UsageRecord :=
  ⟨0x1010, none, "LocateProtocol", some guid, some "EFI_BLOCK_IO_PROTOCOL_GUID"⟩

def registry : ServiceTableRegistry := ServiceTableRegistry.empty.register .bootServices

def batch : RetypeBatch := .ofRegistry program.source types .empty registry .standard

def project : AnalysisProject := .empty "driver.efi"

end BlockIo
end UefiTyping
