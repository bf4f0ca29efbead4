import Mathlib.Data.List.Basic
import UefiTyping.Proofs.Project.Run
import UefiTyping.Proofs.Retype.Decision

/-!
# The order of the records

A run walks a function once for each record in it and asks all records together at each
site. When calls have addresses of their own, and records that name a GUID at one address
agree on its protocol, a pass over a function always comes to the same, and passes over
different functions touch different parts of the project. So the order of the records
decides nothing but the order of the report.
-/
namespace UefiTyping

open Std (ExtTreeMap)

/-! ## Asking all records together -/

namespace UsageRecord

/-- Records that carry the same GUID at the same address name the same protocol, or none. -/
def Consistent (records : List UsageRecord) : Prop :=
  ∀ a ∈ records, ∀ b ∈ records, a.codeAddress = b.codeAddress → a.guid = b.guid →
    a.guid.isSome = true → a.protocolName = b.protocolName

end UsageRecord

namespace ResolvedProtocol
variable {xs ys : List UsageRecord}

theorem recordedName?_of_perm (hperm : xs.Perm ys) (hconsistent : UsageRecord.Consistent xs)
    (site : UInt64) (guid : Guid) : recordedName? xs site guid = recordedName? ys site guid := by
  rw [recordedName?, recordedName?]
  cases hx : xs.find? fun record => record.codeAddress == site && record.guid == some guid with
  | none =>
    have hy : ys.find? (fun record => record.codeAddress == site && record.guid == some guid) =
        none := by
      rw [List.find?_eq_none] at hx ⊢
      intro record hrecord
      exact hx record (hperm.mem_iff.2 hrecord)
    rw [hy]
  | some a =>
    have ha := List.mem_of_find?_eq_some hx
    have hmatch := List.find?_some hx
    cases hy : ys.find? fun record => record.codeAddress == site && record.guid == some guid with
    | none =>
      rw [List.find?_eq_none] at hy
      exact absurd hmatch (hy a (hperm.mem_iff.1 ha))
    | some b =>
      have hb := hperm.mem_iff.2 (List.mem_of_find?_eq_some hy)
      have hmatch' := List.find?_some hy
      simp only [Bool.and_eq_true, beq_iff_eq] at hmatch hmatch'
      exact hconsistent a ha b hb (hmatch.1.trans hmatch'.1.symm)
        (hmatch.2.trans hmatch'.2.symm) (by rw [hmatch.2]; rfl)

/-- Records in another order resolve the same protocol. -/
theorem resolve_of_perm (hperm : xs.Perm ys) (hconsistent : UsageRecord.Consistent xs)
    (context : AnalysisContext) (restricted : Bool) (site : UInt64) (argument : Expr) :
    resolve context xs restricted site argument = resolve context ys restricted site argument := by
  have hany : ∀ guid, xs.any (·.allows site guid) = ys.any (·.allows site guid) :=
    fun guid => hperm.any_eq
  simp only [resolve, ofGuid?, hany, recordedName?_of_perm hperm hconsistent]

end ResolvedProtocol

/-! ## Calls with addresses -/

/-- The address that a call carries. -/
def Expr.callAddress? : Expr → Option UInt64
  | .call _ _ address | .callThrough _ _ address => address
  | _ => none

/-- Every call of the function carries its own address. -/
def DecompiledFunction.CallsAddressed (function : DecompiledFunction) : Prop :=
  ∀ e, function.Contains e → e.isCall = true → e.callAddress?.isSome = true

namespace RetypeBatch

section Passes
variable {batch : RetypeBatch} {xs ys : List UsageRecord} {function : DecompiledFunction}

theorem matchedCalls_of_addressed (haddressed : function.CallsAddressed)
    (record record' : UsageRecord) (table : ServiceTable) :
    (batch.traversal xs record table).matchedCalls function =
      (batch.traversal ys record' table).matchedCalls function := by
  refine List.filterMap_congr fun e he => ?_
  obtain ⟨hcontains, hcall⟩ := DecompiledFunction.mem_calls_iff.1 he
  have haddress := haddressed e hcontains hcall
  cases e
  case callThrough target args address =>
    obtain ⟨address, rfl⟩ := Option.isSome_iff_exists.1 haddress
    rfl
  all_goals rfl

/-- What is found in a function does not depend on the record at hand, nor on the order of
the records. -/
theorem findings_of_perm (haddressed : function.CallsAddressed) (hperm : xs.Perm ys)
    (hconsistent : UsageRecord.Consistent xs) (record record' : UsageRecord)
    (table : ServiceTable) :
    (batch.traversal xs record table).findings function =
      (batch.traversal ys record' table).findings function := by
  refine Traversal.findings_congr rfl (matchedCalls_of_addressed haddressed record record' table) ?_
  intro call _ argument
  exact ResolvedProtocol.resolve_of_perm hperm hconsistent _ _ call.site argument

/-- Two records that lead to the same function ask for the same tasks. -/
theorem tasksOf_of_perm {record record' : UsageRecord}
    (hsame : batch.functionOf record = batch.functionOf record')
    (haddressed : ∀ function, batch.functionOf record = .ok function → function.CallsAddressed)
    (hperm : xs.Perm ys) (hconsistent : UsageRecord.Consistent xs) :
    batch.tasksOf xs record = batch.tasksOf ys record' := by
  refine tasksOf_congr hsame fun function hfunction table => ?_
  exact findings_of_perm (haddressed function hfunction) hperm hconsistent record record' table

end Passes
end RetypeBatch

/-! ## Reports put together -/

namespace RetypeReport

/-- Reports, one after another. -/
def concat : List RetypeReport → RetypeReport
  | [] => .empty
  | report :: reports => report ++ concat reports

theorem sites_concat (reports : List RetypeReport) :
    (concat reports).sites = reports.flatMap (·.sites) := by
  induction reports with
  | nil => rfl
  | cons report reports ih =>
    rw [List.flatMap_cons, ← ih]
    rfl

theorem recordErrors_concat (reports : List RetypeReport) :
    (concat reports).recordErrors = reports.flatMap (·.recordErrors) := by
  induction reports with
  | nil => rfl
  | cons report reports ih =>
    rw [List.flatMap_cons, ← ih]
    rfl

/-- Counters add up in any order. -/
theorem stats_concat_of_perm {reports reports' : List RetypeReport}
    (hperm : reports.Perm reports') : (concat reports).stats = (concat reports').stats := by
  induction hperm with
  | nil => rfl
  | cons report _ ih => exact congrArg (report.stats + ·) ih
  | swap report report' reports =>
    show report'.stats + (report.stats + _) = report.stats + (report'.stats + _)
    rw [← RetypeStats.add_assoc, ← RetypeStats.add_assoc,
      RetypeStats.add_comm report'.stats report.stats]
  | trans _ _ ih ih' => exact ih.trans ih'

end RetypeReport

/-- When items report the same on every store that can come up, their reports are put
together. -/
theorem Stage.report_each_eq_concat {α σ : Type} {I : σ → Prop} {stage : α → Stage σ}
    {report : α → RetypeReport} (items : List α)
    (step : ∀ item ∈ items, ∀ x, I x → (stage item x).1 = report item ∧ I (stage item x).2)
    {x : σ} (hx : I x) :
    (each stage items x).1 = RetypeReport.concat (items.map report) := by
  induction items generalizing x with
  | nil => rfl
  | cons item items ih =>
    obtain ⟨hreport, hstore⟩ := step item (by simp) x hx
    have htail := ih (fun item hitem => step item (by simp [hitem])) hstore
    simp only [each_cons, andThen, List.map_cons, RetypeReport.concat, hreport, htail]

/-! ## Passes over functions -/

namespace RetypeBatch
variable {batch : RetypeBatch} {records xs ys : List UsageRecord}

/-- What the pass for one record reports on a project. -/
def passReport (batch : RetypeBatch) (records : List UsageRecord) (project : AnalysisProject)
    (record : UsageRecord) : RetypeReport :=
  (Stage.each (Task.perform batch.config.dryRun) (batch.tasksOf records record) project).1

/-- On projects that leave the same functions alone, a pass reports the same. -/
theorem passReport_congr {first second : AnalysisProject}
    (h : first.excluded = second.excluded) (record : UsageRecord) :
    batch.passReport records first record = batch.passReport records second record :=
  (AnalysisProject.each_perform_congr h batch.config.dryRun (batch.tasksOf records record)).1

/-- A run reports pass by pass. -/
theorem fst_run_eq_concat (batch : RetypeBatch) (records : List UsageRecord)
    (project : AnalysisProject) :
    (batch.run records project).1 =
      RetypeReport.concat (records.map (batch.passReport records project)) := by
  rw [run_eq_each_agenda, agenda, Stage.each_flatMap]
  refine Stage.report_each_eq_concat
    (I := fun other : AnalysisProject => other.excluded = project.excluded) records ?_ rfl
  intro record _ other hother
  refine ⟨passReport_congr hother record, ?_⟩
  refine Stage.each_invariant
    (I := fun other : AnalysisProject => other.excluded = project.excluded) _ _ ?_ hother
  intro task _ other hother
  rw [(AnalysisProject.follows_perform _ task other).excluded_eq, hother]

/-- The sites of a pass lie in the function of its record. -/
theorem function_of_mem_passReport {project : AnalysisProject} {record : UsageRecord}
    {site : SiteReport} (h : site ∈ (batch.passReport records project record).sites) :
    ∃ function, batch.functionOf record = .ok function ∧ site.function = function.address := by
  refine Stage.each_relation (P := fun _ report _ => ∀ site ∈ report.sites,
    ∃ function, batch.functionOf record = .ok function ∧ site.function = function.address)
    (by simp [RetypeReport.empty]) ?_ _ _ ?_ project site h
  · intro _ _ _ a b ha hb site hsite
    exact (List.mem_append.1 hsite).elim (ha site) (hb site)
  · intro task htask project site hsite
    obtain ⟨function, finding, rfl, hfunction⟩ := Task.eq_settle_of_mem_sites hsite
    exact ⟨function, (settle_mem_tasksOf_iff.1 htask).1, hfunction⟩

/-- Passes write one after the other. -/
theorem types_run_eq_foldl (batch : RetypeBatch) (records : List UsageRecord)
    (project : AnalysisProject) :
    (batch.run records project).2.types =
      records.foldl (fun types record =>
        SiteReport.replay types (batch.passReport records project record).sites) project.types := by
  rw [(batch.follows_run records project).types_eq, fst_run_eq_concat, RetypeReport.sites_concat,
    List.flatMap_map, SiteReport.replay, List.foldl_flatMap]
  rfl

end RetypeBatch

/-! ## Programs -/

/-- The programs that can be put together: functions are added at their own entries, and the
data can be anything. -/
inductive Program.Built : Program → Prop
  | empty : Built .empty
  | addFunction {program : Program} (function : DecompiledFunction) (limit : UInt64) :
      Built program → Built (program.addFunction function limit)
  | addFailed {program : Program} (entry limit : UInt64) (reason : String) :
      Built program → Built (program.addFailed entry limit reason)
  | setImage {program : Program} (image : Image) : Built program → Built { program with image }

theorem Program.decompile_addFunction (program : Program) (function : DecompiledFunction)
    (limit entry : UInt64) : (program.addFunction function limit).decompile entry =
      if function.address = entry then .ok function else program.decompile entry := by
  by_cases h : function.address = entry
  · simp [decompile, addFunction, h]
  · simp [decompile, addFunction, ExtTreeMap.getElem?_insert, h]

theorem Program.decompile_addFailed (program : Program) (failed limit : UInt64) (reason : String)
    (entry : UInt64) : (program.addFailed failed limit reason).decompile entry =
      if failed = entry then .error (.decompilationFailed entry reason)
      else program.decompile entry := by
  by_cases h : failed = entry
  · simp [decompile, addFailed, h]
  · simp [decompile, addFailed, ExtTreeMap.getElem?_insert, h]

/-- A function of a program is found at its own entry. -/
theorem Program.Built.address_eq {program : Program} (h : program.Built) {entry : UInt64}
    {function : DecompiledFunction} (hfunction : program.decompile entry = .ok function) :
    function.address = entry := by
  induction h with
  | empty => simp [decompile, Program.empty] at hfunction
  | addFunction added limit _ ih =>
    rw [decompile_addFunction] at hfunction
    by_cases hentry : added.address = entry
    · rw [if_pos hentry] at hfunction
      rw [← Except.ok.inj hfunction, hentry]
    · rw [if_neg hentry] at hfunction
      exact ih hfunction
  | addFailed failed limit reason _ ih =>
    rw [decompile_addFailed] at hfunction
    by_cases hentry : failed = entry
    · rw [if_pos hentry] at hfunction
      cases hfunction
    · rw [if_neg hentry] at hfunction
      exact ih hfunction
  | setImage image _ ih => exact ih hfunction

/-! ## Records in another order -/

section Order
variable {program : Program} {types : TypeDatabase} {protocols : ProtocolRegistry}
  {registry : ServiceTableRegistry} {config : RetypeConfig} {xs ys : List UsageRecord}

/-- Passes over one function report the same sites, and passes over different functions do not
meet in a project, so any two passes may change places. -/
theorem RetypeBatch.replay_passReport_comm {batch : RetypeBatch}
    (hsource : batch.source = program.source) (hbuilt : program.Built)
    (haddressed : ∀ entry function, program.decompile entry = .ok function →
      function.CallsAddressed)
    (hconsistent : UsageRecord.Consistent xs) (project : AnalysisProject)
    (record record' : UsageRecord) (types : ExtTreeMap UInt64 VariableTypes) :
    SiteReport.replay (SiteReport.replay types (batch.passReport xs project record).sites)
        (batch.passReport xs project record').sites =
      SiteReport.replay (SiteReport.replay types (batch.passReport xs project record').sites)
        (batch.passReport xs project record).sites := by
  have hfound : ∀ {record function}, batch.functionOf record = .ok function →
      program.decompile function.address = .ok function := by
    intro record function h
    obtain ⟨entry, -, hdecompiled⟩ := functionOf_eq_ok_iff.1 h
    rw [hsource] at hdecompiled
    have hentry := hbuilt.address_eq hdecompiled
    rw [hentry]
    exact hdecompiled
  -- Passes that meet in a function are passes over that function, and so the same pass.
  by_cases hsame : ∃ a ∈ (batch.passReport xs project record).sites,
      ∃ b ∈ (batch.passReport xs project record').sites, a.function = b.function
  · obtain ⟨a, ha, b, hb, hab⟩ := hsame
    obtain ⟨function, hrecord, hfunction⟩ := function_of_mem_passReport ha
    obtain ⟨function', hrecord', hfunction'⟩ := function_of_mem_passReport hb
    have heq : function = function' := by
      have h := hfound hrecord
      rw [← hfunction, hab, hfunction', hfound hrecord'] at h
      exact (Except.ok.inj h).symm
    subst heq
    have htasks : batch.tasksOf xs record = batch.tasksOf xs record' := by
      refine tasksOf_of_perm (hrecord.trans hrecord'.symm) ?_ (.refl xs) hconsistent
      intro other hother
      exact haddressed _ other (hfound hother)
    have hreport : batch.passReport xs project record = batch.passReport xs project record' := by
      rw [passReport, passReport, htasks]
    rw [hreport]
  -- Passes that do not meet write to different functions.
  · refine SiteReport.replay_comm types fun a ha b hb hab => hsame ⟨a, ha, b, hb, hab⟩

/-- The order of the usage records does not matter: the same records in another order lead to
the same project, the same counters, and the same sites and errors up to their order. -/
theorem RetypeBatch.run_of_perm_records (hbuilt : program.Built)
    (haddressed : ∀ entry function, program.decompile entry = .ok function →
      function.CallsAddressed)
    (hperm : xs.Perm ys) (hconsistent : UsageRecord.Consistent xs) (project : AnalysisProject) :
    let batch := ofRegistry program.source types protocols registry config
    let first := batch.run xs project
    let second := batch.run ys project
    first.2 = second.2 ∧ first.1.stats = second.1.stats ∧
      first.1.sites.Perm second.1.sites ∧ first.1.recordErrors.Perm second.1.recordErrors := by
  intro batch first second
  have hpass : batch.passReport xs project = batch.passReport ys project := by
    funext record
    rw [passReport, passReport, tasksOf_of_perm rfl ?_ hperm hconsistent]
    intro function hfunction
    obtain ⟨entry, -, hdecompiled⟩ := functionOf_eq_ok_iff.1 hfunction
    exact haddressed entry function hdecompiled
  have hreports : (xs.map (batch.passReport xs project)).Perm
      (ys.map (batch.passReport ys project)) := by
    rw [hpass]
    exact hperm.map _
  have hfirst : first.1 = RetypeReport.concat (xs.map (batch.passReport xs project)) :=
    fst_run_eq_concat batch xs project
  have hsecond : second.1 = RetypeReport.concat (ys.map (batch.passReport ys project)) :=
    fst_run_eq_concat batch ys project
  have hsites : first.1.sites.Perm second.1.sites := by
    rw [hfirst, hsecond, RetypeReport.sites_concat, RetypeReport.sites_concat]
    exact hreports.flatMap_right _
  refine ⟨?_, ?_, hsites, ?_⟩
  · have hx : AnalysisProject.Follows project first.1.sites first.2 := batch.follows_run xs project
    have hy : AnalysisProject.Follows project second.1.sites second.2 :=
      batch.follows_run ys project
    have htypes : first.2.types = second.2.types := by
      rw [types_run_eq_foldl, types_run_eq_foldl, ← hpass]
      refine hperm.foldl_eq' (fun record _ record' _ types => ?_) _
      exact replay_passReport_comm rfl hbuilt haddressed hconsistent project record record' types
    have hdirty : first.2.dirty = second.2.dirty := by
      rw [hx.dirty_eq, hy.dirty_eq, hsites.any_eq]
    exact AnalysisProject.ext (hx.version_eq.trans hy.version_eq.symm)
      (hx.binaryPath_eq.trans hy.binaryPath_eq.symm) htypes
      (hx.excluded_eq.trans hy.excluded_eq.symm) hdirty
  · rw [hfirst, hsecond]
    exact RetypeReport.stats_concat_of_perm hreports
  · rw [hfirst, hsecond, RetypeReport.recordErrors_concat, RetypeReport.recordErrors_concat]
    exact hreports.flatMap_right _

/-- Two records of one call, the second without a GUID, in either order. -/
theorem RetypeBatch.run_of_perm_records_blockIo :
    let other : UsageRecord := { BlockIo.record with guid := none, protocolName := none }
    let first := BlockIo.batch.run [BlockIo.record, other] BlockIo.project
    let second := BlockIo.batch.run [other, BlockIo.record] BlockIo.project
    first.1.stats.retyped = 2 ∧ first.2 = second.2 ∧ first.1.stats = second.1.stats ∧
      first.1.sites.Perm second.1.sites ∧ first.1.recordErrors.Perm second.1.recordErrors := by
  intro other first second
  have hbuilt : BlockIo.program.Built := .setImage _ (.addFunction _ _ .empty)
  have haddressed : ∀ entry function, BlockIo.program.decompile entry = .ok function →
      function.CallsAddressed := by
    intro entry function hfunction e hcontains hcall
    have hdecompiled : (if BlockIo.function.address = entry then .ok BlockIo.function
        else Program.empty.decompile entry) = Except.ok function := by
      rw [← Program.decompile_addFunction Program.empty BlockIo.function 0x1100]
      exact hfunction
    by_cases hentry : BlockIo.function.address = entry
    · rw [if_pos hentry] at hdecompiled
      obtain rfl := Except.ok.inj hdecompiled
      have hmem : e ∈ BlockIo.function.calls :=
        DecompiledFunction.mem_calls_iff.2 ⟨hcontains, hcall⟩
      obtain rfl : e = BlockIo.call := List.mem_singleton.1 hmem
      rfl
    · rw [if_neg hentry] at hdecompiled
      simp [Program.decompile, Program.empty] at hdecompiled
  have hconsistent : UsageRecord.Consistent [BlockIo.record, other] := by
    rw [UsageRecord.Consistent]
    decide
  refine ⟨by rfl, ?_⟩
  exact run_of_perm_records hbuilt haddressed (.swap _ _ _) hconsistent BlockIo.project

end Order
end UefiTyping
