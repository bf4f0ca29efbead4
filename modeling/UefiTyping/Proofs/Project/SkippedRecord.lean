import UefiTyping.Proofs.Project.RecordOrder

/-!
# Skipped records

A record without a function is skipped and listed, and the batch goes on. It still stands
among the records that are asked at every site; but only those at the address of the site
answer there. So a skipped record at an address of its own leaves no other trace: the others
come to the same on any store, as if it had not been there.
-/
namespace UefiTyping

/-! ## The records that a site asks -/

/-- Only the records at the address of a site are asked there. -/
theorem ResolvedProtocol.resolve_of_filter_eq {xs ys : List UsageRecord} {site : UInt64}
    (h : xs.filter (·.codeAddress == site) = ys.filter (·.codeAddress == site))
    (context : AnalysisContext) (restricted : Bool) (argument : Expr) :
    resolve context xs restricted site argument = resolve context ys restricted site argument := by
  have hany : ∀ guid, xs.any (·.allows site guid) = ys.any (·.allows site guid) := by
    intro guid
    have hfilter : ∀ records : List UsageRecord, records.any (·.allows site guid) =
        (records.filter (·.codeAddress == site)).any (·.matchesGuid guid) :=
      fun records => List.any_filter.symm
    rw [hfilter xs, hfilter ys, h]
  have hname : ∀ guid, recordedName? xs site guid = recordedName? ys site guid := by
    intro guid
    have hfilter : ∀ records : List UsageRecord,
        records.find? (fun record => record.codeAddress == site && record.guid == some guid) =
          (records.filter (·.codeAddress == site)).find? (·.guid == some guid) := by
      intro records
      rw [List.find?_filter]
      simp only [Bool.decide_and, Bool.decide_eq_true]
    rw [recordedName?, recordedName?, hfilter xs, hfilter ys, h]
  simp only [resolve, ofGuid?, hany, hname]

/-- No call in a function of the source carries the address. -/
def FunctionSource.NoCallAt (source : FunctionSource) (address : UInt64) : Prop :=
  ∀ entry function, source.decompile entry = .ok function →
    ∀ e, function.Contains e → e.callAddress? ≠ some address

namespace RetypeBatch
variable {batch : RetypeBatch} {xs ys : List UsageRecord} {skipped : UsageRecord}

/-- A record at an address of its own has no part in what there is to do for another. -/
theorem tasksOf_insert (hcalls : batch.source.NoCallAt skipped.codeAddress) {record : UsageRecord}
    (hrecord : record.codeAddress ≠ skipped.codeAddress) :
    batch.tasksOf (xs ++ [skipped] ++ ys) record = batch.tasksOf (xs ++ ys) record := by
  refine tasksOf_congr rfl fun function hfunction table => ?_
  refine Traversal.findings_congr rfl rfl fun call hcall argument => ?_
  have hsite : skipped.codeAddress ≠ call.site := by
    obtain ⟨entry, -, hdecompiled⟩ := functionOf_eq_ok_iff.1 hfunction
    obtain ⟨target, address, -, hcontains, -, -, -, hcallSite⟩ :=
      Traversal.mem_matchedCalls_iff.1 hcall
    have hcallAddress := hcalls entry function hdecompiled _ hcontains
    rw [hcallSite]
    cases address with
    | none => exact hrecord.symm
    | some address => exact fun h => hcallAddress (congrArg some h.symm)
  have hfilter : (xs ++ [skipped] ++ ys).filter (·.codeAddress == call.site) =
      (xs ++ ys).filter (·.codeAddress == call.site) := by
    simp [List.filter_append, hsite]
  exact ResolvedProtocol.resolve_of_filter_eq hfilter _ _ argument

/-- The agenda with a skipped record: that of the others, and in its place the record to
count and to skip. -/
theorem agenda_insert {error : AnalysisError} (hskipped : batch.functionOf skipped = .error error)
    (hcalls : batch.source.NoCallAt skipped.codeAddress)
    (hrecords : ∀ record ∈ xs ++ ys, record.codeAddress ≠ skipped.codeAddress) :
    batch.agenda (xs ++ [skipped] ++ ys) =
      xs.flatMap (batch.tasksOf (xs ++ ys)) ++
        ([.count { RetypeStats.zero with records := 1 }, .skip error] ++
          ys.flatMap (batch.tasksOf (xs ++ ys))) := by
  have hothers : ∀ zs : List UsageRecord, (∀ record ∈ zs, record ∈ xs ++ ys) →
      zs.flatMap (batch.tasksOf (xs ++ [skipped] ++ ys)) =
        zs.flatMap (batch.tasksOf (xs ++ ys)) := by
    intro zs hzs
    exact List.flatMap_congr fun record hrecord => tasksOf_insert hcalls (hrecords _ (hzs _ hrecord))
  have hself : batch.tasksOf (xs ++ [skipped] ++ ys) skipped =
      [.count { RetypeStats.zero with records := 1 }, .skip error] := by
    rw [tasksOf, hskipped]
  rw [agenda, List.flatMap_append, List.flatMap_append, List.flatMap_singleton, hself,
    List.append_assoc, hothers xs fun _ => List.mem_append_left ys,
    hothers ys fun _ => List.mem_append_right xs]

end RetypeBatch

/-! ## The errors of a run -/

/-- The error of a task that skips a record. -/
def Task.skipped? : Task → Option AnalysisError
  | .skip error => some error
  | .count _ | .settle _ _ => none

theorem Task.recordErrors_each_perform {σ : Type} [VariableStore σ] (dryRun : Bool)
    (tasks : List Task) (store : σ) :
    (Stage.each (Task.perform dryRun) tasks store).1.recordErrors = tasks.filterMap skipped? := by
  induction tasks generalizing store with
  | nil => rfl
  | cons task tasks ih =>
    have htask : (task.perform dryRun store).1.recordErrors = task.skipped?.toList := by
      cases task with
      | count stats => rfl
      | skip error => rfl
      | settle function finding => cases finding <;> rfl
    have hcons : (Stage.each (Task.perform dryRun) (task :: tasks) store).1.recordErrors =
        task.skipped?.toList ++ tasks.filterMap skipped? := by
      rw [← htask, ← ih (task.perform dryRun store).2]
      rfl
    rw [hcons]
    cases hskipped : task.skipped? with
    | none => rw [List.filterMap_cons_none hskipped]; rfl
    | some error => rw [List.filterMap_cons_some hskipped]; rfl

namespace RetypeBatch
variable {σ : Type} [VariableStore σ] {batch : RetypeBatch}

/-- The error of a record that has no function. -/
def errorOf? (batch : RetypeBatch) (record : UsageRecord) : Option AnalysisError :=
  match batch.functionOf record with
  | .error error => some error
  | .ok _ => none

/-- The errors of the records that have no function, in order. -/
def errorsOf (batch : RetypeBatch) (records : List UsageRecord) : List AnalysisError :=
  records.filterMap batch.errorOf?

theorem filterMap_skipped?_tasksOf (records : List UsageRecord) (record : UsageRecord) :
    (batch.tasksOf records record).filterMap Task.skipped? = (batch.errorOf? record).toList := by
  rw [tasksOf, errorOf?, List.filterMap_cons_none rfl]
  cases batch.functionOf record with
  | error error => rfl
  | ok function =>
    rw [Option.toList_none, List.filterMap_eq_nil_iff]
    intro task htask
    obtain ⟨table, -, htask⟩ := List.mem_flatMap.1 htask
    rcases List.mem_cons.1 htask with rfl | htask
    · rfl
    · obtain ⟨finding, -, rfl⟩ := List.mem_map.1 htask
      rfl

/-- A run lists the errors of its records, whatever the store. -/
theorem recordErrors_run (records : List UsageRecord) (store : σ) :
    (batch.run records store).1.recordErrors = batch.errorsOf records := by
  rw [run_eq_each_agenda, Task.recordErrors_each_perform, agenda, List.filterMap_flatMap, errorsOf,
    List.filterMap_eq_flatMap_toList]
  simp only [filterMap_skipped?_tasksOf]

end RetypeBatch

/-! ## The batch goes on -/

theorem RetypeStats.add_skipped_add (a b : RetypeStats) :
    a + ({ zero with records := 1, skippedRecords := 1 } + b) =
      { a + b with
        records := (a + b).records + 1, skippedRecords := (a + b).skippedRecords + 1 } := by
  simp only [add_def, add, zero, mk.injEq]
  omega

/-- A batch goes on behind a record without a function. When the record stands at an address of
its own, where no call and no other record is, the run reports the same sites and leaves the
store the same as without it; its error comes between those of the records before and after,
and only the counters of records and of skipped records are higher, by one. -/
theorem RetypeBatch.run_insert_skipped {σ : Type} [VariableStore σ] {batch : RetypeBatch}
    {xs ys : List UsageRecord} {skipped : UsageRecord} {error : AnalysisError}
    (hskipped : batch.functionOf skipped = .error error)
    (hcalls : batch.source.NoCallAt skipped.codeAddress)
    (hrecords : ∀ record ∈ xs ++ ys, record.codeAddress ≠ skipped.codeAddress) (store : σ) :
    let without := batch.run (xs ++ ys) store
    let run := batch.run (xs ++ [skipped] ++ ys) store
    run.2 = without.2 ∧ run.1.sites = without.1.sites ∧
      without.1.recordErrors = batch.errorsOf xs ++ batch.errorsOf ys ∧
      run.1.recordErrors = batch.errorsOf xs ++ error :: batch.errorsOf ys ∧
      run.1.stats = { without.1.stats with
        records := without.1.stats.records + 1
        skippedRecords := without.1.stats.skippedRecords + 1 } := by
  intro without run
  -- Both runs perform the tasks of the other records; counting and skipping leaves the store.
  let perform : Task → Stage σ := Task.perform batch.config.dryRun
  let first := Stage.each perform (xs.flatMap (batch.tasksOf (xs ++ ys))) store
  let last := Stage.each perform (ys.flatMap (batch.tasksOf (xs ++ ys))) first.2
  have hwithout : without = (first.1 ++ last.1, last.2) := by
    show batch.run (xs ++ ys) store = _
    rw [run_eq_each_agenda, agenda, List.flatMap_append, Stage.each_append]
    rfl
  have hrun : run = (first.1 ++ (.ofStats { RetypeStats.zero with records := 1 } ++
      .ofSkipped error ++ last.1), last.2) := by
    show batch.run (xs ++ [skipped] ++ ys) store = _
    rw [run_eq_each_agenda, agenda_insert hskipped hcalls hrecords, Stage.each_append,
      Stage.each_append]
    rfl
  refine ⟨?_, ?_, ?_, ?_, ?_⟩
  · rw [hrun, hwithout]
  · rw [hrun, hwithout]
    rfl
  · show (batch.run (xs ++ ys) store).1.recordErrors = _
    rw [recordErrors_run, errorsOf, List.filterMap_append]
    rfl
  · have herror : batch.errorOf? skipped = some error := by rw [errorOf?, hskipped]
    show (batch.run (xs ++ [skipped] ++ ys) store).1.recordErrors = _
    rw [recordErrors_run, errorsOf, List.append_assoc, List.filterMap_append,
      List.singleton_append, List.filterMap_cons_some herror]
    rfl
  · rw [hrun, hwithout]
    exact RetypeStats.add_skipped_add first.1.stats last.1.stats

/-- A record without a function, between two of a call that asks for the same GUID. -/
theorem RetypeBatch.run_insert_skipped_blockIo :
    let stray : UsageRecord :=
      ⟨0x9000, none, "LocateProtocol", some BlockIo.guid, some "EFI_DISK_IO_PROTOCOL_GUID"⟩
    let without := BlockIo.batch.run [BlockIo.record, BlockIo.record] BlockIo.project
    let run := BlockIo.batch.run [BlockIo.record, stray, BlockIo.record] BlockIo.project
    run.1.stats.retyped = 2 ∧ run.2 = without.2 ∧ run.1.sites = without.1.sites ∧
      without.1.recordErrors = [] ∧ run.1.recordErrors = [.functionNotFound 0x9000] ∧
      run.1.stats = { without.1.stats with records := 3, skippedRecords := 1 } := by
  intro stray without run
  have hskipped : BlockIo.batch.functionOf stray = .error (.functionNotFound 0x9000) := by rfl
  have hcalls : BlockIo.batch.source.NoCallAt 0x9000 := by
    intro entry function hfunction e hcontains
    have hdecompiled : (if BlockIo.function.address = entry then .ok BlockIo.function
        else Program.empty.decompile entry) = Except.ok function := by
      rw [← Program.decompile_addFunction Program.empty BlockIo.function 0x1100]
      exact hfunction
    by_cases hentry : BlockIo.function.address = entry
    · rw [if_pos hentry] at hdecompiled
      obtain rfl := Except.ok.inj hdecompiled
      have hwalk : ∀ e ∈ BlockIo.function.walk, e.callAddress? ≠ some 0x9000 := by decide
      exact hwalk e (DecompiledFunction.mem_walk_iff.2 hcontains)
    · rw [if_neg hentry] at hdecompiled
      simp [Program.decompile, Program.empty] at hdecompiled
  have hrecords : ∀ record ∈ [BlockIo.record] ++ [BlockIo.record],
      record.codeAddress ≠ stray.codeAddress := by decide
  exact ⟨by rfl, run_insert_skipped hskipped hcalls hrecords BlockIo.project⟩

end UefiTyping
