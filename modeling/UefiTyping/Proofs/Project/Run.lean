import UefiTyping.Proofs.CType.WordSize
import UefiTyping.Proofs.Retype.Agenda
import UefiTyping.Project.Basic

/-!
# Runs on a project

A run changes a project in one way only: it records the types that its report calls
retyped. So the project after a run is determined by the project before and the report,
and the functions that are left alone keep what was recorded for them.
-/
namespace UefiTyping

open Std (ExtTreeMap)

/-! ## Entries of a map -/

section Maps
variable {κ ν : Type} [Ord κ] [Std.TransOrd κ] [Std.LawfulEqOrd κ]

/-- A later entry takes the place of an earlier one. -/
theorem insert_insert_same (map : ExtTreeMap κ ν) (key : κ) (first second : ν) :
    (map.insert key first).insert key second = map.insert key second := by
  refine ExtTreeMap.ext_getElem? fun other => ?_
  simp only [ExtTreeMap.getElem?_insert]
  by_cases h : compare key other = .eq
  · rw [if_pos h, if_pos h]
  · rw [if_neg h, if_neg h, if_neg h]

/-- Entries under different keys may be made in either order. -/
theorem insert_insert_comm (map : ExtTreeMap κ ν) {key key' : κ} (h : key ≠ key')
    (value value' : ν) :
    (map.insert key value).insert key' value' = (map.insert key' value').insert key value := by
  refine ExtTreeMap.ext_getElem? fun other => ?_
  simp only [ExtTreeMap.getElem?_insert]
  by_cases hkey : compare key other = .eq
  · have hkey' : compare key' other ≠ .eq := fun hkey' =>
      h ((Std.compare_eq_iff_eq.1 hkey).trans (Std.compare_eq_iff_eq.1 hkey').symm)
    rw [if_pos hkey, if_neg hkey', if_pos hkey]
  · rw [if_neg hkey, if_neg hkey]

end Maps

/-! ## Replaying a report -/

namespace SiteReport

/-- Recorded types after a site: a retyped variable has its new type, in place of any before. -/
def record (types : ExtTreeMap UInt64 VariableTypes) (site : SiteReport) :
    ExtTreeMap UInt64 VariableTypes :=
  match site.outcome with
  | .retyped name type =>
    types.insert site.function ((types.getD site.function ∅).insert name type)
  | _ => types

/-- Recorded types after a list of sites, in order. -/
def replay (types : ExtTreeMap UInt64 VariableTypes) (sites : List SiteReport) :
    ExtTreeMap UInt64 VariableTypes :=
  sites.foldl record types

theorem record_of_not_isRetyped {types : ExtTreeMap UInt64 VariableTypes} {site : SiteReport}
    (h : site.isRetyped = false) : record types site = types := by
  obtain ⟨entry, address, service, protocol, outcome⟩ := site
  cases outcome with
  | retyped name type => cases h
  | planned name type => rfl
  | failed error => rfl

theorem getElem?_record_of_ne {types : ExtTreeMap UInt64 VariableTypes} {site : SiteReport}
    {function : UInt64} (h : site.isRetyped = true → site.function ≠ function) :
    (record types site)[function]? = types[function]? := by
  obtain ⟨entry, address, service, protocol, outcome⟩ := site
  cases outcome with
  | retyped name type =>
    have hne : entry ≠ function := h rfl
    simp [record, ExtTreeMap.getElem?_insert, hne]
  | planned name type => rfl
  | failed error => rfl

theorem getElem?_replay_of_ne {types : ExtTreeMap UInt64 VariableTypes} {sites : List SiteReport}
    {function : UInt64}
    (h : ∀ site ∈ sites, site.isRetyped = true → site.function ≠ function) :
    (replay types sites)[function]? = types[function]? := by
  induction sites generalizing types with
  | nil => rfl
  | cons site sites ih =>
    have hsite : (record types site)[function]? = types[function]? :=
      getElem?_record_of_ne (h site (by simp))
    rw [← hsite]
    exact ih fun site hsite => h site (by simp [hsite])

/-- The variable whose type a site records, by function and name. -/
def recorded? (site : SiteReport) : Option (UInt64 × String) :=
  match site.outcome with
  | .retyped name _ => some (site.function, name)
  | _ => none

theorem function_of_recorded? {site : SiteReport} {key : UInt64 × String}
    (h : site.recorded? = some key) : key.1 = site.function := by
  rw [recorded?] at h
  split at h
  · exact (congrArg Prod.fst (Option.some.inj h)).symm
  · cases h

/-- Of two sites that record one variable the later one counts. -/
theorem record_record (types : ExtTreeMap UInt64 VariableTypes) {a b : SiteReport}
    (h : a.recorded? = b.recorded?) : record (record types a) b = record types b := by
  obtain ⟨entry, address, service, protocol, outcome⟩ := a
  obtain ⟨entry', address', service', protocol', outcome'⟩ := b
  cases outcome with
  | planned name type => rfl
  | failed error => rfl
  | retyped name type =>
    cases outcome' with
    | planned name type => cases h
    | failed error => cases h
    | retyped name' type' =>
      obtain ⟨rfl, rfl⟩ := Prod.mk.inj (Option.some.inj h)
      simp only [record, ExtTreeMap.getD_insert_self, insert_insert_same]

/-- Sites that record different variables may be recorded in either order. -/
theorem record_comm (types : ExtTreeMap UInt64 VariableTypes) {a b : SiteReport}
    (h : ∀ key, a.recorded? = some key → b.recorded? ≠ some key) :
    record (record types a) b = record (record types b) a := by
  obtain ⟨entry, address, service, protocol, outcome⟩ := a
  obtain ⟨entry', address', service', protocol', outcome'⟩ := b
  cases outcome with
  | planned name type => rfl
  | failed error => rfl
  | retyped name type =>
    cases outcome' with
    | planned name type => rfl
    | failed error => rfl
    | retyped name' type' =>
      simp only [record, ExtTreeMap.getD_insert, Std.compare_eq_iff_eq]
      by_cases hentry : entry = entry'
      · subst hentry
        have hname : name ≠ name' := fun hname => h (entry, name) rfl (by rw [recorded?, hname])
        rw [if_pos rfl, if_pos rfl, insert_insert_same, insert_insert_same,
          insert_insert_comm _ hname]
      · rw [if_neg hentry, if_neg (Ne.symm hentry), insert_insert_comm _ hentry]

/-- A site that is about another variable leaves the type of a variable as it is. -/
theorem getElem?_record_of_recorded?_ne {types : ExtTreeMap UInt64 VariableTypes}
    {site : SiteReport} {function : UInt64} {name : String}
    (h : site.recorded? ≠ some (function, name)) :
    ((record types site).getD function ∅)[name]? = (types.getD function ∅)[name]? := by
  obtain ⟨entry, address, service, protocol, outcome⟩ := site
  cases outcome with
  | planned name' type' => rfl
  | failed error => rfl
  | retyped name' type' =>
    rw [record, ExtTreeMap.getD_insert]
    by_cases hentry : entry = function
    · subst hentry
      have hname : name' ≠ name := fun hname => h (by rw [recorded?, hname])
      simp [ExtTreeMap.getElem?_insert, hname]
    · simp [hentry]

/-- A type that a variable has, or that a site gives it, stays as long as no site gives the
variable another. -/
theorem getElem?_replay_of_retyped {types : ExtTreeMap UInt64 VariableTypes}
    {sites : List SiteReport} {function : UInt64} {name : String} {type : CType}
    (hgiven : (types.getD function ∅)[name]? = some type ∨
      ∃ site ∈ sites, site.function = function ∧ site.outcome = .retyped name type)
    (hsame : ∀ site ∈ sites, site.function = function → ∀ type',
      site.outcome = .retyped name type' → type' = type) :
    ((replay types sites).getD function ∅)[name]? = some type := by
  induction sites generalizing types with
  | nil => simpa [replay] using hgiven
  | cons site sites ih =>
    refine ih ?_ fun other hother => hsame other (by simp [hother])
    by_cases hrecorded : site.recorded? = some (function, name)
    · -- The site gives the variable its type, whatever that was before.
      left
      obtain ⟨entry, address, service, protocol, outcome⟩ := site
      cases outcome with
      | planned name' type' | failed error => cases hrecorded
      | retyped name' type' =>
        obtain ⟨rfl, rfl⟩ := Prod.mk.inj (Option.some.inj hrecorded)
        obtain rfl : type' = type := hsame _ List.mem_cons_self rfl type' rfl
        simp [record]
    · rw [getElem?_record_of_recorded?_ne hrecorded]
      rcases hgiven with hbefore | ⟨other, hother, hfunction, houtcome⟩
      · exact .inl hbefore
      · rcases List.mem_cons.1 hother with rfl | hother
        · exact absurd (by rw [recorded?, houtcome, hfunction]) hrecorded
        · exact .inr ⟨other, hother, hfunction, houtcome⟩

theorem replay_append (types : ExtTreeMap UInt64 VariableTypes) (sites sites' : List SiteReport) :
    replay types (sites ++ sites') = replay (replay types sites) sites' :=
  List.foldl_append

theorem replay_record_comm (types : ExtTreeMap UInt64 VariableTypes) {site : SiteReport}
    {sites : List SiteReport} (h : ∀ other ∈ sites, site.function ≠ other.function) :
    replay (record types site) sites = record (replay types sites) site := by
  induction sites generalizing types with
  | nil => rfl
  | cons other sites ih =>
    have hother : record (record types site) other = record (record types other) site := by
      refine record_comm types fun key hsite hother => h other (by simp) ?_
      rw [← function_of_recorded? hsite, ← function_of_recorded? hother]
    calc replay (record (record types site) other) sites
        = replay (record (record types other) site) sites := by rw [hother]
      _ = record (replay (record types other) sites) site :=
          ih (record types other) fun other hother => h other (by simp [hother])

theorem replay_comm (types : ExtTreeMap UInt64 VariableTypes) {sites sites' : List SiteReport}
    (h : ∀ a ∈ sites, ∀ b ∈ sites', a.function ≠ b.function) :
    replay (replay types sites) sites' = replay (replay types sites') sites := by
  induction sites generalizing types with
  | nil => rfl
  | cons a sites ih =>
    have ha : replay (record types a) sites' = record (replay types sites') a :=
      replay_record_comm types (h a (by simp))
    calc replay (replay (record types a) sites) sites'
        = replay (replay (record types a) sites') sites :=
          ih (record types a) fun b hb => h b (by simp [hb])
      _ = replay (record (replay types sites') a) sites := by rw [ha]

end SiteReport

/-! ## What a stage does to a project -/

namespace AnalysisProject

/-- The project after some sites were reported is the project before with the retyped ones
recorded; none of them lies in a function that is left alone. -/
structure Follows (before : AnalysisProject) (sites : List SiteReport) (after : AnalysisProject) :
    Prop where
  types_eq : after.types = SiteReport.replay before.types sites
  excluded_eq : after.excluded = before.excluded
  version_eq : after.version = before.version
  binaryPath_eq : after.binaryPath = before.binaryPath
  dirty_eq : after.dirty = (before.dirty || sites.any SiteReport.isRetyped)
  not_excluded : ∀ site ∈ sites, site.isRetyped = true → before.isExcluded site.function = false

namespace Follows

theorem trans {first second third : AnalysisProject} {sites sites' : List SiteReport}
    (h : Follows first sites second) (h' : Follows second sites' third) :
    Follows first (sites ++ sites') third where
  types_eq := by rw [h'.types_eq, h.types_eq, SiteReport.replay_append]
  excluded_eq := h'.excluded_eq.trans h.excluded_eq
  version_eq := h'.version_eq.trans h.version_eq
  binaryPath_eq := h'.binaryPath_eq.trans h.binaryPath_eq
  dirty_eq := by rw [h'.dirty_eq, h.dirty_eq, List.any_append, Bool.or_assoc]
  not_excluded := by
    intro site hsite hretyped
    rcases List.mem_append.1 hsite with hsite | hsite
    · exact h.not_excluded site hsite hretyped
    · have hkept := h'.not_excluded site hsite hretyped
      rwa [isExcluded, h.excluded_eq] at hkept

/-- Sites that are not retyped leave the project as it is. -/
theorem of_not_isRetyped (project : AnalysisProject) {sites : List SiteReport}
    (h : ∀ site ∈ sites, site.isRetyped = false) : Follows project sites project where
  types_eq := by
    induction sites with
    | nil => rfl
    | cons site sites ih =>
      have hsite : SiteReport.record project.types site = project.types :=
        SiteReport.record_of_not_isRetyped (h site (by simp))
      rw [SiteReport.replay, List.foldl_cons, hsite]
      exact ih fun site hsite => h site (by simp [hsite])
  excluded_eq := rfl
  version_eq := rfl
  binaryPath_eq := rfl
  dirty_eq := by
    have hany : sites.any SiteReport.isRetyped = false := by simpa using h
    rw [hany, Bool.or_false]
  not_excluded := by
    intro site hsite hretyped
    rw [h site hsite] at hretyped
    cases hretyped

/-- A retyped site records its type. -/
theorem setType (project : AnalysisProject) (site : SiteReport) {name : String} {type : CType}
    (houtcome : site.outcome = .retyped name type)
    (hexcluded : project.isExcluded site.function = false) :
    Follows project [site] (project.setType site.function name type) where
  types_eq := by simp [SiteReport.replay, SiteReport.record, houtcome, AnalysisProject.setType]
  excluded_eq := rfl
  version_eq := rfl
  binaryPath_eq := rfl
  dirty_eq := by simp [SiteReport.isRetyped, houtcome, AnalysisProject.setType]
  not_excluded := by simpa using fun _ => hexcluded

/-- Nothing is added, changed or removed for a function that is left alone. -/
theorem getElem?_of_excluded {before after : AnalysisProject} {sites : List SiteReport}
    (h : Follows before sites after) {function : UInt64}
    (hexcluded : before.isExcluded function = true) :
    after.types[function]? = before.types[function]? := by
  rw [h.types_eq]
  refine SiteReport.getElem?_replay_of_ne fun site hsite hretyped hfunction => ?_
  have hkept := h.not_excluded site hsite hretyped
  rw [hfunction, hexcluded] at hkept
  cases hkept

/-- A variable that is retyped has the new type afterwards, unless it gets another as well. -/
theorem typeOf?_of_retyped {before after : AnalysisProject} {sites : List SiteReport}
    (h : Follows before sites after) {site : SiteReport} (hsite : site ∈ sites) {name : String}
    {type : CType} (houtcome : site.outcome = .retyped name type)
    (hsame : ∀ other ∈ sites, other.function = site.function → ∀ type',
      other.outcome = .retyped name type' → type' = type) :
    after.typeOf? site.function name = some type := by
  have hlast : ((SiteReport.replay before.types sites).getD site.function ∅)[name]? = some type :=
    SiteReport.getElem?_replay_of_retyped (.inr ⟨site, hsite, rfl, houtcome⟩) hsame
  rw [← h.types_eq, ExtTreeMap.getD_eq_getD_getElem?] at hlast
  rw [typeOf?, functionTypes?]
  cases htypes : after.types[site.function]? with
  | none => simp [htypes] at hlast
  | some types => simpa [htypes] using hlast

end Follows

/-- A pointer has room everywhere but in a register of less than eight bytes. -/
theorem hasRoom_pointer_iff {place : LocalVariable} {target : CType} :
    hasRoom place (.pointer target) = true ↔
      ∀ id, place.storage = .register id → TypeDatabase.pointerSizeX64 ≤ place.size := by
  rw [hasRoom, CType.size]
  cases place.storage with
  | register id => simp [TypeDatabase.pointerSizeX64]
  | stack | global | argument | temporary => simp

/-- Comparing the size in words comes to the same, as long as they hold the sizes of the type. -/
theorem hasRoom_eq_of_sizesFit {place : LocalVariable} {type : CType} (h : type.SizesFit) :
    hasRoom place type =
      match place.storage, type.wordSize with
      | .register _, some word => decide (word.toNat ≤ place.size)
      | _, _ => true := by
  rw [hasRoom, ← CType.map_toNat_wordSize h]
  cases place.storage with
  | register id => cases type.wordSize <;> rfl
  | stack | global | argument | temporary => rfl

/-- A project takes what has room, unless it leaves the function alone. -/
theorem accepts_of_not_isExcluded {project : AnalysisProject} {function : UInt64}
    (hkept : project.isExcluded function = false) (place : LocalVariable) (type : CType) :
    project.accepts function place type = hasRoom place type := by
  rw [accepts, hkept]
  rfl

theorem setType_eq (project : AnalysisProject) (function : UInt64) (place : LocalVariable)
    (type : CType) : VariableStore.setType project function place type =
      if project.accepts function place type then (true, project.setType function place.name type)
      else (false, project) := rfl

/-- A project decides at each offer by the function and the local alone. -/
theorem fst_commit_eq (project : AnalysisProject) {proposal : Proposal}
    {function : DecompiledFunction} {place : LocalVariable} {type : CType}
    (hoffer : proposal.offer = .ok (place.name, type))
    (hlocal : function.local? place.name = some place) (dryRun : Bool) :
    (proposal.commit function dryRun project).1 =
      if dryRun then .planned place.name type
      else if project.accepts function.address place type then .retyped place.name type
      else .failed (.retype function.address place.name) := by
  cases dryRun with
  | true => rw [Proposal.commit_planned hoffer, if_pos rfl]
  | false =>
    rw [Proposal.commit_local hoffer hlocal, setType_eq, if_neg Bool.false_ne_true]
    cases project.accepts function.address place type
    · rfl
    · rfl

/-- What a task reports depends on a project only through the functions left alone. -/
theorem fst_perform_congr {first second : AnalysisProject}
    (h : first.excluded = second.excluded) (dryRun : Bool) (task : Task) :
    (task.perform dryRun first).1 = (task.perform dryRun second).1 := by
  rcases task.perform_cases dryRun with
    ⟨report, -, hperform⟩ | ⟨function, proposal, place, type, -, -, hperform⟩
  · rw [hperform first, hperform second]
  · have haccepts : first.accepts function.address place type =
        second.accepts function.address place type := by
      rw [accepts, accepts, isExcluded, isExcluded, h]
    rw [hperform first, hperform second, setType_eq, setType_eq, haccepts]
    by_cases hsecond : second.accepts function.address place type = true
    · rw [if_pos hsecond, if_pos hsecond]
    · rw [if_neg hsecond, if_neg hsecond]

/-- What a task does to a project. -/
theorem follows_perform (dryRun : Bool) (task : Task) (project : AnalysisProject) :
    Follows project (task.perform dryRun project).1.sites (task.perform dryRun project).2 := by
  rcases task.perform_cases dryRun with
    ⟨report, hreport, hperform⟩ | ⟨function, proposal, place, type, -, -, hperform⟩
  · rw [hperform project]
    exact .of_not_isRetyped project hreport
  · rw [hperform project, setType_eq]
    by_cases haccepts : project.accepts function.address place type = true
    · have hexcluded : project.isExcluded function.address = false := by
        rw [accepts, Bool.and_eq_true, Bool.not_eq_true'] at haccepts
        exact haccepts.1
      rw [if_pos haccepts]
      exact .setType project ⟨function.address, _, _, _, .retyped place.name type⟩ rfl hexcluded
    · rw [if_neg haccepts]
      exact .of_not_isRetyped project (by simp [Proposal.sites_report, SiteReport.isRetyped])

/-- What tasks report depends on a project only through the functions left alone, and these
stay the same. -/
theorem each_perform_congr {first second : AnalysisProject}
    (h : first.excluded = second.excluded) (dryRun : Bool) (tasks : List Task) :
    (Stage.each (Task.perform dryRun) tasks first).1 =
        (Stage.each (Task.perform dryRun) tasks second).1 ∧
      (Stage.each (Task.perform dryRun) tasks first).2.excluded =
        (Stage.each (Task.perform dryRun) tasks second).2.excluded := by
  refine Stage.each_simulation (R := fun first second : AnalysisProject =>
    first.excluded = second.excluded) _ _ _ ?_ h
  intro task _ first second h
  refine ⟨fst_perform_congr h dryRun task, ?_⟩
  rw [(follows_perform dryRun task first).excluded_eq,
    (follows_perform dryRun task second).excluded_eq, h]

/-- What a list of tasks does to a project. -/
theorem follows_each (dryRun : Bool) (tasks : List Task) (project : AnalysisProject) :
    Follows project (Stage.each (Task.perform dryRun) tasks project).1.sites
      (Stage.each (Task.perform dryRun) tasks project).2 :=
  Stage.each_relation
    (P := fun before report after => AnalysisProject.Follows before report.sites after)
    (fun project => .of_not_isRetyped project (by simp [RetypeReport.empty]))
    (fun h h' => h.trans h') _ _
    (fun task _ project => follows_perform dryRun task project) project

end AnalysisProject

/-- A walk takes a project to the one that its report tells of. -/
theorem Traversal.follows_apply (traversal : Traversal) (function : DecompiledFunction)
    (dryRun : Bool) (project : AnalysisProject) :
    AnalysisProject.Follows project (traversal.apply function dryRun project).1.sites
      (traversal.apply function dryRun project).2 := by
  rw [apply_eq_each_perform]
  exact AnalysisProject.follows_each dryRun _ project

/-- A run takes a project to the one that its report tells of. -/
theorem RetypeBatch.follows_run (batch : RetypeBatch) (records : List UsageRecord)
    (project : AnalysisProject) :
    AnalysisProject.Follows project (batch.run records project).1.sites
      (batch.run records project).2 := by
  rw [run_eq_each_agenda]
  exact AnalysisProject.follows_each batch.config.dryRun _ project

/-- Report and project agree over a whole run: the types are those from before with the
retyped sites of the report recorded in order, functions that are left alone keep theirs,
and there are unsaved changes exactly when there were or a site was retyped. -/
theorem RetypeBatch.run_project_eq_replay (batch : RetypeBatch) (records : List UsageRecord)
    (project : AnalysisProject) :
    let report := (batch.run records project).1
    let after := (batch.run records project).2
    after.types = SiteReport.replay project.types report.sites ∧
      after.excluded = project.excluded ∧ after.version = project.version ∧
      after.binaryPath = project.binaryPath ∧
      (∀ function, project.isExcluded function = true →
        after.types[function]? = project.types[function]?) ∧
      (after.dirty = true ↔
        project.dirty = true ∨ ∃ site ∈ report.sites, site.isRetyped = true) := by
  intro report after
  have h : AnalysisProject.Follows project report.sites after := batch.follows_run records project
  refine ⟨h.types_eq, h.excluded_eq, h.version_eq, h.binaryPath_eq,
    fun function hexcluded => h.getElem?_of_excluded hexcluded, ?_⟩
  rw [h.dirty_eq, Bool.or_eq_true, List.any_eq_true]

/-- The located interface is recorded, unless its function is left alone. -/
theorem RetypeBatch.run_project_eq_replay_blockIo :
    let report := (BlockIo.batch.run [BlockIo.record] BlockIo.project).1
    let after := (BlockIo.batch.run [BlockIo.record] BlockIo.project).2
    let kept := (BlockIo.batch.run [BlockIo.record] (BlockIo.project.exclude 0x1000)).2
    report.retyped = [("block", .pointer (.named "EFI_BLOCK_IO_PROTOCOL"))] ∧
      after.types = SiteReport.replay ∅ report.sites ∧ after.dirty = true ∧
      kept.types[(0x1000 : UInt64)]? = none := by
  intro report after kept
  obtain ⟨htypes, -, -, -, -, hdirty⟩ :=
    run_project_eq_replay BlockIo.batch [BlockIo.record] BlockIo.project
  obtain ⟨-, -, -, -, hkept, -⟩ :=
    run_project_eq_replay BlockIo.batch [BlockIo.record] (BlockIo.project.exclude 0x1000)
  have hretyped : report.sites.any (·.isRetyped) = true := by rfl
  refine ⟨by rfl, htypes, hdirty.2 (.inr (List.any_eq_true.1 hretyped)), ?_⟩
  exact hkept 0x1000 (by rfl)

end UefiTyping
