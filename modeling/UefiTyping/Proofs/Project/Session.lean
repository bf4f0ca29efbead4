import UefiTyping.Project.Json
import UefiTyping.Proofs.Project.Run

/-!
# Working on a project

A project is opened, new or from a file, and then worked on, one operation after another.
Several operations change something only under a condition, and each of them that does says
so. So a project without unsaved changes is the one that was last opened or saved.
-/
namespace UefiTyping.AnalysisProject

/-! ## Opening -/

/-- A project as it is opened: new for a binary, or loaded from a file. -/
inductive Opened : AnalysisProject → Prop
  | new (binaryPath : String) : Opened (.empty binaryPath)
  | loaded {contents : Option String} {project : AnalysisProject} :
      load contents = .ok project → Opened project

theorem dirty_of_ofJson {levels : Nat} {document : Json} {project : AnalysisProject}
    (h : ofJson levels document = some project) : project.dirty = false := by
  cases levels with
  | zero => cases h
  | succ levels =>
    obtain ⟨slots, -, hbuild⟩ := Option.bind_eq_some_iff.1 h
    dsimp only at hbuild
    split at hbuild
    · simp only [Option.bind_eq_bind, Option.bind_eq_some_iff] at hbuild
      obtain ⟨version, -, path, -, types, -, excluded, -, hproject⟩ := hbuild
      rw [← Option.some.inj hproject]
    · cases hbuild

theorem checkVersion_eq_ok {project checked : AnalysisProject}
    (h : project.checkVersion = .ok checked) : checked = project := by
  rw [checkVersion] at h
  split at h
  · cases h
  · split at h
    · cases h
    · exact (Except.ok.inj h).symm

/-- There is nothing unsaved in a project that was just opened. -/
theorem Opened.dirty_eq {project : AnalysisProject} (h : project.Opened) :
    project.dirty = false := by
  cases h with
  | new binaryPath => rfl
  | @loaded contents _ hload =>
    cases contents with
    | none => cases hload
    | some text =>
      cases hdecoded : ofJson.ofText? text with
      | none => simp [load, hdecoded] at hload
      | some decoded =>
        simp only [load, hdecoded] at hload
        obtain rfl := checkVersion_eq_ok hload
        obtain ⟨document, -, hdocument⟩ := Option.bind_eq_some_iff.1 hdecoded
        exact dirty_of_ofJson hdocument

/-! ## Operations -/

/-- What can be done to an open project. -/
inductive Operation
  /-- Records the type of a variable. -/
  | setType (function : UInt64) (name : String) (type : CType)
  /-- Forgets the types of a function. -/
  | clear (function : UInt64)
  /-- Leaves a function alone from now on. -/
  | exclude (function : UInt64)
  /-- Offers a type for a local, which the project may refuse. -/
  | offer (function : UInt64) (place : LocalVariable) (type : CType)
  /-- Works through usage records. -/
  | run (batch : RetypeBatch) (records : List UsageRecord)
  /-- Tries to save, given whether the file can be written. -/
  | save (written : Bool)

namespace Operation

/-- The project after an operation. -/
def perform : Operation → AnalysisProject → AnalysisProject
  | .setType function name type, project => project.setType function name type
  | .clear function, project => project.clear function
  | .exclude function, project => project.exclude function
  | .offer function place type, project =>
    (VariableStore.setType project function place type).2
  | .run batch records, project => (batch.run records project).2
  | .save written, project => (project.save written).2

/-- Whether an operation saves the project. -/
def saves : Operation → Bool
  | .save written => written
  | _ => false

end Operation

/-- The project after some operations, in order. -/
def perform (project : AnalysisProject) (operations : List Operation) : AnalysisProject :=
  operations.foldl (fun project operation => operation.perform project) project

/-! ## Operations that leave no unsaved changes -/

/-- Sites that leave no unsaved changes behind left the whole project as it was. -/
theorem Follows.eq_of_clean {before after : AnalysisProject} {sites : List SiteReport}
    (h : Follows before sites after) (hclean : after.dirty = false) : after = before := by
  rw [h.dirty_eq, Bool.or_eq_false_iff, List.any_eq_false] at hclean
  obtain ⟨hbefore, hsites⟩ := hclean
  have hsame : Follows before sites before :=
    .of_not_isRetyped before fun site hsite => Bool.eq_false_iff.2 (hsites site hsite)
  refine AnalysisProject.ext h.version_eq h.binaryPath_eq ?_ h.excluded_eq ?_
  · rw [h.types_eq, ← hsame.types_eq]
  · rw [h.dirty_eq, ← hsame.dirty_eq]

/-- An operation that leaves no unsaved changes saves the project, or does nothing to it. -/
theorem Operation.perform_of_clean {operation : Operation} {project : AnalysisProject}
    (hclean : (operation.perform project).dirty = false) :
    operation.saves = true ∨ operation.perform project = project := by
  cases operation with
  | setType function name type => cases hclean
  | clear function =>
    right
    simp only [perform, AnalysisProject.clear] at hclean ⊢
    split at hclean
    · cases hclean
    · rename_i hnone
      rw [if_neg hnone]
  | exclude function =>
    right
    simp only [perform, AnalysisProject.exclude] at hclean ⊢
    split at hclean
    · rename_i hexcluded
      rw [if_pos hexcluded]
    · cases hclean
  | offer function place type =>
    right
    simp only [perform, setType_eq] at hclean ⊢
    split at hclean
    · cases hclean
    · rename_i hrefused
      rw [if_neg hrefused]
  | run batch records => exact .inr ((batch.follows_run records project).eq_of_clean hclean)
  | save written =>
    cases written with
    | true => exact .inl rfl
    | false => exact .inr rfl

theorem Operation.dirty_of_saves {operation : Operation} (h : operation.saves = true)
    (project : AnalysisProject) : (operation.perform project).dirty = false := by
  cases operation with
  | save written =>
    obtain rfl : written = true := h
    rfl
  | setType | clear | exclude | offer | run => cases h

/-! ## Sessions -/

/-- A project that is worked on, beside what it was right after it was last opened or saved. -/
structure Session where
  project : AnalysisProject
  kept : AnalysisProject

namespace Session

/-- A session begins when a project is opened. -/
def opened (project : AnalysisProject) : Session := ⟨project, project⟩

/-- The session after an operation. -/
def step (session : Session) (operation : Operation) : Session :=
  let project := operation.perform session.project
  ⟨project, if operation.saves then project else session.kept⟩

/-- The session after some operations, in order. -/
def run (session : Session) (operations : List Operation) : Session :=
  operations.foldl step session

theorem project_run (session : Session) (operations : List Operation) :
    (session.run operations).project = session.project.perform operations := by
  induction operations generalizing session with
  | nil => rfl
  | cons operation operations ih => exact ih (session.step operation)

/-- The kept project has no unsaved changes, and a project that has none is the kept one. -/
structure Sound (session : Session) : Prop where
  clean_kept : session.kept.dirty = false
  eq_kept : session.project.dirty = false → session.project = session.kept

theorem Sound.opened {project : AnalysisProject} (h : project.Opened) : (opened project).Sound :=
  ⟨h.dirty_eq, fun _ => rfl⟩

theorem Sound.step {session : Session} (h : session.Sound) (operation : Operation) :
    (session.step operation).Sound := by
  by_cases hsaves : operation.saves = true
  · have hkept : (session.step operation).kept = operation.perform session.project := if_pos hsaves
    refine ⟨?_, fun _ => hkept.symm⟩
    rw [hkept]
    exact Operation.dirty_of_saves hsaves session.project
  · have hkept : (session.step operation).kept = session.kept := if_neg hsaves
    refine ⟨?_, fun hclean => ?_⟩
    · rw [hkept]
      exact h.clean_kept
    · -- The operation did nothing, so the project was without unsaved changes before it.
      have hsame : operation.perform session.project = session.project :=
        (Operation.perform_of_clean hclean).resolve_left hsaves
      have hbefore : session.project.dirty = false := by
        rw [← hsame]
        exact hclean
      rw [hkept, ← h.eq_kept hbefore]
      exact hsame

theorem Sound.run {session : Session} (h : session.Sound) (operations : List Operation) :
    (session.run operations).Sound := by
  induction operations generalizing session with
  | nil => exact h
  | cons operation operations ih => exact ih (h.step operation)

/-- A project without unsaved changes has nothing unsaved: after any operations on it, it is in
all parts, types and exclusions included, the project that was last opened, new or from a file,
or last saved with success; and that one has no unsaved changes. -/
theorem eq_kept_of_clean {project : AnalysisProject} (hopened : project.Opened)
    (operations : List Operation) :
    let session := (opened project).run operations
    session.kept.dirty = false ∧
      (session.project.dirty = false → session.project = session.kept) := by
  intro session
  have hsound : session.Sound := (Sound.opened hopened).run operations
  exact ⟨hsound.clean_kept, hsound.eq_kept⟩

/-- Behind the save no operation changes anything: the offer is refused, the site is planned
only, the function is left alone already and has no types, and the last save fails. -/
theorem eq_kept_of_clean_blockIo :
    let planned : RetypeBatch :=
      { BlockIo.batch with config := BlockIo.batch.config.withDryRun true }
    let session := (opened BlockIo.project).run
      [.run BlockIo.batch [BlockIo.record], .exclude 0x2000, .save true,
        .offer 0x2000 BlockIo.place (.pointer .void), .run planned [BlockIo.record],
        .exclude 0x2000, .clear 0x2000, .save false]
    session.project.typeOf? 0x1000 "block" = some (.pointer (.named "EFI_BLOCK_IO_PROTOCOL")) ∧
      session.project = session.kept := by
  intro planned session
  have hclean : session.project.dirty = false := by rfl
  exact ⟨by rfl, (eq_kept_of_clean (.new "driver.efi") _).2 hclean⟩

end Session
end UefiTyping.AnalysisProject
