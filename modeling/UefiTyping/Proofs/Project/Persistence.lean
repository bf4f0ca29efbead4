import UefiTyping.Proofs.Project.Session
import UefiTyping.Proofs.Retype.Width

/-!
# Saved projects

A project that was worked on from new is loaded as it was saved. All that a document could
lose is numbers too wide to be read and levels nested too deep: the types that are worked
with fit in words, and then so do those recorded, after any operations; and the nesting is
up to the document. The order in which a document lists the functions does not matter.
-/
namespace UefiTyping

open Json (Decoder)
open Std (ExtTreeMap ExtTreeSet)

/-- A set is made again from its elements. -/
theorem ofList_toList {κ : Type} [Ord κ] [Std.TransOrd κ] [Std.LawfulEqOrd κ] [BEq κ]
    [Std.LawfulBEqOrd κ] (set : ExtTreeSet κ) : ExtTreeSet.ofList set.toList = set := by
  refine ExtTreeSet.ext_contains fun key => ?_
  rw [ExtTreeSet.contains_ofList, ExtTreeSet.contains_toList]

namespace AnalysisProject

/-! ## Documents -/

/-- The document of the types of some functions, in the given order. -/
def functionsToJson (functions : List (UInt64 × VariableTypes)) : Json :=
  .ofFields (functions.map fun entry => (toString entry.1.toNat, variablesToJson entry.2))

/-- The document of a project that lists the functions with their types in the given order. -/
def toJsonIn (project : AnalysisProject) (functions : List (UInt64 × VariableTypes)) : Json :=
  .ofFields
    [("version", .ofNat project.version),
     ("binary_path", .ofText project.binaryPath),
     ("variable_types", functionsToJson functions),
     ("excluded_functions",
       .array (project.excluded.toList.map fun function => .ofNat function.toNat))]

/-- Saving lists the functions in the order of their entries. -/
theorem toJson_eq_toJsonIn (project : AnalysisProject) :
    project.toJson = project.toJsonIn project.types.toList := rfl

/-- The order of the functions makes no difference to the nesting. -/
theorem depth_toJsonIn_of_perm (project : AnalysisProject)
    {functions functions' : List (UInt64 × VariableTypes)} (h : functions.Perm functions') :
    (project.toJsonIn functions).depth = (project.toJsonIn functions').depth := by
  have hdepth : (functionsToJson functions).depth = (functionsToJson functions').depth := by
    simp only [functionsToJson, Json.ofFields, Json.depth,
      Json.depthOfMembers_of_perm ((h.map _).map _)]
  simp only [toJsonIn, Json.ofFields, List.map_cons, List.map_nil, Json.depth, Json.depthOfMembers,
    hdepth]

/-! ### Parts of a document -/

theorem functionKey_escape (function : UInt64) :
    functionKey (Json.escape (toString function.toNat).toList) = some function := by
  have hnumeral := Json.isNumeral_toDigits function.toNat
  have hnatural : Decoder.natural UInt64.size 0 (.ofNat function.toNat) = some function.toNat :=
    (Decoder.recovers_natural function.toNat_lt).decode_eq (Nat.le_refl _)
  rw [Nat.toString_eq_ofList_toDigits, String.toList_ofList, Json.escape_toDigits, functionKey,
    Decoder.naturalKey, if_pos hnumeral]
  show (Decoder.natural UInt64.size 0 (.ofNat function.toNat)).map UInt64.ofNat = _
  rw [hnatural, Option.map_some, UInt64.ofNat_toNat]

theorem recovers_variables {types : VariableTypes}
    (h : ∀ {name : String} {type : CType}, types[name]? = some type → type.FitsWords) :
    decodeVariables.Recovers (variablesToJson types) types :=
  Decoder.recovers_map id CType.toJson (List.Perm.refl _) Json.textKey_escape
    fun htype => (h htype).recovers

theorem recovers_types {types : ExtTreeMap UInt64 VariableTypes}
    {functions : List (UInt64 × VariableTypes)} (horder : functions.Perm types.toList)
    (h : ∀ {function : UInt64} {known : VariableTypes}, types[function]? = some known →
      ∀ {name : String} {type : CType}, known[name]? = some type → type.FitsWords) :
    decodeTypes.Recovers (functionsToJson functions) types :=
  Decoder.recovers_map (fun function : UInt64 => toString function.toNat) variablesToJson horder
    functionKey_escape fun hfound => recovers_variables (h hfound)

theorem recovers_excluded (excluded : ExtTreeSet UInt64) :
    decodeExcluded.Recovers
      (.array (excluded.toList.map fun function => .ofNat function.toNat)) excluded := by
  have hnumbers : (Decoder.list (Decoder.natural UInt64.size)).Recovers
      (.array ((excluded.toList.map UInt64.toNat).map .ofNat))
      (excluded.toList.map UInt64.toNat) := by
    refine Decoder.recovers_list fun number hnumber => Decoder.recovers_natural ?_
    obtain ⟨function, -, rfl⟩ := List.mem_map.1 hnumber
    exact function.toNat_lt
  have hsame : (excluded.toList.map UInt64.toNat).map UInt64.ofNat = excluded.toList := by
    simp [Function.comp_def]
  have hexcluded := hnumbers.map fun functions =>
    (ExtTreeSet.ofList (functions.map UInt64.ofNat) : ExtTreeSet UInt64)
  rw [hsame, ofList_toList, List.map_map] at hexcluded
  exact hexcluded

/-! ### Whole documents -/

/-- The recorded types fit in words. -/
def FitsWords (project : AnalysisProject) : Prop :=
  ∀ function name type, project.typeOf? function name = some type → type.FitsWords

/-- A project of the current version whose types fit is recovered, without unsaved changes. -/
theorem FitsWords.recovers {project : AnalysisProject} (h : project.FitsWords)
    (hversion : project.version = formatVersion) {functions : List (UInt64 × VariableTypes)}
    (horder : functions.Perm project.types.toList) :
    ofJson.Recovers (project.toJsonIn functions) { project with dirty := false } := by
  have hfunctions : ∀ {function : UInt64} {known : VariableTypes},
      project.types[function]? = some known → ∀ {name : String} {type : CType},
        known[name]? = some type → type.FitsWords := by
    intro function known hfound name type htype
    have hknown : project.typeOf? function name = some type := by
      rw [typeOf?, functionTypes?, hfound]
      exact htype
    exact h function name type hknown
  have hnumber : project.version < UInt32.size := by
    rw [hversion]
    decide
  have hversion' := Decoder.recovers_natural hnumber
  have hpath := Decoder.recovers_text project.binaryPath
  have htypes := recovers_types horder hfunctions
  have hexcluded := recovers_excluded project.excluded
  refine Decoder.recovers_record rfl (by simp) ?_ fun {levels} hlevels => ?_
  · simp [hversion'.wellSpelled, hpath.wellSpelled, htypes.wellSpelled, hexcluded.wellSpelled]
  · simp only [List.forall_mem_cons] at hlevels
    obtain ⟨hversion'', hpath', htypes', hexcluded', -⟩ := hlevels
    simp [Decoder.orDefault, hversion'.decode_eq hversion'', hpath.decode_eq hpath',
      htypes.decode_eq htypes', hexcluded.decode_eq hexcluded']

/-! ## Operations -/

theorem typeOf?_setType (project : AnalysisProject) (function function' : UInt64)
    (name name' : String) (type : CType) :
    (project.setType function name type).typeOf? function' name' =
      if function = function' ∧ name = name' then some type
      else project.typeOf? function' name' := by
  by_cases hfunction : function = function'
  · subst hfunction
    have hknown : (project.types.getD function ∅)[name']? = project.typeOf? function name' := by
      rw [typeOf?, functionTypes?, ExtTreeMap.getD_eq_getD_getElem?]
      cases project.types[function]? with
      | none => rfl
      | some types => rfl
    have hset : (project.setType function name type).typeOf? function name' =
        ((project.types.getD function ∅).insert name type)[name']? := by
      simp [typeOf?, functionTypes?, setType]
    simp only [hset, ExtTreeMap.getElem?_insert, Std.compare_eq_iff_eq, hknown, true_and]
  · simp [typeOf?, functionTypes?, setType, ExtTreeMap.getElem?_insert, hfunction]

namespace FitsWords
variable {project : AnalysisProject}

theorem empty (binaryPath : String) : (AnalysisProject.empty binaryPath).FitsWords := by
  intro function name type hknown
  simp [AnalysisProject.empty, typeOf?, functionTypes?] at hknown

theorem setType (h : project.FitsWords) (function : UInt64) (name : String) {type : CType}
    (htype : type.FitsWords) : (project.setType function name type).FitsWords := by
  intro function' name' type' hknown
  rw [typeOf?_setType] at hknown
  split at hknown
  · obtain rfl := Option.some.inj hknown
    exact htype
  · exact h function' name' type' hknown

theorem clear (h : project.FitsWords) (function : UInt64) :
    (project.clear function).FitsWords := by
  rw [AnalysisProject.clear]
  split
  · intro function' name type hknown
    obtain ⟨types, htypes, htype⟩ := Option.bind_eq_some_iff.1 hknown
    simp only [functionTypes?, ExtTreeMap.getElem?_erase, Option.ite_none_left_eq_some] at htypes
    have hbefore : project.typeOf? function' name = some type :=
      Option.bind_eq_some_iff.2 ⟨types, htypes.2, htype⟩
    exact h function' name type hbefore
  · exact h

theorem offer (h : project.FitsWords) (function : UInt64) (place : LocalVariable) {type : CType}
    (htype : type.FitsWords) :
    (VariableStore.setType project function place type).2.FitsWords := by
  rw [setType_eq]
  split
  · exact h.setType function place.name htype
  · exact h

theorem run (h : project.FitsWords) {batch : RetypeBatch} (hbatch : batch.FitsWords)
    (records : List UsageRecord) : (batch.run records project).2.FitsWords := by
  rw [RetypeBatch.run_eq_each_agenda]
  refine Stage.each_invariant (I := FitsWords) _ _ ?_ h
  intro task htask project hproject
  rcases task.perform_cases batch.config.dryRun with
    ⟨report, -, hperform⟩ | ⟨function, proposal, place, type, -, hoffers, hperform⟩
  · rw [hperform project]
    exact hproject
  · rw [hperform project]
    exact hproject.offer function.address place (hbatch.of_offers htask hoffers)

end FitsWords

/-- The types that an operation works with fit in words. -/
def Operation.FitsWords : Operation → Prop
  | .setType _ _ type => type.FitsWords
  | .offer _ _ type => type.FitsWords
  | .run batch _ => batch.FitsWords
  | .clear _ | .exclude _ | .save _ => True

/-- A project of the current version, with types that fit in words. -/
structure Readable (project : AnalysisProject) : Prop where
  version_eq : project.version = formatVersion
  fitsWords : project.FitsWords

namespace Readable
variable {project : AnalysisProject}

theorem empty (binaryPath : String) : (AnalysisProject.empty binaryPath).Readable :=
  ⟨rfl, .empty binaryPath⟩

/-- Every operation with types that fit leads from one such project to another. -/
theorem step (h : project.Readable) {operation : Operation} (hfits : operation.FitsWords) :
    (operation.perform project).Readable := by
  cases operation with
  | setType function name type => exact ⟨h.version_eq, h.fitsWords.setType function name hfits⟩
  | clear function =>
    refine ⟨?_, h.fitsWords.clear function⟩
    simp only [Operation.perform, AnalysisProject.clear]
    split
    · exact h.version_eq
    · exact h.version_eq
  | exclude function =>
    simp only [Operation.perform, AnalysisProject.exclude]
    split
    · exact h
    · exact ⟨h.version_eq, h.fitsWords⟩
  | offer function place type =>
    refine ⟨?_, h.fitsWords.offer function place hfits⟩
    simp only [Operation.perform, setType_eq]
    split
    · exact h.version_eq
    · exact h.version_eq
  | run batch records =>
    exact ⟨(batch.follows_run records project).version_eq.trans h.version_eq,
      h.fitsWords.run hfits records⟩
  | save written =>
    cases written with
    | true => exact ⟨h.version_eq, h.fitsWords⟩
    | false => exact h

theorem perform (h : project.Readable) {operations : List Operation}
    (hfits : ∀ operation ∈ operations, operation.FitsWords) :
    (project.perform operations).Readable := by
  induction operations generalizing project with
  | nil => exact h
  | cons operation operations ih =>
    exact ih (h.step (hfits operation (by simp))) fun later hlater => hfits later (by simp [hlater])

end Readable

/-! ## Loading what was saved -/

theorem Readable.load_eq {project : AnalysisProject} (h : project.Readable)
    {functions : List (UInt64 × VariableTypes)} (horder : functions.Perm project.types.toList)
    (hdepth : (project.toJsonIn functions).depth ≤ Json.maxDepth) :
    load (some (project.toJsonIn functions).indented) = .ok { project with dirty := false } := by
  have hdecoded : ofJson.ofText? (project.toJsonIn functions).indented =
      some { project with dirty := false } :=
    (h.fitsWords.recovers h.version_eq horder).ofText?_indented hdepth
  have hchecked : checkVersion { project with dirty := false } =
      .ok { project with dirty := false } := by
    rw [checkVersion]
    simp only [h.version_eq]
    rfl
  simp only [load, hdecoded, hchecked]

/-- Saved projects are kept: after any operations on a new project, with types that fit in
words, the text that saving writes is loaded as the same project without unsaved changes, as
long as its document nests no deeper than can be read. So is the text with the functions in
any other order. -/
theorem load_saved (binaryPath : String) {operations : List Operation}
    (hfits : ∀ operation ∈ operations, operation.FitsWords)
    (hdepth : ((empty binaryPath).perform operations).toJson.depth ≤ Json.maxDepth) :
    let project := (empty binaryPath).perform operations
    load (some project.toText) = .ok { project with dirty := false } ∧
      ∀ functions : List (UInt64 × VariableTypes), functions.Perm project.types.toList →
        load (some (project.toJsonIn functions).indented) = .ok { project with dirty := false } := by
  intro project
  have hreadable : project.Readable := (Readable.empty binaryPath).perform hfits
  rw [toJson_eq_toJsonIn] at hdepth
  refine ⟨hreadable.load_eq (List.Perm.refl _) hdepth, fun functions horder => ?_⟩
  rw [project.depth_toJsonIn_of_perm horder.symm] at hdepth
  exact hreadable.load_eq horder hdepth

end AnalysisProject

namespace BlockIo

theorem fitsWords_batch : batch.FitsWords where
  types := (TypeDatabase.FitsWords.empty 8).addType _ (.struct (by simp [StructType.empty])
    (by simp [StructType.empty]) (by decide) (by decide))
  locals := by
    intro entry found hfound place hplace
    have hfunction : found = function := by
      simp only [batch, RetypeBatch.ofRegistry, program, Program.source, Program.decompile,
        Program.addFunction, Program.empty, ExtTreeMap.getElem?_insert] at hfound
      by_cases hentry : compare function.address entry = .eq
      · simp only [if_pos hentry] at hfound
        exact (Except.ok.inj hfound).symm
      · simp [hentry] at hfound
    subst hfunction
    obtain rfl := List.mem_singleton.1 hplace
    exact .pointer .void

end BlockIo

open AnalysisProject in
/-- A struct with an enumerator below zero, a typedef, an exclusion and a run: all of it is read
back. -/
theorem AnalysisProject.load_saved_blockIo :
    let header : CType := .struct ⟨some "HEADER",
      [⟨"next", .pointer (.named "HEADER"), 0⟩,
        ⟨"state", .enum ⟨none, [("LOST", -1), ("FOUND", 1)], 4⟩, 64⟩,
        ⟨"name", .array .ushort (some 32), 96⟩], 80, 8, false⟩
    let operations : List Operation :=
      [.setType 0x2000 "\"h\"" header, .setType 0x2000 "size" (.synonym "UINTN" .ulongLong),
        .exclude 0x3000, .run BlockIo.batch [BlockIo.record]]
    let project := (AnalysisProject.empty "driver.efi").perform operations
    project.dirty = true ∧ project.typeOf? 0x2000 "\"h\"" = some header ∧
      project.typeOf? 0x1000 "block" = some (.pointer (.named "EFI_BLOCK_IO_PROTOCOL")) ∧
      load (some project.toText) = .ok { project with dirty := false } := by
  intro header operations project
  have hstate : CType.FitsWords (.enum ⟨none, [("LOST", -1), ("FOUND", 1)], 4⟩) :=
    .enum (by decide) (by decide)
  have hname : CType.FitsWords (.array .ushort (some 32)) :=
    .array (.int false (by decide)) (by decide)
  have hheader : header.FitsWords := by
    refine .struct ?_ (by decide) (by decide) (by decide)
    simpa using ⟨.pointer (.named "HEADER"), hstate, hname⟩
  have hsynonym : CType.FitsWords (.synonym "UINTN" .ulongLong) :=
    .synonym "UINTN" (.int false (by decide))
  have hfits : ∀ operation ∈ operations, operation.FitsWords := by
    simpa [operations, Operation.FitsWords] using ⟨hheader, hsynonym, BlockIo.fitsWords_batch⟩
  have hdepth : project.toJson.depth ≤ Json.maxDepth := by decide
  exact ⟨by rfl, by rfl, by rfl, (load_saved "driver.efi" hfits hdepth).1⟩

end UefiTyping
