import Mathlib.Data.List.Induction
import UefiTyping.Proofs.Project.Run

/-!
# Running again

A run over a project that was already run over changes nothing more. What it reports rests
on the project only through the functions that are left alone, and no run changes those; so
the second run writes what the first one wrote, in the same order, and each variable is left
with the type that was written last.
-/
namespace UefiTyping

open Std (ExtTreeMap)

namespace SiteReport

/-- A site that comes again later need not be recorded the first time. -/
theorem record_replay_record (types : ExtTreeMap UInt64 VariableTypes) (site : SiteReport)
    (sites : List SiteReport) :
    record (replay (record types site) sites) site = record (replay types sites) site := by
  induction sites generalizing types with
  | nil => exact record_record types rfl
  | cons other sites ih =>
    by_cases hsame : site.recorded? = other.recorded?
    · -- The next site records the same variable over this one.
      have hrecord : record (record types site) other = record types other :=
        record_record types hsame
      show record (replay (record (record types site) other) sites) site = _
      rw [hrecord]
      rfl
    · have hcomm : record (record types site) other = record (record types other) site :=
        record_comm types fun key hsite hother => hsame (hsite.trans hother.symm)
      calc record (replay (record (record types site) other) sites) site
          = record (replay (record (record types other) site) sites) site := by rw [hcomm]
        _ = record (replay (record types other) sites) site := ih (record types other)

/-- Sites that were recorded may be recorded again in the same order. -/
theorem replay_replay (types : ExtTreeMap UInt64 VariableTypes) (sites : List SiteReport) :
    replay (replay types sites) sites = replay types sites := by
  -- From the end: the last site is recorded in any case, and so the first time need not be.
  induction sites using List.reverseRecOn with
  | nil => rfl
  | append_singleton sites site ih =>
    have hlast : ∀ types, replay types (sites ++ [site]) = record (replay types sites) site :=
      fun types => replay_append types sites [site]
    calc replay (replay types (sites ++ [site])) (sites ++ [site])
        = record (replay (record (replay types sites) site) sites) site := by rw [hlast, hlast]
      _ = record (replay (replay types sites) sites) site := record_replay_record _ site sites
      _ = replay types (sites ++ [site]) := by rw [ih, hlast]

end SiteReport

/-- What a project comes to after some sites it also comes to when they follow once more. -/
theorem AnalysisProject.Follows.eq_of_again {before middle after : AnalysisProject}
    {sites : List SiteReport} (h : Follows before sites middle) (h' : Follows middle sites after) :
    after = middle := by
  refine AnalysisProject.ext h'.version_eq h'.binaryPath_eq ?_ h'.excluded_eq ?_
  · rw [h'.types_eq, h.types_eq, SiteReport.replay_replay]
  · rw [h'.dirty_eq, h.dirty_eq, Bool.or_assoc, Bool.or_self]

/-- Running again over the project that a run left gives the same report and leaves the whole
project as it was: the types, the exclusions, and whether there are unsaved changes. -/
theorem RetypeBatch.run_idempotent (batch : RetypeBatch) (records : List UsageRecord)
    (project : AnalysisProject) :
    let first := batch.run records project
    let second := batch.run records first.2
    second.1 = first.1 ∧ second.2 = first.2 := by
  intro first second
  have hfirst : AnalysisProject.Follows project first.1.sites first.2 :=
    batch.follows_run records project
  have hsecond : AnalysisProject.Follows first.2 second.1.sites second.2 :=
    batch.follows_run records first.2
  have hreport : second.1 = first.1 := by
    show (batch.run records first.2).1 = (batch.run records project).1
    rw [run_eq_each_agenda]
    exact (AnalysisProject.each_perform_congr hfirst.excluded_eq _ _).1
  rw [hreport] at hsecond
  exact ⟨hreport, hfirst.eq_of_again hsecond⟩

end UefiTyping
