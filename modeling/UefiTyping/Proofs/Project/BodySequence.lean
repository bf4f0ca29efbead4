import UefiTyping.Proofs.Project.RecordOrder
import UefiTyping.Proofs.Retype.Tally

/-!
# Bodies in sequence

A walk goes through a body from front to back and decides at each call by the call, the head
of the function and the context alone. So a body that is one followed by another is walked
one after the other, on any store. A project answers an offer by the function and the local
alone, never by what it was offered before; there each call comes to what it would come to
by itself, and no call has a part in the outcome at another.
-/
namespace UefiTyping

/-- The function with another body. -/
def DecompiledFunction.withBody (function : DecompiledFunction) (body : List Node) :
    DecompiledFunction :=
  { function with body := body }

/-- Calls of bodies in sequence follow one another. -/
theorem DecompiledFunction.calls_withBody_append (function : DecompiledFunction)
    (first second : List Node) :
    (function.withBody (first ++ second)).calls =
      (function.withBody first).calls ++ (function.withBody second).calls := by
  simp only [calls, walk, withBody, Node.walkEach_append, List.filter_append]

namespace Traversal
variable {traversal : Traversal} {function : DecompiledFunction}

/-! ## Call by call -/

/-- What is found at an expression, by the head of the function alone. -/
def findingAt? (traversal : Traversal) (function : DecompiledFunction) (e : Expr) :
    Option Finding :=
  (MatchedCall.ofCall? traversal.context.types function traversal.table traversal.recordAddress
    e).map (traversal.examine function)

/-- The body has a part in what is found only through the calls in it. -/
theorem findings_withBody (body : List Node) :
    traversal.findings (function.withBody body) =
      (function.withBody body).calls.filterMap (traversal.findingAt? function) :=
  List.map_filterMap

theorem findings_withBody_append (first second : List Node) :
    traversal.findings (function.withBody (first ++ second)) =
      traversal.findings (function.withBody first) ++
        traversal.findings (function.withBody second) := by
  rw [findings_withBody, findings_withBody, findings_withBody,
    DecompiledFunction.calls_withBody_append, List.filterMap_append]

/-- What a walk of the function reports on a project for an expression in it: a site for a
matched call whose arguments can be told, and nothing for anything else. -/
def sitesAt (traversal : Traversal) (function : DecompiledFunction) (dryRun : Bool)
    (project : AnalysisProject) (e : Expr) : List SiteReport :=
  match traversal.findingAt? function e with
  | none => []
  | some finding => (finding.commit function dryRun project).1.sites

/-- On a project the sites of a walk are those of its calls, each as it is by itself. -/
theorem sites_apply (traversal : Traversal) (function : DecompiledFunction) (dryRun : Bool)
    (body : List Node) (project : AnalysisProject) :
    (traversal.apply (function.withBody body) dryRun project).1.sites =
      (function.withBody body).calls.flatMap (traversal.sitesAt function dryRun project) := by
  have hreport : (Stage.each (Finding.commit (function.withBody body) dryRun)
      (traversal.findings (function.withBody body)) project).1 =
        .concat ((traversal.findings (function.withBody body)).map fun finding =>
          (finding.commit function dryRun project).1) := by
    refine Stage.report_each_eq_concat
      (I := fun other : AnalysisProject => other.excluded = project.excluded) _ ?_ rfl
    intro finding _ other hother
    let task : Task := .settle function finding
    refine ⟨AnalysisProject.fst_perform_congr hother dryRun task, ?_⟩
    exact (AnalysisProject.follows_perform dryRun task other).excluded_eq.trans hother
  have hsites : (traversal.apply (function.withBody body) dryRun project).1.sites =
      (Stage.each (Finding.commit (function.withBody body) dryRun)
        (traversal.findings (function.withBody body)) project).1.sites := rfl
  rw [hsites, hreport, RetypeReport.sites_concat, findings_withBody, List.flatMap_map,
    List.filterMap_eq_flatMap_toList, List.flatMap_assoc]
  congr 1
  funext e
  rw [sitesAt]
  cases traversal.findingAt? function e with
  | none => rfl
  | some finding => simp

/-- A call with an offer for a local is reported by what the project answers. -/
theorem sitesAt_of_offer {e : Expr} {proposal : Proposal} {place : LocalVariable} {type : CType}
    (hfinding : traversal.findingAt? function e = some (.proposed proposal))
    (hoffer : proposal.offer = .ok (place.name, type))
    (hlocal : function.local? place.name = some place) (dryRun : Bool) (project : AnalysisProject) :
    traversal.sitesAt function dryRun project e =
      [⟨function.address, proposal.site, proposal.service, proposal.protocol,
        if dryRun then .planned place.name type
        else if project.accepts function.address place type then .retyped place.name type
        else .failed (.retype function.address place.name)⟩] := by
  rw [← AnalysisProject.fst_commit_eq project hoffer hlocal dryRun]
  simp only [sitesAt, hfinding]
  rfl

/-- The sites of a walk of the function as it is. -/
theorem sites_apply_eq_flatMap (traversal : Traversal) (function : DecompiledFunction)
    (dryRun : Bool) (project : AnalysisProject) :
    (traversal.apply function dryRun project).1.sites =
      function.calls.flatMap (traversal.sitesAt function dryRun project) :=
  sites_apply traversal function dryRun function.body project

/-- What is reported for a call of the body is reported by the walk. -/
theorem mem_sites_apply {dryRun : Bool} {project : AnalysisProject} {e : Expr} {site : SiteReport}
    (he : e ∈ function.calls) (hsite : site ∈ traversal.sitesAt function dryRun project e) :
    site ∈ (traversal.apply function dryRun project).1.sites := by
  rw [sites_apply_eq_flatMap]
  exact List.mem_flatMap.2 ⟨e, he, hsite⟩

/-! ## Statement by statement -/

/-- Two walks are reported like one, but for the number of walks. -/
theorem report_walks_append {a b : RetypeReport} (ha : a.stats.traversals = 0)
    (hb : b.stats.traversals = 0) :
    let walk : RetypeReport := .ofStats { RetypeStats.zero with traversals := 1 }
    let both := (walk ++ a) ++ (walk ++ b)
    walk ++ (a ++ b) = { both with stats := { both.stats with traversals := 1 } } := by
  intro walk both
  have hstats : walk.stats + (a.stats + b.stats) = { both.stats with traversals := 1 } := by
    show walk.stats + (a.stats + b.stats) =
      { (walk.stats + a.stats) + (walk.stats + b.stats) with traversals := 1 }
    simp only [walk, RetypeReport.ofStats, RetypeStats.add_def, RetypeStats.add, RetypeStats.zero,
      ha, hb, Nat.zero_add]
  exact congrArg (RetypeReport.mk (a.sites ++ b.sites) (a.recordErrors ++ b.recordErrors)) hstats

/-- Sites are settled in order and on their own. A walk of two bodies in sequence leaves any
store as a walk of the second leaves it after one of the first, and it reports what these two
report, but counts one walk. On a project the second body is reported as if the first had not
been walked, and each call, wherever it stands, as if it were the only one; so no call that
fails or does not match changes the outcome at another. -/
theorem apply_in_sequence (traversal : Traversal) (function : DecompiledFunction) (dryRun : Bool)
    (first second : List Node) :
    let walk {σ : Type} [VariableStore σ] (body : List Node) : Stage σ :=
      traversal.apply (function.withBody body) dryRun
    (∀ {σ : Type} [VariableStore σ] (store : σ),
      let before := walk first store
      let after := walk second before.2
      (walk (first ++ second) store).2 = after.2 ∧
        (walk (first ++ second) store).1 =
          { before.1 ++ after.1 with
            stats := { (before.1 ++ after.1).stats with traversals := 1 } }) ∧
      ∀ project : AnalysisProject,
        (walk (first ++ second) project).1.sites =
            (walk first project).1.sites ++ (walk second project).1.sites ∧
          (walk (first ++ second) project).1.sites =
            (function.withBody (first ++ second)).calls.flatMap
              (traversal.sitesAt function dryRun project) := by
  intro walk
  refine ⟨fun {σ} _ store => ?_, fun project => ⟨?_, ?_⟩⟩
  · let first' := Stage.each (Finding.commit function dryRun)
      (traversal.findings (function.withBody first)) store
    let second' := Stage.each (Finding.commit function dryRun)
      (traversal.findings (function.withBody second)) first'.2
    have hfirst : first'.1.stats.traversals = 0 :=
      (Finding.tallies_each_commit function dryRun _ store).traversals_eq
    have hsecond : second'.1.stats.traversals = 0 :=
      (Finding.tallies_each_commit function dryRun _ first'.2).traversals_eq
    have hwhole : walk (first ++ second) store =
        (.ofStats { RetypeStats.zero with traversals := 1 } ++ (first'.1 ++ second'.1),
          second'.2) := by
      show traversal.apply _ _ _ = _
      rw [apply, findings_withBody_append, Stage.each_append]
      rfl
    rw [hwhole]
    exact ⟨rfl, report_walks_append hfirst hsecond⟩
  · show (traversal.apply _ _ _).1.sites = (traversal.apply _ _ _).1.sites ++
      (traversal.apply _ _ _).1.sites
    rw [sites_apply, sites_apply, sites_apply, DecompiledFunction.calls_withBody_append,
      List.flatMap_append]
  · exact sites_apply traversal function dryRun (first ++ second) project

/-- A call whose GUID is no constant fails, and the call behind it is retyped all the same. -/
example :
    let failing : Expr := .callThrough (.field (.var (.register 3 "bs" 8)) "LocateProtocol" 0x140)
      [.int 5, .int 0, .int 0] (some 0x1008)
    let traversal := BlockIo.batch.traversal [BlockIo.record] BlockIo.record .bootServices
    let body : List Node := [.statement failing, .statement BlockIo.call]
    ((traversal.apply (BlockIo.function.withBody body) false BlockIo.project).1.sites.map
        (·.outcome)) =
      [.failed (.unresolvedGuid 0x1008 "5"),
        .retyped "block" (.pointer (.named "EFI_BLOCK_IO_PROTOCOL"))] :=
  rfl

end Traversal
end UefiTyping
