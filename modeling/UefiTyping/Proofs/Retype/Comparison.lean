import UefiTyping.Proofs.Retype.Agenda

/-!
# Comparing two runs

Two runs are compared task by task. When tasks in the same places report sites that belong
together, so do the runs: their sites pair up one to one and in order, and everything else
that they report is the same, apart from how many sites had which outcome.
-/
namespace UefiTyping

/-- The counters that outcomes have no part in. -/
def RetypeStats.withoutOutcomes (stats : RetypeStats) : RetypeStats :=
  { stats with retyped := 0, planned := 0, failures := 0 }

theorem RetypeStats.withoutOutcomes_add (a b : RetypeStats) :
    (a + b).withoutOutcomes = a.withoutOutcomes + b.withoutOutcomes := rfl

theorem RetypeStats.withoutOutcomes_ofOutcome (outcome : SiteOutcome) :
    (ofOutcome outcome).withoutOutcomes = zero := by
  cases outcome <;> rfl

/-! ## Reports -/

/-- Two reports whose sites pair up in a relation, and that differ in outcomes only. -/
structure RetypeReport.Parallel (S : SiteReport → SiteReport → Prop) (a b : RetypeReport) :
    Prop where
  sites : List.Forall₂ S a.sites b.sites
  recordErrors_eq : a.recordErrors = b.recordErrors
  stats_eq : a.stats.withoutOutcomes = b.stats.withoutOutcomes

namespace RetypeReport.Parallel
variable {S : SiteReport → SiteReport → Prop}

/-- A report goes with itself when its sites do. -/
theorem of_sites {report : RetypeReport} (h : ∀ site ∈ report.sites, S site site) :
    Parallel S report report :=
  ⟨List.forall₂_same.2 h, rfl, rfl⟩

theorem append {a b c d : RetypeReport} (h : Parallel S a b) (h' : Parallel S c d) :
    Parallel S (a ++ c) (b ++ d) where
  sites := List.rel_append h.sites h'.sites
  recordErrors_eq := congrArg₂ (· ++ ·) h.recordErrors_eq h'.recordErrors_eq
  stats_eq := by
    show (a.stats + c.stats).withoutOutcomes = (b.stats + d.stats).withoutOutcomes
    rw [RetypeStats.withoutOutcomes_add, RetypeStats.withoutOutcomes_add, h.stats_eq, h'.stats_eq]

/-- The reports of two proposals go together when their sites do. -/
theorem report {function function' : DecompiledFunction} {proposal proposal' : Proposal}
    {outcome outcome' : SiteOutcome}
    (h : S ⟨function.address, proposal.site, proposal.service, proposal.protocol, outcome⟩
      ⟨function'.address, proposal'.site, proposal'.service, proposal'.protocol, outcome'⟩) :
    Parallel S (proposal.report function outcome) (proposal'.report function' outcome') where
  sites := .cons h .nil
  recordErrors_eq := rfl
  stats_eq := by
    show (_ + RetypeStats.ofOutcome outcome).withoutOutcomes =
      (_ + RetypeStats.ofOutcome outcome').withoutOutcomes
    rw [RetypeStats.withoutOutcomes_add, RetypeStats.withoutOutcomes_add,
      RetypeStats.withoutOutcomes_ofOutcome, RetypeStats.withoutOutcomes_ofOutcome]

end RetypeReport.Parallel

/-! ## Stages -/

/-- Two lists of work, with items that go together in the same places, lead to reports that
go together, when every two such items do on stores that are related. -/
theorem Stage.parallel_each {α β σ τ : Type} {S : SiteReport → SiteReport → Prop}
    {T : α → β → Prop} {R : σ → τ → Prop} {first : α → Stage σ} {second : β → Stage τ}
    (step : ∀ {a b}, T a b → ∀ {x y}, R x y →
      RetypeReport.Parallel S (first a x).1 (second b y).1 ∧ R (first a x).2 (second b y).2)
    {items : List α} {items' : List β} (hitems : List.Forall₂ T items items') {x : σ} {y : τ}
    (hxy : R x y) :
    RetypeReport.Parallel S (each first items x).1 (each second items' y).1 ∧
      R (each first items x).2 (each second items' y).2 :=
  each_related (T := T) (.of_sites (by simp [RetypeReport.empty])) RetypeReport.Parallel.append step
    hitems hxy

end UefiTyping
