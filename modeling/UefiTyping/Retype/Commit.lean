import UefiTyping.Retype.Finding
import UefiTyping.Retype.Stage
import UefiTyping.Retype.Store

/-!
# Committing findings

Findings are committed one by one: the offer at each site is made to the store, unless
the run only plans, and the site is reported. A site where nothing can be offered is
reported and the next one follows.
-/
namespace UefiTyping

variable {σ : Type} [VariableStore σ]

/-- Makes the offer of a site to the store, unless the run only plans. -/
def Proposal.commit (proposal : Proposal) (function : DecompiledFunction) (dryRun : Bool)
    (store : σ) : SiteOutcome × σ :=
  match proposal.offer with
  | .error error => (.failed error, store)
  | .ok (name, type) =>
    if dryRun then (.planned name type, store)
    else
      match VariableStore.assignNamed store function name type with
      | (.ok (), store) => (.retyped name type, store)
      | (.error error, store) => (.failed error, store)

/-- Commits what was found at a matched call. -/
def Finding.commit (function : DecompiledFunction) (dryRun : Bool) : Finding → Stage σ
  | .unreadable _ =>
    Stage.report (.ofStats { RetypeStats.zero with matchedCalls := 1, argCountMismatches := 1 })
  | .proposed proposal => fun store =>
    let (outcome, store) := proposal.commit function dryRun store
    let site : SiteReport :=
      ⟨function.address, proposal.site, proposal.service, proposal.protocol, outcome⟩
    (.ofStats { RetypeStats.zero with matchedCalls := 1 } ++ .ofSite site, store)

/-- Walks a function for one table and commits what is found. -/
def Traversal.apply (traversal : Traversal) (function : DecompiledFunction) (dryRun : Bool) :
    Stage σ :=
  (Stage.report (.ofStats { RetypeStats.zero with traversals := 1 })).andThen
    (Stage.each (Finding.commit function dryRun) (traversal.findings function))

end UefiTyping
