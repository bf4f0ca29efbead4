import UefiTyping.AnalysisError
import UefiTyping.CType.Text

/-!
# Reports

A report lists what was decided at each matched call, the errors that skipped whole
records, and counters. Reports are put together by `++`: lists follow one another and
counters add up.
-/
namespace UefiTyping

/-! ## Sites -/

/-- What happened at a matched call. -/
inductive SiteOutcome
  /-- The store took the type. -/
  | retyped (name : String) (type : CType)
  /-- The type that a real run would have offered. -/
  | planned (name : String) (type : CType)
  /-- The site was left alone. -/
  | failed (error : AnalysisError)
deriving Repr

/-- The report of one matched call. -/
structure SiteReport where
  /-- Entry of the function. -/
  function : UInt64
  /-- Address of the call, or of the usage record if the call has none. -/
  site : UInt64
  service : String
  protocol : Option String
  outcome : SiteOutcome
deriving Repr

namespace SiteReport

/-- The text of what happened. -/
def outcomeText : SiteOutcome → String
  | .retyped name type => ": " ++ name ++ " -> " ++ type.declare none
  | .planned name type => ": " ++ name ++ " => " ++ type.declare none ++ " (dry run)"
  | .failed error => ": " ++ error.message

/-- The text of a site report. -/
def text (report : SiteReport) : String :=
  AnalysisError.addressText report.site ++ " " ++ report.service
    ++ report.protocol.elim "" (fun protocol => " (" ++ protocol ++ ")")
    ++ outcomeText report.outcome

end SiteReport

/-! ## Counters -/

/-- Counters of a run. -/
structure RetypeStats where
  /-- Usage records worked through. -/
  records : Nat
  /-- Records skipped because they have no decompiled function. -/
  skippedRecords : Nat
  /-- Function bodies walked, once for each table. -/
  traversals : Nat
  /-- Calls that match a service. -/
  matchedCalls : Nat
  /-- Matched calls with a wrong number of arguments. -/
  argCountMismatches : Nat
  retyped : Nat
  planned : Nat
  failures : Nat
deriving DecidableEq, Repr

namespace RetypeStats

/-- All counters at zero. -/
def zero : RetypeStats := ⟨0, 0, 0, 0, 0, 0, 0, 0⟩

/-- Counters add up one by one. -/
def add (a b : RetypeStats) : RetypeStats :=
  ⟨a.records + b.records, a.skippedRecords + b.skippedRecords, a.traversals + b.traversals,
   a.matchedCalls + b.matchedCalls, a.argCountMismatches + b.argCountMismatches,
   a.retyped + b.retyped, a.planned + b.planned, a.failures + b.failures⟩

instance : Add RetypeStats := ⟨add⟩

theorem add_def (a b : RetypeStats) : a + b = add a b := rfl

@[simp] theorem zero_add (a : RetypeStats) : zero + a = a := by simp [add_def, add, zero]

@[simp] theorem add_zero (a : RetypeStats) : a + zero = a := by simp [add_def, add, zero]

theorem add_assoc (a b c : RetypeStats) : a + b + c = a + (b + c) := by
  simp [add_def, add, Nat.add_assoc]

theorem add_comm (a b : RetypeStats) : a + b = b + a := by
  simp [add_def, add, Nat.add_comm]

/-- The counters of one site. -/
def ofOutcome : SiteOutcome → RetypeStats
  | .retyped .. => { zero with retyped := 1 }
  | .planned .. => { zero with planned := 1 }
  | .failed _ => { zero with failures := 1 }

end RetypeStats

/-! ## Reports -/

/-- Everything that a run decided. -/
structure RetypeReport where
  sites : List SiteReport
  /-- Errors that skipped a whole usage record. -/
  recordErrors : List AnalysisError
  stats : RetypeStats
deriving Repr

namespace RetypeReport

/-- The report of nothing. -/
def empty : RetypeReport := ⟨[], [], .zero⟩

/-- Two reports, one after the other. -/
def append (a b : RetypeReport) : RetypeReport :=
  ⟨a.sites ++ b.sites, a.recordErrors ++ b.recordErrors, a.stats + b.stats⟩

instance : Append RetypeReport := ⟨append⟩

theorem append_def (a b : RetypeReport) : a ++ b = append a b := rfl

@[simp] theorem empty_append (a : RetypeReport) : empty ++ a = a := by
  simp [append_def, append, empty]

@[simp] theorem append_empty (a : RetypeReport) : a ++ empty = a := by
  simp [append_def, append, empty]

theorem append_assoc (a b c : RetypeReport) : a ++ b ++ c = a ++ (b ++ c) := by
  simp [append_def, append, RetypeStats.add_assoc]

/-- The report of counters alone. -/
def ofStats (stats : RetypeStats) : RetypeReport := ⟨[], [], stats⟩

/-- The report of one site. -/
def ofSite (site : SiteReport) : RetypeReport := ⟨[site], [], .ofOutcome site.outcome⟩

/-- The report of a record that was skipped. -/
def ofSkipped (error : AnalysisError) : RetypeReport :=
  ⟨[], [error], { RetypeStats.zero with skippedRecords := 1 }⟩

/-- The failed sites with their errors. -/
def failures (report : RetypeReport) : List (SiteReport × AnalysisError) :=
  report.sites.filterMap fun site =>
    match site.outcome with
    | .failed error => some (site, error)
    | _ => none

/-- The retyped variables with their new types. -/
def retyped (report : RetypeReport) : List (String × CType) :=
  report.sites.filterMap fun site =>
    match site.outcome with
    | .retyped name type => some (name, type)
    | _ => none

end RetypeReport
end UefiTyping
