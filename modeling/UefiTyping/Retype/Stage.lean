import UefiTyping.Retype.Report

/-!
# Stages

A stage works on a store and reports what it did. Stages follow one another: the store
goes from each to the next and the reports are put together in order, so that a list of
stages cut anywhere is the one part after the other.
-/
namespace UefiTyping

variable {α β σ : Type}

/-- Work on a store that comes with a report. -/
abbrev Stage (σ : Type) := σ → RetypeReport × σ

namespace Stage

/-- The stage that only reports. -/
def report (report : RetypeReport) : Stage σ := fun store => (report, store)

/-- One stage after another, with both reports. -/
def andThen (first second : Stage σ) : Stage σ := fun store =>
  let (a, store) := first store
  let (b, store) := second store
  (a ++ b, store)

/-- A stage for each item, in order. -/
def each (stage : α → Stage σ) : List α → Stage σ
  | [] => report .empty
  | item :: items => (stage item).andThen (each stage items)

@[simp] theorem each_nil (stage : α → Stage σ) : each stage [] = report .empty := rfl

@[simp] theorem each_cons (stage : α → Stage σ) (item : α) (items : List α) :
    each stage (item :: items) = (stage item).andThen (each stage items) := rfl

@[simp] theorem report_empty_andThen (stage : Stage σ) : (report .empty).andThen stage = stage := by
  funext store; simp [andThen, report]

@[simp] theorem andThen_report_empty (stage : Stage σ) : stage.andThen (report .empty) = stage := by
  funext store; simp [andThen, report]

theorem andThen_assoc (a b c : Stage σ) : (a.andThen b).andThen c = a.andThen (b.andThen c) := by
  funext store; simp [andThen, RetypeReport.append_assoc]

theorem each_append (stage : α → Stage σ) (xs ys : List α) :
    each stage (xs ++ ys) = (each stage xs).andThen (each stage ys) := by
  induction xs with
  | nil => simp
  | cons x xs ih => simp [ih, andThen_assoc]

theorem each_map (stage : β → Stage σ) (f : α → β) (items : List α) :
    each stage (items.map f) = each (fun item => stage (f item)) items := by
  induction items with
  | nil => rfl
  | cons item items ih => simp [ih]

theorem each_flatMap (stage : β → Stage σ) (f : α → List β) (items : List α) :
    each stage (items.flatMap f) = each (fun item => each stage (f item)) items := by
  induction items with
  | nil => rfl
  | cons item items ih => simp [each_append, ih]

end Stage

end UefiTyping
