import UefiTyping.Proofs.ListSearch
import UefiTyping.Retype.Batch

/-!
# Ranges of functions

The function around an address is looked for at the nearest entry that is not behind it, and
nowhere else. The answer always covers the address. But a function that has ended by the address
hides every function around it that starts before, so that an address in an outer range is not
found once an inner function has ended; a record there is skipped. Where no function starts inside
the range of another, nothing is hidden and a function is found exactly if it covers the address.
-/
namespace UefiTyping

open Std (ExtTreeMap)

namespace Program
variable {program : Program} {address entry : UInt64} {function : ProgramFunction}

/-! ## The nearest function -/

/-- The range of the function at the entry contains the address. -/
def Covers (program : Program) (entry address : UInt64) : Prop :=
  ∃ function, program.functions[entry]? = some function ∧ entry ≤ address ∧
    address < function.limit

/-- No function starts behind the entry and not behind the address. -/
def IsNearest (program : Program) (entry address : UInt64) : Prop :=
  ∀ other ∈ program.functions, other ≤ address → other ≤ entry

theorem nearest?_eq_some_iff :
    program.nearest? address = some (entry, function) ↔
      program.functions[entry]? = some function ∧ entry ≤ address ∧
        program.IsNearest entry address := by
  have hsorted : (program.functions.toList.filter (·.1 ≤ address)).Pairwise
      fun a b => a.1 < b.1 := by
    refine List.Pairwise.filter _ (ExtTreeMap.ordered_keys_toList.imp fun h => ?_)
    exact Std.compare_eq_lt.1 h
  rw [nearest?, getLast?_eq_some_iff_of_sorted hsorted]
  simp only [List.mem_filter, decide_eq_true_eq, ExtTreeMap.mem_toList_iff_getElem?_eq_some,
    Prod.forall, and_imp, and_assoc, IsNearest, ExtTreeMap.mem_iff_isSome_getElem?,
    Option.isSome_iff_exists]
  refine and_congr_right fun _ => and_congr_right fun _ => ?_
  constructor
  · rintro h other ⟨found, hfound⟩
    exact h other found hfound
  · intro h other found hfound
    exact h other ⟨found, hfound⟩

/-- A function is found around an address if it covers it and is the nearest. -/
theorem functionAt?_eq_some_iff :
    program.functionAt? address = some entry ↔
      program.Covers entry address ∧ program.IsNearest entry address := by
  rw [functionAt?]
  constructor
  · intro h
    split at h
    · next found function hnearest =>
      obtain ⟨hlimit, rfl⟩ : address < function.limit ∧ found = entry := by simpa using h
      obtain ⟨hfunction, hle, hgreatest⟩ := nearest?_eq_some_iff.1 hnearest
      exact ⟨⟨function, hfunction, hle, hlimit⟩, hgreatest⟩
    · cases h
  · rintro ⟨⟨function, hfunction, hle, hlimit⟩, hgreatest⟩
    rw [nearest?_eq_some_iff.2 ⟨hfunction, hle, hgreatest⟩]
    simp [hlimit]

/-- Where some function starts, one of those is the nearest. -/
theorem exists_isNearest (hmem : entry ∈ program.functions) (hle : entry ≤ address) :
    ∃ nearest function, program.functions[nearest]? = some function ∧ nearest ≤ address ∧
      program.IsNearest nearest address := by
  obtain ⟨function, hfunction⟩ := Option.isSome_iff_exists.1
    (ExtTreeMap.mem_iff_isSome_getElem?.1 hmem)
  have hne : program.functions.toList.filter (·.1 ≤ address) ≠ [] :=
    List.ne_nil_of_mem (List.mem_filter.2
      ⟨ExtTreeMap.mem_toList_iff_getElem?_eq_some.2 hfunction, decide_eq_true hle⟩)
  obtain ⟨⟨nearest, found⟩, hnearest⟩ := Option.isSome_iff_exists.1 (List.getLast?_isSome.2 hne)
  exact ⟨nearest, found, nearest?_eq_some_iff.1 hnearest⟩

/-! ## Hidden addresses -/

/-- A function that has ended by the address starts behind all that cover it. -/
def Hides (program : Program) (address : UInt64) : Prop :=
  ∃ ended function, program.functions[ended]? = some function ∧ ended ≤ address ∧
    function.limit ≤ address ∧ ∀ entry, program.Covers entry address → entry < ended

theorem Covers.mem (h : program.Covers entry address) : entry ∈ program.functions := by
  obtain ⟨function, hfunction, -⟩ := h
  exact ExtTreeMap.mem_iff_isSome_getElem?.2 (by rw [hfunction]; rfl)

theorem Covers.le (h : program.Covers entry address) : entry ≤ address := by
  obtain ⟨function, -, hle, -⟩ := h
  exact hle

/-- A function is found around an address if some function covers it and it is not hidden. -/
theorem exists_functionAt?_iff :
    (∃ entry, program.functionAt? address = some entry) ↔
      (∃ entry, program.Covers entry address) ∧ ¬ program.Hides address := by
  simp only [functionAt?_eq_some_iff]
  constructor
  · rintro ⟨entry, hcovers, hnearest⟩
    refine ⟨⟨entry, hcovers⟩, ?_⟩
    rintro ⟨ended, function, hended, hle, -, hbehind⟩
    have hmem : ended ∈ program.functions :=
      ExtTreeMap.mem_iff_isSome_getElem?.2 (by rw [hended]; rfl)
    exact UInt64.not_le.2 (hbehind entry hcovers) (hnearest ended hmem hle)
  · rintro ⟨⟨entry, hcovers⟩, hnot⟩
    obtain ⟨nearest, function, hfunction, hle, hnearest⟩ :=
      exists_isNearest hcovers.mem hcovers.le
    refine ⟨nearest, ⟨function, hfunction, hle, ?_⟩, hnearest⟩
    refine UInt64.not_le.1 fun hended => hnot ⟨nearest, function, hfunction, hle, hended, ?_⟩
    -- What covers the address has not ended, so it is not the nearest itself.
    intro other hother
    refine UInt64.lt_of_le_of_ne (hnearest other hother.mem hother.le) ?_
    rintro rfl
    obtain ⟨found, hfound, -, hlimit⟩ := hother
    obtain rfl := Option.some.inj (hfound.symm.trans hfunction)
    exact UInt64.not_le.2 hlimit hended

/-- No function starts inside the range of another. -/
def IsFlat (program : Program) : Prop :=
  ∀ entry, ∀ inner ∈ program.functions, program.Covers entry inner → inner = entry

/-- Where no function starts inside another, what covers an address is the nearest. -/
theorem Covers.isNearest (h : program.Covers entry address) (hflat : program.IsFlat) :
    program.IsNearest entry address := by
  intro other hmem hle
  obtain ⟨function, hfunction, -, hlimit⟩ := h
  refine UInt64.not_lt.1 fun hlt => ?_
  have hinside : program.Covers entry other :=
    ⟨function, hfunction, UInt64.le_of_lt hlt, UInt64.lt_of_le_of_lt hle hlimit⟩
  rw [hflat entry other hmem hinside] at hlt
  exact UInt64.lt_irrefl _ hlt

/-- The function found around an address covers it and is the nearest one that starts there or
before. So one is found exactly if some function covers the address and the address is not
hidden. Where no function starts inside another, a function is found exactly if it covers the
address. -/
theorem functionAt?_unless_hidden (program : Program) (address : UInt64) :
    (∀ entry, program.functionAt? address = some entry ↔
        program.Covers entry address ∧ program.IsNearest entry address) ∧
      ((∃ entry, program.functionAt? address = some entry) ↔
        (∃ entry, program.Covers entry address) ∧ ¬ program.Hides address) ∧
      (program.IsFlat → ∀ entry,
        program.functionAt? address = some entry ↔ program.Covers entry address) := by
  refine ⟨fun entry => functionAt?_eq_some_iff, exists_functionAt?_iff, fun hflat entry => ?_⟩
  rw [functionAt?_eq_some_iff]
  exact and_iff_left_of_imp fun hcovers => hcovers.isNearest hflat

/-- A function around another that failed to decompile: behind the end of the inner one the
outer is not found. -/
theorem functionAt?_behind_inner_function :
    let program := (empty.addFunction ⟨0x1000, "outer", [], []⟩ 0x2000).addFailed 0x1100 0x1200
      "bad stack frame"
    program.Covers 0x1000 0x1800 ∧ program.Hides 0x1800 ∧
      program.functionAt? 0x10ff = some 0x1000 ∧ program.functionAt? 0x1800 = none := by
  intro program
  have hcovers : program.Covers 0x1000 0x1800 :=
    ⟨⟨0x2000, .ok ⟨0x1000, "outer", [], []⟩⟩, by rfl, by decide, by decide⟩
  have hnone : program.functionAt? 0x1800 = none := by rfl
  refine ⟨hcovers, Classical.not_not.1 fun hnot => ?_, by rfl, hnone⟩
  obtain ⟨entry, hfound⟩ := exists_functionAt?_iff.2 ⟨⟨0x1000, hcovers⟩, hnot⟩
  cases hnone.symm.trans hfound

end Program

/-- A record in a range that is hidden is skipped, as if no function covered it. -/
theorem RetypeBatch.functionOf_of_hides {program : Program} {batch : RetypeBatch}
    {record : UsageRecord} (hsource : batch.source = program.source)
    (hentry : record.functionAddress = none) (hhidden : program.Hides record.codeAddress) :
    batch.functionOf record = .error (.functionNotFound record.codeAddress) := by
  have hnone : program.functionAt? record.codeAddress = none := by
    refine Option.eq_none_iff_forall_ne_some.2 fun entry hfound => ?_
    exact (Program.exists_functionAt?_iff.1 ⟨entry, hfound⟩).2 hhidden
  have hsearch : batch.source.functionAt? record.codeAddress = none := by
    rw [hsource]
    exact hnone
  rw [functionOf, hentry, hsearch]
  rfl

end UefiTyping
