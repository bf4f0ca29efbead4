import Mathlib.Algebra.Ring.Int.Defs
import Mathlib.Data.List.Nodup
import UefiTyping.Function.Basic

/-!
# Names of stack slots

A stack slot goes by a name made of the sign and the size of its offset, and a variable finds its
local by name first. Different offsets make different names: the two prefixes tell the signs
apart, and the numeral behind them tells the sizes. So among locals that are stack slots the
variable at an offset finds the first local at that offset. It does not find one at another
offset, and where there is none its storage does not lead to one either.
-/
namespace UefiTyping

/-! ## Generated names -/

/-- A word read without sign. -/
theorem toNat_toUInt64 (word : Int64) : (word.toUInt64.toNat : Int) = word.toInt % 2 ^ 64 := by
  have hvalue : word.toInt = if 2 * word.toUInt64.toNat < 2 ^ 64 then (word.toUInt64.toNat : Int)
      else word.toUInt64.toNat - (2 ^ 64 : Nat) := BitVec.toInt_eq_toNat_cond word.toBitVec
  have hlt := word.toUInt64.toNat_lt
  split at hvalue <;> omega

namespace Storage

theorem stackName_injective : Function.Injective stackName := by
  intro offset other h
  rw [stackName, stackName] at h
  split at h <;> split at h
  case isTrue.isTrue hnegative hnegative' =>
    have hsize := Hex.numeral_inj.1 ((String.append_right_inj _).1 h)
    omega
  case isFalse.isFalse hnonneg hnonneg' =>
    have hsize := Hex.numeral_inj.1 ((String.append_right_inj _).1 h)
    omega
  -- The prefixes differ in their first character.
  case isTrue.isFalse =>
    have hfirst := congrArg (fun name => name.toList.head?) h
    simp at hfirst
  case isFalse.isTrue =>
    have hfirst := congrArg (fun name => name.toList.head?) h
    simp at hfirst

/-- For an offset that is a word, the numeral is that of the negated word, or of the word itself,
read without sign. The least word is its own negation and has its size all the same. -/
theorem stackName_word (offset : Int64) :
    stackName offset.toInt =
      if offset < 0 then "var_" ++ Hex.numeral (-offset).toUInt64.toNat
      else "arg_" ++ Hex.numeral offset.toUInt64.toNat := by
  have hsize := toNat_toUInt64 offset
  have hnegated := toNat_toUInt64 (-offset)
  have hlow := offset.le_toInt
  have hhigh := offset.toInt_lt
  rw [Int64.toInt_neg, Int.bmod_def] at hnegated
  have hsign : offset < 0 ↔ offset.toInt < 0 := Int64.lt_iff_toInt_lt
  simp only [stackName, hsign]
  split
  case isTrue hnegative =>
    have hnat : (-offset.toInt).toNat = (-offset).toUInt64.toNat := by
      split at hnegated <;> omega
    rw [hnat]
  case isFalse hnonneg =>
    have hnat : offset.toInt.toNat = offset.toUInt64.toNat := by omega
    rw [hnat]

end Storage

/-! ## Lookup -/

/-- What a stack slot is declared with. -/
structure StackSlot where
  offset : Int
  type : CType
  size : Nat

/-- The local that is declared there. -/
def StackSlot.place (slot : StackSlot) : LocalVariable :=
  .stack slot.offset slot.type slot.size

namespace DecompiledFunction
variable {function : DecompiledFunction} {slots : List StackSlot}

theorem local?_stackName (hlocals : function.locals = slots.map StackSlot.place) (offset : Int) :
    function.local? (Storage.stackName offset) =
      (slots.find? (·.offset == offset)).map StackSlot.place := by
  have htest : ((·.name == Storage.stackName offset) ∘ StackSlot.place) = (·.offset == offset) := by
    funext slot
    exact Bool.eq_iff_iff.2 (by simpa [StackSlot.place, LocalVariable.stack] using
      Storage.stackName_injective.eq_iff)
  rw [local?, hlocals, List.find?_map, htest]

theorem find?_storage_stack (hlocals : function.locals = slots.map StackSlot.place) (offset : Int) :
    function.locals.find? (·.storage == .stack offset) =
      (slots.find? (·.offset == offset)).map StackSlot.place := by
  have htest : ((·.storage == .stack offset) ∘ StackSlot.place) = (·.offset == offset) := by
    funext slot
    simp [StackSlot.place, LocalVariable.stack]
  rw [hlocals, List.find?_map, htest]

/-- The variable at an offset finds the first slot at that offset. -/
theorem localFor?_stack_eq_find? (hlocals : function.locals = slots.map StackSlot.place)
    (offset : Int) (size : UInt8) :
    function.localFor? (.stack offset size) =
      (slots.find? (·.offset == offset)).map StackSlot.place := by
  rw [localFor?, Variable.stack, local?_stackName hlocals, find?_storage_stack hlocals]
  cases slots.find? (·.offset == offset) <;> rfl

/-- Stack slots at different offsets have different names, and the variable at an offset finds
the slot that is declared there, whatever the types and sizes, and nothing where none is. -/
theorem localFor?_stack (hlocals : function.locals = slots.map StackSlot.place)
    (hdistinct : (slots.map StackSlot.offset).Nodup) :
    Function.Injective Storage.stackName ∧
      (∀ slot ∈ slots, ∀ size,
        function.localFor? (.stack slot.offset size) = some slot.place) ∧
      ∀ offset, (∀ slot ∈ slots, slot.offset ≠ offset) →
        ∀ size, function.localFor? (.stack offset size) = none := by
  refine ⟨Storage.stackName_injective, fun slot hslot size => ?_, fun offset hnone size => ?_⟩
  · rw [localFor?_stack_eq_find? hlocals]
    cases hfound : slots.find? (·.offset == slot.offset) with
    | none => exact absurd (beq_self_eq_true _) (List.find?_eq_none.1 hfound slot hslot)
    | some found =>
      have htest := List.find?_some hfound
      have hoffset : found.offset = slot.offset := eq_of_beq htest
      have hsame : found = slot :=
        List.inj_on_of_nodup_map hdistinct (List.mem_of_find?_eq_some hfound) hslot hoffset
      rw [hsame, Option.map_some]
  · have hfound : slots.find? (·.offset == offset) = none :=
      List.find?_eq_none.2 fun slot hslot => by simpa using hnone slot hslot
    rw [localFor?_stack_eq_find? hlocals, hfound, Option.map_none]

/-- Slots at equal distances on both sides of the frame pointer, and at the ends of the range. -/
theorem localFor?_stack_both_sides :
    let slots : List StackSlot :=
      [⟨-24, .voidPointer, 8⟩, ⟨24, .sint, 4⟩, ⟨0, .char, 1⟩, ⟨-2 ^ 63 + 1, .double, 300⟩,
        ⟨2 ^ 63 - 1, .double, 8⟩]
    let function : DecompiledFunction := ⟨0x1000, "f", slots.map StackSlot.place, []⟩
    (slots.map StackSlot.offset).Nodup ∧
      Storage.stackName (-24) = "var_18" ∧ Storage.stackName 24 = "arg_18" ∧
      function.localFor? (.stack (-24) 8) = some (.stack (-24) .voidPointer 8) ∧
      function.localFor? (.stack 24 8) = some (.stack 24 .sint 4) ∧
      function.localFor? (.stack (-8) 8) = none := by
  intro slots function
  have hdistinct : (slots.map StackSlot.offset).Nodup := by decide
  have hlocals : function.locals = slots.map StackSlot.place := rfl
  obtain ⟨-, hfound, hnone⟩ := localFor?_stack hlocals hdistinct
  exact ⟨hdistinct, rfl, rfl, hfound ⟨-24, .voidPointer, 8⟩ (by simp [slots]) 8,
    hfound ⟨24, .sint, 4⟩ (by simp [slots]) 8, hnone (-8) (by simp [slots]) 8⟩

end DecompiledFunction
end UefiTyping
