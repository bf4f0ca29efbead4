import Mathlib.Order.Bounds.Basic
import UefiTyping.CType.Layout

/-!
# Rounding up to an alignment

Rounding clears the bits of a mask after adding the mask. Whatever the alignment, that never
falls below the number. For an alignment that is a power of two it gives the least multiple of
the alignment from the number on, and the bit mask formula on words gives the same as long as
the sum fits in a word.

The alignment of a struct or union is the greatest of one and the alignments of its parts, so
it is a power of two when those are.
-/
namespace UefiTyping

/-! ## Rounding -/

/-- Clearing the bits of the mask takes away at most the mask, which was added before. -/
theorem le_alignUp (n alignment : Nat) : n ≤ alignUp n alignment := by
  have hcleared : (n + (alignment - 1)) &&& (alignment - 1) ≤ alignment - 1 := Nat.and_le_right
  rw [alignUp, clearBits]
  omega

/-- For a power of two, clearing the bits of the mask takes away the remainder. -/
theorem alignUp_eq_mul_div {alignment : Nat} (h : alignment.isPowerOfTwo) (n : Nat) :
    alignUp n alignment = alignment * ((n + (alignment - 1)) / alignment) := by
  have hsplit := Nat.div_add_mod (n + (alignment - 1)) alignment
  have hmask : (n + (alignment - 1)) &&& (alignment - 1) = (n + (alignment - 1)) % alignment := by
    obtain ⟨k, rfl⟩ := h
    exact Nat.and_two_pow_sub_one_eq_mod _ k
  rw [alignUp, clearBits, hmask]
  omega

theorem isLeast_alignUp {alignment : Nat} (h : alignment.isPowerOfTwo) (n : Nat) :
    IsLeast {m | n ≤ m ∧ alignment ∣ m} (alignUp n alignment) := by
  refine ⟨⟨le_alignUp n alignment, ?_⟩, ?_⟩
  · rw [alignUp_eq_mul_div h]
    exact Nat.dvd_mul_right _ _
  · rintro m ⟨hle, multiple, rfl⟩
    have hpos := Nat.pos_of_isPowerOfTwo h
    rw [alignUp_eq_mul_div h]
    refine Nat.mul_le_mul_left _ (Nat.le_of_lt_succ (Nat.div_lt_of_lt_mul ?_))
    rw [Nat.mul_succ]
    omega

/-- A multiple of a power of two stays as it is for any alignment up to that power, be it a power
of two or not. -/
theorem alignUp_of_dvd {n unit alignment : Nat} (hunit : unit.isPowerOfTwo) (hdvd : unit ∣ n)
    (hpos : 0 < alignment) (hle : alignment ≤ unit) : alignUp n alignment = n := by
  obtain ⟨k, rfl⟩ := hunit
  obtain ⟨multiple, rfl⟩ := hdvd
  have hmask : alignment - 1 < 2 ^ k := by omega
  -- The mask has bits below the power only, where the multiple has none.
  have hcleared : (2 ^ k * multiple + (alignment - 1)) &&& (alignment - 1) = alignment - 1 := by
    rw [Nat.two_pow_add_eq_or_of_lt hmask, Nat.and_or_distrib_right, Nat.and_self]
    refine Nat.eq_of_testBit_eq fun bit => ?_
    cases hbit : (alignment - 1).testBit bit <;> simp [hbit]
  rw [alignUp, clearBits, hcleared, Nat.add_sub_cancel]

/-- On words the bits are cleared by the complement of the mask. -/
theorem toNat_and_not (word mask : UInt64) :
    (word &&& ~~~mask).toNat = clearBits word.toNat mask.toNat := by
  let kept := word.toBitVec &&& ~~~mask.toBitVec
  let cleared := word.toBitVec &&& mask.toBitVec
  have hapart : kept &&& cleared = 0#64 := by grind
  have hsum : kept + cleared = word.toBitVec := by
    rw [BitVec.add_eq_or_of_and_eq_zero _ _ hapart, ← BitVec.and_or_distrib_left,
      BitVec.not_or_self, BitVec.and_allOnes]
  have hvalue : word.toNat = kept.toNat + cleared.toNat := by
    rw [← BitVec.toNat_add_of_and_eq_zero hapart, hsum]
    rfl
  have hcleared : cleared.toNat = word.toNat &&& mask.toNat := BitVec.toNat_and _ _
  rw [clearBits, ← hcleared]
  exact (Nat.sub_eq_of_eq_add hvalue).symm

/-- Rounding of words, as long as the sum fits in a word. -/
theorem toNat_alignUp_word {n alignment : UInt64} (hpos : 0 < alignment.toNat)
    (hfits : n.toNat + alignment.toNat < UInt64.size) :
    ((n + alignment - 1) &&& ~~~(alignment - 1)).toNat = alignUp n.toNat alignment.toNat := by
  have hone : (1 : UInt64) ≤ alignment := UInt64.le_iff_toNat_le.2 hpos
  have hsum : (n + alignment).toNat = n.toNat + alignment.toNat := by
    rw [UInt64.toNat_add, Nat.mod_eq_of_lt hfits]
  have hsumPos : (1 : UInt64) ≤ n + alignment := by
    rw [UInt64.le_iff_toNat_le, hsum]
    exact hpos.trans_le (Nat.le_add_left _ _)
  rw [toNat_and_not, UInt64.toNat_sub_of_le _ _ hsumPos, UInt64.toNat_sub_of_le _ _ hone, hsum,
    UInt64.toNat_one, Nat.add_sub_assoc hpos, alignUp]

/-- A struct places no field before its end. -/
theorem StructType.size_le_nextOffset {τ : Type} (layout : StructType τ) (alignment : Nat) :
    layout.size ≤ layout.nextOffset alignment := by
  rw [nextOffset]
  split
  · exact Nat.le_refl _
  · exact le_alignUp _ _

/-! ## Sizes and alignments of parts -/

namespace CType

/-- The bytes that a type takes as a part of a struct or union, none when it has no size. -/
def partSize (type : CType) : Nat := type.size.getD 0

/-- The alignment of a type as a part of a struct or union. One that is missing or zero counts
as one. -/
def partAlignment (type : CType) : Nat := max (type.alignment.getD 1) 1

end CType

variable {τ : Type} {alignment : τ → Nat} {parts : List (String × τ)} {greatest : Nat}

/-- What holds of the parts added so far, and each part keeps that is added, holds of all. -/
theorem foldl_parts {α β : Type} {motive : List α → β → Prop} {step : β → α → β} {parts : List α}
    (hstep : ∀ added state, ∀ part ∈ parts,
      motive added state → motive (added ++ [part]) (step state part))
    {added : List α} {state : β} (h : motive added state) :
    motive (added ++ parts) (parts.foldl step state) := by
  induction parts generalizing added state with
  | nil =>
    rw [List.append_nil]
    exact h
  | cons part parts ih =>
    rw [List.append_cons]
    exact ih (fun added state later hlater => hstep added state later (List.mem_cons_of_mem _ hlater))
      (hstep added state part List.mem_cons_self h)

/-- One, and the alignments of the named parts of a struct or union. -/
def partAlignments (alignment : τ → Nat) (parts : List (String × τ)) : Set Nat :=
  {a | a = 1 ∨ ∃ part ∈ parts, a = alignment part.2}

theorem partAlignments_nil : IsGreatest (partAlignments alignment []) 1 := by
  refine ⟨.inl rfl, ?_⟩
  rintro a (rfl | ⟨part, hpart, -⟩)
  · exact Nat.le_refl 1
  · cases hpart

/-- One more part widens the alignment to its own. -/
theorem isGreatest_partAlignments_append (h : IsGreatest (partAlignments alignment parts) greatest)
    (part : String × τ) :
    IsGreatest (partAlignments alignment (parts ++ [part])) (max greatest (alignment part.2)) := by
  have hinsert : partAlignments alignment (parts ++ [part]) =
      insert (alignment part.2) (partAlignments alignment parts) := by
    ext a
    simp only [partAlignments, Set.mem_ofPred_eq, Set.mem_insert_iff, List.mem_append,
      List.mem_singleton]
    grind
  rw [hinsert, max_comm]
  exact h.insert _

theorem isPowerOfTwo_of_isGreatest (h : IsGreatest (partAlignments alignment parts) greatest)
    (hpow : ∀ part ∈ parts, (alignment part.2).isPowerOfTwo) : greatest.isPowerOfTwo := by
  rcases h.1 with rfl | ⟨part, hpart, rfl⟩
  · exact ⟨0, rfl⟩
  · exact hpow part hpart

end UefiTyping
