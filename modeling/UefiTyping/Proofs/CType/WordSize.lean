import UefiTyping.CType.Layout

/-!
# Sizes in words

Sizes are natural numbers here, and a machine has words of 64 bits for them. The size of an array
is the only one that is computed, as a product; the others are recorded with the type or given.
So the two measures agree on a type as long as no array in it is larger than a word can tell.
-/
namespace UefiTyping

namespace CType
variable {type : CType}

/-- The size of a type in words, where the product for an array wraps around. -/
def wordSize : CType → Option UInt64
  | .array element length => do return (← element.wordSize) * .ofNat (← length)
  | .synonym _ target => target.wordSize
  | type => type.size.map .ofNat

/-- The sizes of the type and of the elements of arrays in it fit in words, typedefs looked
through. -/
def SizesFit : CType → Prop
  | .array element length =>
    element.SizesFit ∧ ∀ size ∈ (array element length).size, size < UInt64.size
  | .synonym _ target => target.SizesFit
  | type => ∀ size ∈ type.size, size < UInt64.size

theorem map_toNat_ofNat {size? : Option Nat} (h : ∀ size ∈ size?, size < UInt64.size) :
    (size?.map UInt64.ofNat).map UInt64.toNat = size? := by
  cases size? with
  | none => rfl
  | some size => exact congrArg some (UInt64.toNat_ofNat_of_lt' (h size rfl))

/-- Where the sizes fit, the words are the sizes. -/
theorem map_toNat_wordSize (h : type.SizesFit) : type.wordSize.map UInt64.toNat = type.size := by
  fun_induction wordSize type with
  | case1 element length ih =>
    obtain ⟨helement, harray⟩ := h
    have hsize := ih helement
    rw [size] at harray ⊢
    rw [← hsize] at harray ⊢
    cases hword : element.wordSize with
    | none => rfl
    | some word =>
      cases length with
      | none => rfl
      | some length =>
        have hfits : word.toNat * length < UInt64.size := harray _ (by rw [hword]; rfl)
        refine congrArg some ?_
        rw [UInt64.toNat_mul, UInt64.toNat_ofNat', Nat.mul_mod_mod, Nat.mod_eq_of_lt hfits]
  | case2 name target ih => exact ih h
  | case3 type hnotArray hnotSynonym =>
    refine map_toNat_ofNat ?_
    cases type with
    | array element length => exact absurd rfl (hnotArray element length)
    | synonym name target => exact absurd rfl (hnotSynonym name target)
    | void | int | float | pointer | struct | union | enum | function | named => exact h

/-- In words an array of `2 ^ 63` integers of two bytes takes no room. -/
example : (CType.array .ushort (some (2 ^ 63))).wordSize = some 0 := by
  decide

/-- Where the sizes fit, a type takes as many bytes by one measure as by the other. -/
theorem toNat_wordSize_getD (h : type.SizesFit) :
    (type.wordSize.getD 0).toNat = type.size.getD 0 := by
  rw [← map_toNat_wordSize h]
  cases type.wordSize <;> rfl

end CType

end UefiTyping
