import Mathlib.Data.Int.ModEq
import UefiTyping.Expr.Operator

/-!
# The operators as arithmetic

What the operators compute is stated once more, on integers: a word stands for an integer,
the operator is applied to the integers, and the result wraps to a word. Nothing of how
the words are stored shows in it, except in the three operators on bits.

A word and the integer that wrapped to it agree modulo every power of two up to the width
of a word. Addresses have half of that width, so sums and differences of words can be
followed as sums and differences of addresses.
-/
namespace UefiTyping

namespace Word

/-! ## Wrapping -/

/-- The word that an integer wraps to. -/
def wrap (n : Int) : Word := BitVec.ofInt 128 n

@[simp] theorem wrap_toInt (word : Word) : wrap word.toInt = word := BitVec.ofInt_toInt

theorem wrap_add (m n : Int) : wrap (m + n) = wrap m + wrap n := BitVec.ofInt_add m n

theorem wrap_mul (m n : Int) : wrap (m * n) = wrap m * wrap n := BitVec.ofInt_mul m n

theorem wrap_neg (n : Int) : wrap (-n) = -wrap n := BitVec.ofInt_neg

theorem wrap_sub (m n : Int) : wrap (m - n) = wrap m - wrap n := by
  rw [Int.sub_eq_add_neg, wrap_add, wrap_neg, BitVec.sub_eq_add_neg]

theorem wrap_tdiv (left right : Word) : wrap (left.toInt.tdiv right.toInt) = left.sdiv right := by
  apply BitVec.eq_of_toInt_eq
  rw [BitVec.toInt_sdiv, wrap, BitVec.toInt_ofInt]

theorem wrap_tmod (left right : Word) : wrap (left.toInt.tmod right.toInt) = left.srem right := by
  rw [← BitVec.toInt_srem, wrap_toInt]

theorem wrap_mul_two_pow (word : Word) (count : Nat) :
    wrap (word.toInt * 2 ^ count) = word <<< count := by
  have hpow : wrap (2 ^ count) = BitVec.twoPow 128 count := by
    apply BitVec.eq_of_toNat_eq
    rw [wrap, BitVec.toNat_twoPow, show (2 : Int) ^ count = ((2 ^ count : Nat) : Int) by simp,
      BitVec.ofInt_natCast, BitVec.toNat_ofNat]
  rw [wrap_mul, wrap_toInt, hpow, BitVec.shiftLeft_eq_mul_twoPow]

theorem wrap_div_two_pow (word : Word) (count : Nat) :
    wrap (word.toInt / 2 ^ count) = word.sshiftRight count := by
  have hshift : word.toInt / 2 ^ count = (word.sshiftRight count).toInt := by
    rw [BitVec.toInt_sshiftRight, Int.shiftRight_eq_div_pow]
    simp
  rw [hshift, wrap_toInt]

/-! ## Congruence -/

/-- A word agrees modulo `2 ^ 64` with the integer that wrapped to it. -/
theorem toInt_wrap_modEq (n : Int) : (wrap n).toInt ≡ n [ZMOD 2 ^ 64] := by
  have h : (wrap n).toInt ≡ n [ZMOD 2 ^ 128] := by
    rw [wrap, BitVec.toInt_ofInt, Int.ModEq]
    exact Int.bmod_emod
  exact h.of_dvd (pow_dvd_pow 2 (by decide))

/-! ## Tests -/

theorem beq_eq_decide_toInt (left right : Word) :
    (left == right) = decide (left.toInt = right.toInt) := by
  simp only [BitVec.toInt_inj, beq_eq_decide]

theorem beq_zero_eq_decide (word : Word) : (word == 0) = decide (word.toInt = 0) :=
  beq_eq_decide_toInt word 0

theorem bne_zero_eq_decide (word : Word) : (word != 0) = decide (word.toInt ≠ 0) := by
  rw [bne, beq_zero_eq_decide, decide_not]

/-- A quotient is left undefined exactly where integers have none, or the quotient is no
word. -/
theorem canDivide_iff (left right : Word) : canDivide left right = true ↔
    ¬ (right.toInt = 0 ∨ left.toInt = -2 ^ 127 ∧ right.toInt = -1) := by
  have hzero : right.toInt = 0 ↔ right = 0 := by
    rw [← BitVec.toInt_inj]
    rfl
  have hone : right.toInt = -1 ↔ right = -1 := by
    rw [← BitVec.toInt_inj]
    rfl
  have hmin : left.toInt = -2 ^ 127 ↔ left = BitVec.intMin 128 := by
    rw [← BitVec.toInt_inj]
    rfl
  rw [hzero, hone, hmin, canDivide]
  simp only [Bool.and_eq_true, bne_iff_ne, Bool.not_eq_true', Bool.and_eq_false_iff,
    beq_eq_false_iff_ne, not_or, not_and_or, ne_eq]

theorem shiftCount?_eq (count : Word) : shiftCount? count =
    if 0 ≤ count.toInt ∧ count.toInt ≤ 127 then some count.toInt.toNat else none := by
  by_cases h : 0 ≤ count.toInt ∧ count.toInt ≤ 127
  · have hnat : count.toNat = count.toInt.toNat := by
      have htoInt := BitVec.toInt_eq_toNat_cond count
      split at htoInt <;> omega
    rw [shiftCount?, if_pos h, if_pos ⟨h.1, by omega⟩, hnat]
  · rw [shiftCount?, if_neg h, if_neg (by omega)]

end Word

/-! ## Operators -/

/-- What a binary operator gives, as arithmetic on integers. Division and remainder round
toward zero. They are undefined at zero and where the quotient is no word; shifts are
undefined at counts outside the word. -/
def BinaryOp.value? (op : BinaryOp) (left right : Word) : Option Word :=
  let a := left.toInt
  let b := right.toInt
  match op with
  | .add => some (.wrap (a + b))
  | .sub => some (.wrap (a - b))
  | .mul => some (.wrap (a * b))
  | .div => if b = 0 ∨ a = -2 ^ 127 ∧ b = -1 then none else some (.wrap (a.tdiv b))
  | .rem => if b = 0 ∨ a = -2 ^ 127 ∧ b = -1 then none else some (.wrap (a.tmod b))
  | .and => some (left &&& right)
  | .or => some (left ||| right)
  | .xor => some (left ^^^ right)
  | .shl => if 0 ≤ b ∧ b ≤ 127 then some (.wrap (a * 2 ^ b.toNat)) else none
  | .shr => if 0 ≤ b ∧ b ≤ 127 then some (.wrap (a / 2 ^ b.toNat)) else none
  | .eq => some (.ofBool (a = b))
  | .ne => some (.ofBool (a ≠ b))
  | .lt => some (.ofBool (a < b))
  | .le => some (.ofBool (a ≤ b))
  | .gt => some (.ofBool (b < a))
  | .ge => some (.ofBool (b ≤ a))
  | .logicalAnd => some (.ofBool (a ≠ 0 ∧ b ≠ 0))
  | .logicalOr => some (.ofBool (a ≠ 0 ∨ b ≠ 0))

/-- What a unary operator gives, as arithmetic on integers. -/
def UnaryOp.value (op : UnaryOp) (operand : Word) : Word :=
  match op with
  | .neg => .wrap (-operand.toInt)
  | .complement => .wrap (-operand.toInt - 1)
  | .logicalNot => .ofBool (operand.toInt = 0)

/-- Folding two literals computes what the operator means. -/
theorem BinaryOp.apply_eq_value? (op : BinaryOp) (left right : Word) :
    op.apply left right = op.value? left right := by
  cases op
  case add => simp only [apply, value?, Word.wrap_add, Word.wrap_toInt]
  case sub => simp only [apply, value?, Word.wrap_sub, Word.wrap_toInt]
  case mul => simp only [apply, value?, Word.wrap_mul, Word.wrap_toInt]
  case div => simp only [apply, value?, Word.canDivide_iff, ite_not, Word.wrap_tdiv]
  case rem => simp only [apply, value?, Word.canDivide_iff, ite_not, Word.wrap_tmod]
  case and | or | xor => rfl
  case shl | shr =>
    simp only [apply, value?, Word.shiftCount?_eq, Word.wrap_mul_two_pow, Word.wrap_div_two_pow]
    split <;> rfl
  case eq => simp only [apply, value?, Word.beq_eq_decide_toInt]
  case ne => simp only [apply, value?, bne, Word.beq_eq_decide_toInt, ne_eq, decide_not]
  case lt | gt => simp only [apply, value?, BitVec.slt_eq_decide]
  case le | ge => simp only [apply, value?, BitVec.sle_eq_decide]
  case logicalAnd => simp only [apply, value?, Word.bne_zero_eq_decide, Bool.decide_and]
  case logicalOr => simp only [apply, value?, Word.bne_zero_eq_decide, Bool.decide_or]

theorem UnaryOp.apply_eq_value (op : UnaryOp) (operand : Word) :
    op.apply operand = op.value operand := by
  cases op
  case neg => simp only [apply, value, Word.wrap_neg, Word.wrap_toInt]
  case complement =>
    rw [apply, value, Word.wrap_sub, Word.wrap_neg, Word.wrap_toInt, BitVec.not_eq_neg_add]
    rfl
  case logicalNot => simp only [apply, value, Word.beq_zero_eq_decide]

end UefiTyping
