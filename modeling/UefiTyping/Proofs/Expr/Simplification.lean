import UefiTyping.Expr.Simplify
import UefiTyping.Proofs.Expr.Arithmetic

/-!
# Soundness of the smart constructors

The smart constructors are sound for every relation between expressions and the words
they can come to, as long as literals and operators have their arithmetic in it, and a
variable or a load comes to one word only. Whatever else an expression can contain may
come to any words at all: no rule looks into it.
-/
namespace UefiTyping

/-! ## Laws of the operators -/

namespace BinaryOp

variable {op : BinaryOp}

theorem apply_right_zero (h : op ∈ [add, sub, or, xor, shl, shr]) (word : Word) :
    op.apply word 0 = some word := by
  cases op
  case add => exact congrArg some (BitVec.add_zero word)
  case sub => exact congrArg some (BitVec.sub_zero word)
  case or => exact congrArg some BitVec.or_zero
  case xor => exact congrArg some BitVec.xor_zero
  case shl => exact congrArg some (BitVec.shiftLeft_zero word)
  case shr => exact congrArg some BitVec.sshiftRight_zero
  all_goals exact absurd h (by decide)

theorem apply_left_zero (h : op ∈ [add, or, xor]) (word : Word) :
    op.apply 0 word = some word := by
  cases op
  case add => exact congrArg some (BitVec.zero_add word)
  case or => exact congrArg some BitVec.zero_or
  case xor => exact congrArg some BitVec.zero_xor
  all_goals exact absurd h (by decide)

theorem apply_right_one (h : op ∈ [mul, div]) (word : Word) : op.apply word 1 = some word := by
  cases op
  case mul => exact congrArg some (BitVec.mul_one word)
  case div =>
    have hdefined : Word.canDivide word 1 = true := by
      have hone : ((1 : Word) == -1) = false := by decide
      rw [Word.canDivide, hone, Bool.and_false]
      rfl
    rw [apply, if_pos hdefined]
    exact congrArg some BitVec.sdiv_one
  all_goals exact absurd h (by decide)

theorem apply_left_one (word : Word) : apply mul 1 word = some word :=
  congrArg some (BitVec.one_mul word)

theorem apply_absorb_right (h : op ∈ [mul, and]) (word : Word) : op.apply word 0 = some 0 := by
  cases op
  case mul => exact congrArg some BitVec.mul_zero
  case and => exact congrArg some BitVec.and_zero
  all_goals exact absurd h (by decide)

theorem apply_absorb_left (h : op ∈ [mul, and]) (word : Word) : op.apply 0 word = some 0 := by
  cases op
  case mul => exact congrArg some BitVec.zero_mul
  case and => exact congrArg some BitVec.zero_and
  all_goals exact absurd h (by decide)

theorem apply_sub_self (word : Word) : apply sub word word = some 0 :=
  congrArg some (BitVec.sub_self word)

end BinaryOp

/-- Two equal signs cancel, unless they are logical. -/
theorem UnaryOp.apply_apply {op : UnaryOp} (h : op ≠ .logicalNot) (operand : Word) :
    op.apply (op.apply operand) = operand := by
  cases op
  case neg => exact BitVec.neg_neg
  case complement => exact BitVec.not_not
  case logicalNot => exact absurd rfl h

namespace Expr

/-! ## Tests on trees -/

theorem eq_of_isLiteral {value : Word} {e : Expr} (h : e.isLiteral value = true) :
    e = .int value := by
  cases e
  case int found => rw [beq_iff_eq.1 h]
  all_goals exact absurd h Bool.false_ne_true

/-- Trees that count as the same are equal. -/
theorem eq_of_sameTree {first second : Expr} (h : first.sameTree second = true) :
    first = second := by
  fun_induction sameTree first second
  case case1 a b => rw [eq_of_beq h]
  case case2 a b => rw [eq_of_beq h]
  case case3 ihleft ihright =>
    simp only [Bool.and_eq_true, beq_iff_eq] at h
    rw [h.1.1, ihleft h.1.2, ihright h.2]
  case case4 ih =>
    simp only [Bool.and_eq_true, beq_iff_eq] at h
    rw [h.1, ih h.2]
  case case5 => exact absurd h Bool.false_ne_true

/-- A relation between expressions and words in which literals and operators have their
arithmetic, and variables and loads come to one word at most. -/
structure IsArithmetic (values : Expr → Word → Prop) : Prop where
  int_iff : ∀ {value v}, values (.int value) v ↔ v = value
  binary_iff : ∀ {op left right v}, values (.binary op left right) v ↔
    ∃ a b, values left a ∧ values right b ∧ op.value? a b = some v
  unary_iff : ∀ {op operand v}, values (.unary op operand) v ↔
    ∃ a, values operand a ∧ v = op.value a
  var_unique : ∀ {place v w}, values (.var place) v → values (.var place) w → v = w
  deref_unique : ∀ {address size}, (∀ a b, values address a → values address b → a = b) →
    ∀ {v w}, values (.deref address size) v → values (.deref address size) w → v = w

namespace IsArithmetic
variable {values : Expr → Word → Prop} {op : BinaryOp} {left right : Expr} {n v w : Word}

theorem exists_apply (H : IsArithmetic values) (hv : values (.binary op left right) v) :
    ∃ a b, values left a ∧ values right b ∧ op.apply a b = some v := by
  obtain ⟨a, b, ha, hb, hop⟩ := H.binary_iff.1 hv
  exact ⟨a, b, ha, hb, (op.apply_eq_value? a b).trans hop⟩

theorem eq_of_isLiteral (H : IsArithmetic values) {e : Expr} (h : e.isLiteral n = true)
    (hv : values e v) : v = n := by
  rw [Expr.eq_of_isLiteral h] at hv
  exact H.int_iff.1 hv

/-- A tree that counts as the same as another comes to one word at most. -/
theorem unique_of_sameTree (H : IsArithmetic values) {first second : Expr}
    (h : first.sameTree second = true) (hv : values first v) (hw : values second w) : v = w := by
  fun_induction sameTree first second generalizing v w
  case case1 a b =>
    rw [← eq_of_beq h] at hw
    exact H.var_unique hv hw
  case case2 a b =>
    rw [← eq_of_beq h] at hw
    exact (H.int_iff.1 hv).trans (H.int_iff.1 hw).symm
  case case3 op a b op' a' b' iha ihb =>
    simp only [Bool.and_eq_true, beq_iff_eq] at h
    obtain ⟨⟨rfl, hsamea⟩, hsameb⟩ := h
    obtain ⟨l, r, hl, hr, hop⟩ := H.binary_iff.1 hv
    obtain ⟨l', r', hl', hr', hop'⟩ := H.binary_iff.1 hw
    rw [iha hsamea hl hl', ihb hsameb hr hr', hop'] at hop
    exact (Option.some.inj hop).symm
  case case4 a size a' size' ih =>
    simp only [Bool.and_eq_true, beq_iff_eq] at h
    obtain ⟨rfl, hsame⟩ := h
    obtain rfl := eq_of_sameTree hsame
    -- The address is the same tree as itself, so the induction hypothesis is its uniqueness.
    exact H.deref_unique (fun _ _ ha hb => ih hsame ha hb) hv hw
  case case5 => exact absurd h Bool.false_ne_true

/-! ## Rules -/

/-- An operand that the other one leaves alone can stand for the whole. -/
theorem keep_left (H : IsArithmetic values) (hright : right.isLiteral n = true)
    (hop : ∀ a, op.apply a n = some a) (hv : values (.binary op left right) v) :
    values left v := by
  obtain ⟨a, b, ha, hb, happly⟩ := H.exists_apply hv
  rw [H.eq_of_isLiteral hright hb, hop a, Option.some.injEq] at happly
  rwa [← happly]

theorem keep_right (H : IsArithmetic values) (hleft : left.isLiteral n = true)
    (hop : ∀ b, op.apply n b = some b) (hv : values (.binary op left right) v) :
    values right v := by
  obtain ⟨a, b, ha, hb, happly⟩ := H.exists_apply hv
  rw [H.eq_of_isLiteral hleft ha, hop b, Option.some.injEq] at happly
  rwa [← happly]

/-- A zero factor decides the result, whatever the other operand comes to. -/
theorem absorb (H : IsArithmetic values) (hop : op ∈ [.mul, .and])
    (hzero : right.isLiteral 0 = true ∨ left.isLiteral 0 = true)
    (hv : values (.binary op left right) v) : values (.int 0) v := by
  obtain ⟨a, b, ha, hb, happly⟩ := H.exists_apply hv
  have hresult : op.apply a b = some 0 := by
    rcases hzero with hright | hleft
    · rw [H.eq_of_isLiteral hright hb, BinaryOp.apply_absorb_right hop]
    · rw [H.eq_of_isLiteral hleft ha, BinaryOp.apply_absorb_left hop]
  rw [hresult, Option.some.injEq] at happly
  exact H.int_iff.2 happly.symm

/-- What an operator comes to for one operand is what it comes to. -/
theorem reduce?_sound (H : IsArithmetic values) {e : Expr}
    (h : reduce? op left right = some e) (hv : values (.binary op left right) v) :
    values e v := by
  cases op
  case add | or | xor =>
    simp only [reduce?] at h
    by_cases hright : right.isLiteral 0 = true
    · rw [if_pos hright, Option.some.injEq] at h
      exact h ▸ H.keep_left hright (BinaryOp.apply_right_zero (by decide)) hv
    · rw [if_neg hright, Option.ite_none_right_eq_some, Option.some.injEq] at h
      exact h.2 ▸ H.keep_right h.1 (BinaryOp.apply_left_zero (by decide)) hv
  case sub =>
    simp only [reduce?] at h
    by_cases hright : right.isLiteral 0 = true
    · rw [if_pos hright, Option.some.injEq] at h
      exact h ▸ H.keep_left hright (BinaryOp.apply_right_zero (by decide)) hv
    · rw [if_neg hright, Option.ite_none_right_eq_some, Option.some.injEq] at h
      obtain ⟨a, b, ha, hb, happly⟩ := H.exists_apply hv
      rw [H.unique_of_sameTree h.1 ha hb, BinaryOp.apply_sub_self, Option.some.injEq] at happly
      exact h.2 ▸ H.int_iff.2 happly.symm
  case shl | shr =>
    simp only [reduce?, Option.ite_none_right_eq_some, Option.some.injEq] at h
    exact h.2 ▸ H.keep_left h.1 (BinaryOp.apply_right_zero (by decide)) hv
  case mul =>
    simp only [reduce?, Bool.or_eq_true] at h
    by_cases hzero : right.isLiteral 0 = true ∨ left.isLiteral 0 = true
    · rw [if_pos hzero, Option.some.injEq] at h
      exact h ▸ H.absorb (by decide) hzero hv
    rw [if_neg hzero] at h
    by_cases hright : right.isLiteral 1 = true
    · rw [if_pos hright, Option.some.injEq] at h
      exact h ▸ H.keep_left hright (BinaryOp.apply_right_one (by decide)) hv
    · rw [if_neg hright, Option.ite_none_right_eq_some, Option.some.injEq] at h
      exact h.2 ▸ H.keep_right h.1 BinaryOp.apply_left_one hv
  case div =>
    simp only [reduce?, Option.ite_none_right_eq_some, Option.some.injEq] at h
    exact h.2 ▸ H.keep_left h.1 (BinaryOp.apply_right_one (by decide)) hv
  case and =>
    simp only [reduce?, Bool.or_eq_true, Option.ite_none_right_eq_some, Option.some.injEq] at h
    exact h.2 ▸ H.absorb (by decide) h.1 hv
  all_goals exact absurd h (by simp [reduce?])

theorem foldLiterals?_sound (H : IsArithmetic values) (h : foldLiterals? op left right = some n)
    (hv : values (.binary op left right) v) : values (.int n) v := by
  obtain ⟨a, b, ha, hb, happly⟩ := H.exists_apply hv
  cases left
  case int l =>
    cases right
    case int r =>
      have hfold : op.apply l r = some n := h
      rw [H.int_iff.1 ha, H.int_iff.1 hb, hfold] at happly
      exact H.int_iff.2 (Option.some.inj happly).symm
    all_goals exact absurd h (by simp [foldLiterals?])
  all_goals exact absurd h (by simp [foldLiterals?])

/-! ## Smart constructors -/

theorem mkBinary_sound (H : IsArithmetic values) (hv : values (.binary op left right) v) :
    values (mkBinary op left right) v := by
  rw [mkBinary]
  cases hfold : foldLiterals? op left right with
  | some value => exact H.foldLiterals?_sound hfold hv
  | none =>
    cases hreduce : reduce? op left right with
    | some e => exact H.reduce?_sound hreduce hv
    | none => exact hv

theorem mkUnary_sound (H : IsArithmetic values) {op : UnaryOp} {operand : Expr}
    (hv : values (.unary op operand) v) : values (mkUnary op operand) v := by
  obtain ⟨a, ha, rfl⟩ := H.unary_iff.1 hv
  fun_cases mkUnary op operand
  case case1 value =>
    rw [H.int_iff.1 ha]
    exact H.int_iff.2 (op.apply_eq_value value).symm
  case case2 inner operand hdouble =>
    obtain ⟨rfl, hsign⟩ := hdouble
    obtain ⟨b, hb, rfl⟩ := H.unary_iff.1 ha
    rwa [← UnaryOp.apply_eq_value, ← UnaryOp.apply_eq_value, UnaryOp.apply_apply hsign]
  case case3 => exact hv
  case case4 => exact hv

end IsArithmetic
end Expr
end UefiTyping
