import UefiTyping.Proofs.Expr.ConstantAddress
import UefiTyping.Protocol.Resolution

/-!
# Constant addresses that folding keeps

A constant address adds up to the same address when the expression is simplified first, as
long as what folding leaves are addresses. Folding adds literals up in words, and the address
is added up in half of that width. A sum of literals that wraps there, or a difference below
zero that only a further term makes good, folds to a literal that is no address by itself;
then the simplified expression has none at all.

Simplification touches an address in two ways: it folds what is made of literals alone to one
literal, and it drops a zero beside anything else. What is not made of literals alone is never
found to cancel, because no tree counts as the same as it.
-/
namespace UefiTyping.Expr

variable {e left right : Expr} {op : BinaryOp} {address : UInt64}

/-! ## Literals alone -/

/-- What an expression of literals, sums and differences adds up to. Casts are not looked
through. -/
def literalSum? : Expr → Option Word
  | .int value => some value
  | .binary op left right => do
    let left ← left.literalSum?
    let right ← right.literalSum?
    match op with
    | .add => some (left + right)
    | .sub => some (left - right)
    | _ => none
  | _ => none

/-- Whether every literal that folding leaves in a constant address is an address: each part
that is made of literals alone, and of no larger such part, adds up to a word that fits in 64
bits without a sign. -/
def foldsToAddresses : Expr → Bool
  | .cast inner _ => inner.foldsToAddresses
  | .int value => value.toNat < UInt64.size
  | e@(.binary _ left right) =>
    match e.literalSum? with
    | some sum => sum.toNat < UInt64.size
    | none => left.foldsToAddresses && right.foldsToAddresses
  | _ => true

theorem foldsToAddresses_of_literalSum? {sum : Word} (h : e.literalSum? = some sum) :
    e.foldsToAddresses = decide (sum.toNat < UInt64.size) := by
  cases e
  case int value =>
    obtain rfl : value = sum := Option.some.inj h
    rfl
  case binary op left right => rw [foldsToAddresses, h]
  all_goals cases h

/-- A sum of words is the sum of the addresses that they are modulo `2 ^ 64`. -/
theorem ofNat_toNat_add (a b : Word) :
    UInt64.ofNat (a + b).toNat = .ofNat a.toNat + .ofNat b.toNat := by
  apply UInt64.toNat_inj.1
  rw [UInt64.toNat_add, UInt64.toNat_ofNat', UInt64.toNat_ofNat', UInt64.toNat_ofNat',
    BitVec.toNat_add]
  omega

theorem ofNat_toNat_sub (a b : Word) :
    UInt64.ofNat (a - b).toNat = .ofNat a.toNat - .ofNat b.toNat := by
  apply UInt64.toNat_inj.1
  rw [UInt64.toNat_sub, UInt64.toNat_ofNat', UInt64.toNat_ofNat', UInt64.toNat_ofNat',
    BitVec.toNat_sub]
  omega

/-! ## Anything else -/

/-- No tree counts as the same as the expression. -/
def Incomparable (e : Expr) : Prop := ∀ other, e.sameTree other = false

namespace Incomparable

theorem ne_int (h : e.Incomparable) (value : Word) : e ≠ .int value := by
  rintro rfl
  exact absurd (h (.int value)) (by simp [sameTree])

theorem sameTree_eq (h : left.Incomparable ∨ right.Incomparable) :
    left.sameTree right = false := by
  refine Bool.eq_false_iff.2 fun hsame => ?_
  obtain rfl := eq_of_sameTree hsame
  have hself := h.elim (· left) (· left)
  exact Bool.false_ne_true (hself.symm.trans hsame)

theorem binary (h : left.Incomparable ∨ right.Incomparable) :
    (Expr.binary op left right).Incomparable := by
  intro other
  cases other
  case binary op' left' right' =>
    rw [sameTree]
    rcases h with hleft | hright
    · rw [hleft left', Bool.and_false, Bool.false_and]
    · rw [hright right', Bool.and_false]
  all_goals rfl

end Incomparable

theorem foldLiterals?_of_incomparable (h : left.Incomparable ∨ right.Incomparable) :
    foldLiterals? op left right = none := by
  cases left
  case int l =>
    cases right
    case int r => exact absurd rfl (h.elim (·.ne_int l) fun hright => (hright.ne_int r rfl).elim)
    all_goals rfl
  all_goals rfl

/-- All that becomes of a sum or difference that is not of literals alone: a zero is dropped,
or the operator stays. -/
theorem mkBinary_cases (hop : op = .add ∨ op = .sub)
    (h : left.Incomparable ∨ right.Incomparable) :
    (left.Incomparable ∧ right = .int 0 ∧ mkBinary op left right = left) ∨
      (right.Incomparable ∧ left = .int 0 ∧ op = .add ∧ mkBinary op left right = right) ∨
      mkBinary op left right = .binary op left right := by
  have hmk : mkBinary op left right = (reduce? op left right).getD (.binary op left right) := by
    rw [mkBinary, foldLiterals?_of_incomparable h]
  by_cases hright : right.isLiteral 0 = true
  · obtain rfl := eq_of_isLiteral hright
    have hleft : left.Incomparable := h.resolve_right fun hzero => hzero.ne_int 0 rfl
    refine .inl ⟨hleft, rfl, ?_⟩
    rcases hop with rfl | rfl
    · exact hmk
    · exact hmk
  · rcases hop with rfl | rfl
    · by_cases hleft : left.isLiteral 0 = true
      · obtain rfl := eq_of_isLiteral hleft
        have hright' : right.Incomparable := h.resolve_left fun hzero => hzero.ne_int 0 rfl
        refine .inr (.inl ⟨hright', rfl, rfl, ?_⟩)
        simp only [hmk, reduce?, hright, hleft, Bool.false_eq_true, if_false, if_true,
          Option.getD_some]
      · refine .inr (.inr ?_)
        simp only [hmk, reduce?, hright, hleft, Bool.false_eq_true, if_false, Option.getD_none]
    · refine .inr (.inr ?_)
      simp only [hmk, reduce?, hright, Incomparable.sameTree_eq h, Bool.false_eq_true, if_false,
        Option.getD_none]

theorem incomparable_mkBinary (hop : op = .add ∨ op = .sub)
    (h : left.Incomparable ∨ right.Incomparable) : (mkBinary op left right).Incomparable := by
  rcases mkBinary_cases hop h with ⟨hleft, -, heq⟩ | ⟨hright, -, -, heq⟩ | heq
  · rwa [heq]
  · rwa [heq]
  · rw [heq]
    exact .binary h

/-- A zero that is dropped adds nothing to an address. -/
theorem constantAddress_mkBinary (hop : op = .add ∨ op = .sub)
    (h : left.Incomparable ∨ right.Incomparable) :
    (mkBinary op left right).constantAddress = (binary op left right).constantAddress := by
  have hzero : (int 0).constantAddress = some 0 := by rfl
  rcases mkBinary_cases hop h with ⟨-, rfl, heq⟩ | ⟨-, rfl, rfl, heq⟩ | heq
  · rw [heq, constantAddress, hzero]
    rcases hop with rfl | rfl
    · cases left.constantAddress <;> simp
    · cases left.constantAddress <;> simp
  · rw [heq, constantAddress, hzero]
    cases right.constantAddress <;> simp
  · rw [heq]

/-! ## Folding an address -/

/-- What simplification makes of an expression with a constant address. -/
inductive Folded (e : Expr) (address : UInt64) : Prop
  /-- One literal, which is the address modulo `2 ^ 64`. -/
  | literal (sum : Word) : e.literalSum? = some sum → e.simplify = .int sum →
      UInt64.ofNat sum.toNat = address → Folded e address
  /-- An address of the same parts. -/
  | compound : e.literalSum? = none → e.simplify.Incomparable →
      e.simplify.constantAddress = (if e.foldsToAddresses then some address else none) →
      Folded e address

namespace Folded

theorem constantAddress_eq (h : Folded e address) :
    e.simplify.constantAddress = if e.foldsToAddresses then some address else none := by
  cases h with
  | literal sum hsum hsimplify haddress =>
    rw [hsimplify, constantAddress, foldsToAddresses_of_literalSum? hsum, haddress]
    simp only [decide_eq_true_eq]
  | compound _ _ haddress => exact haddress

/-- A part that is not of literals alone makes the whole one that is not. -/
theorem binary_compound {a b : UInt64} (hop : op = .add ∨ op = .sub) (hleft : Folded left a)
    (hright : Folded right b) (ha : left.constantAddress = some a)
    (hb : right.constantAddress = some b)
    (haddress : (Expr.binary op left right).constantAddress = some address)
    (hsum : (Expr.binary op left right).literalSum? = none)
    (h : left.simplify.Incomparable ∨ right.simplify.Incomparable) :
    Folded (.binary op left right) address := by
  refine .compound hsum ?_ ?_
  · rw [simplify]
    exact incomparable_mkBinary hop h
  · rw [simplify, constantAddress_mkBinary hop h, constantAddress, hleft.constantAddress_eq,
      hright.constantAddress_eq, foldsToAddresses, hsum]
    rw [constantAddress, ha, hb] at haddress
    cases left.foldsToAddresses
    · rfl
    · cases right.foldsToAddresses
      · rfl
      · exact haddress

/-- A sum or difference is folded like its parts. -/
theorem binary {a b : UInt64} (hleft : Folded left a) (hright : Folded right b)
    (ha : left.constantAddress = some a) (hb : right.constantAddress = some b)
    (hop : op = .add ∧ address = a + b ∨ op = .sub ∧ address = a - b)
    (haddress : (Expr.binary op left right).constantAddress = some address) :
    Folded (.binary op left right) address := by
  have hsign : op = .add ∨ op = .sub := hop.imp And.left And.left
  have hcompound := binary_compound hsign hleft hright ha hb haddress
  -- Two literals are folded to one. With a compound part there is none, whatever the other is.
  cases hleft with
  | compound hnone hother _ =>
    refine hcompound ?_ (.inl hother)
    rw [literalSum?, hnone]
    rfl
  | literal m hm hleft' hma =>
    cases hright with
    | compound hnone hother _ =>
      refine hcompound ?_ (.inr hother)
      rw [literalSum?, hm, hnone]
      rfl
    | literal n hn hright' hnb =>
      rcases hop with ⟨rfl, rfl⟩ | ⟨rfl, rfl⟩
      · refine .literal (m + n) ?_ ?_ ?_
        · rw [literalSum?, hm, hn]
          rfl
        · rw [simplify, hleft', hright']
          rfl
        · rw [ofNat_toNat_add, hma, hnb]
      · refine .literal (m - n) ?_ ?_ ?_
        · rw [literalSum?, hm, hn]
          rfl
        · rw [simplify, hleft', hright']
          rfl
        · rw [ofNat_toNat_sub, hma, hnb]

end Folded

theorem objectAddress_simplify (h : e.objectAddress = some address) :
    e.simplify.objectAddress = some address := by
  fun_induction objectAddress e
  case case1 ih =>
    rw [simplify, objectAddress]
    exact ih h
  case case2 place name size =>
    rw [simplify]
    exact h
  case case3 reference shown hload =>
    rw [simplify, objectAddress, if_pos hload]
    exact h
  case case4 => exact absurd h (by simp)
  case case5 => exact absurd h (by simp)

theorem folded_of_constantAddress (h : e.constantAddress = some address) : Folded e address := by
  -- The cases of `constantAddress`: cast, address of an object, reference, literal, operator.
  -- Only a literal, and an operator on literals, is not compound.
  fun_induction constantAddress e generalizing address
  case case1 inner type ih =>
    refine .compound rfl ?_ ?_
    · rw [simplify]
      exact fun _ => rfl
    · rw [simplify, constantAddress, foldsToAddresses]
      exact (ih h).constantAddress_eq
  case case2 inner =>
    refine .compound rfl ?_ ?_
    · rw [simplify]
      exact fun _ => rfl
    · rw [simplify, constantAddress, objectAddress_simplify h]
      rfl
  case case3 => exact absurd h (by simp)
  case case4 reference shown hload =>
    refine .compound rfl ?_ ?_
    · rw [simplify]
      exact fun _ => rfl
    · rw [simplify, constantAddress, if_neg hload, h]
      rfl
  case case5 value hfits => exact .literal value rfl (by rw [simplify]) (Option.some.inj h)
  case case6 => exact absurd h (by simp)
  case case7 op left right ihleft ihright =>
    have haddress : (binary op left right).constantAddress = some address := h
    obtain ⟨a, b, ha, hb, hop⟩ := constantAddress_binary_eq_some haddress
    exact (ihleft ha).binary (ihright hb) ha hb hop haddress
  case case8 => exact absurd h (by simp)

/-- An expression with a constant address is simplified to one with the same address if what
folding leaves are addresses, and to one without any if not. Its GUID is read there, or not
at all. -/
theorem constantAddress_simplify (h : e.constantAddress = some address) :
    e.simplify.constantAddress = (if e.foldsToAddresses then some address else none) ∧
      ∀ image, ResolvedProtocol.guidOf? image e =
        if e.foldsToAddresses then image.guid? address else none := by
  have hsimplify := (folded_of_constantAddress h).constantAddress_eq
  refine ⟨hsimplify, fun image => ?_⟩
  rw [ResolvedProtocol.guidOf?, hsimplify]
  cases e.foldsToAddresses
  · rfl
  · rfl

/-- An offset that goes below zero on the way and comes back. -/
theorem constantAddress_simplify_there_and_back :
    let offset : Expr := .binary .add (.binary .sub (.int 0x10) (.int 0x20)) (.int 0x18)
    let e : Expr := .binary .add (.addressOf (.var (.global 0x3000 16))) offset
    e.constantAddress = some 0x3008 ∧ e.simplify.constantAddress = some 0x3008 := by
  intro offset e
  have h : e.constantAddress = some 0x3008 := by rfl
  exact ⟨h, (constantAddress_simplify h).1.trans (by rfl)⟩

/-- An offset below zero, added to a global: the address is above it unfolded, and lost when
the offset is folded. -/
theorem constantAddress_lost_by_simplify :
    let e : Expr := .binary .add (.addressOf (.var (.global 0x3000 16)))
      (.binary .sub (.int 0x10) (.int 0x20))
    e.constantAddress = some 0x2ff0 ∧ e.simplify.constantAddress = none :=
  ⟨by rfl, by rfl⟩

end UefiTyping.Expr
