import UefiTyping.Expr.Address
import UefiTyping.Proofs.Expr.Simplification

/-!
# What a constant address stands for

At run time variables and memory hold words that nothing is known about. An expression
that is simplified and then found to have a constant address stands for that address
whatever they hold: every word it can come to agrees with the address modulo `2 ^ 64`.
Simplification folds in words and the address is added up in half of their width, so the
congruence is the invariant that joins the two.
-/
namespace UefiTyping

/-- An address as a word. -/
def Word.ofAddress (address : UInt64) : Word := .ofNat 128 address.toNat

@[simp] theorem Word.toInt_ofAddress (address : UInt64) :
    (ofAddress address).toInt = address.toNat := by
  have hlt := address.toNat_lt
  have htoNat : (ofAddress address).toNat = address.toNat := by
    rw [ofAddress, BitVec.toNat_ofNat, Nat.mod_eq_of_lt (by omega)]
  rw [BitVec.toInt_eq_toNat_of_lt (by omega), htoNat]

/-- What variables and memory hold: a word for each variable as it is written, with its
size, and one for each load from an address. -/
structure Valuation where
  held : Variable → Word
  loaded : Word → UInt8 → Word

namespace Expr

mutual

/-- A word that an expression can come to. Operators and loads ask for words of their
operands. An assignment, a call or anything else that is not computed here can come to any
word, and so can data that a reference loads. -/
def Evaluates (env : Valuation) : Expr → Word → Prop
  | .var place, v => v = env.held place
  | .int value, v => v = value
  | .binary op left right, v =>
    ∃ a b, Evaluates env left a ∧ Evaluates env right b ∧ op.value? a b = some v
  | .unary op operand, v => ∃ a, Evaluates env operand a ∧ v = op.value a
  | .deref address size, v => ∃ a, Evaluates env address a ∧ v = env.loaded a size
  | .data reference _, v => reference.isLoad = false → v = .ofAddress reference.address
  | .addressOf inner, v => HasAddress env inner v
  | .cast inner _, v => Evaluates env inner v
  | .field .., _ | .call .., _ | .callThrough .., _ | .assign .., _ | .conditional .., _
  | .unknown _, _ => True

/-- A word that can be the address of an expression. A variable that is no global can be
anywhere; what is neither a variable nor loaded has no address. -/
def HasAddress (env : Valuation) : Expr → Word → Prop
  | .var place, v => ∀ address, place.storage = .global address → v = .ofAddress address
  | .data reference _, v => reference.isLoad = true ∧ v = .ofAddress reference.address
  | .deref address _, v => Evaluates env address v
  | .cast inner _, v => HasAddress env inner v
  | .int _, _ | .binary .., _ | .unary .., _ | .addressOf _, _ | .field .., _ | .call .., _
  | .callThrough .., _ | .assign .., _ | .conditional .., _ | .unknown _, _ => False

end

variable {env : Valuation} {e : Expr} {v : Word} {address : UInt64}

/-! ## Simplification -/

theorem isArithmetic_evaluates (env : Valuation) : IsArithmetic (Evaluates env) where
  int_iff := by
    intro value v
    rw [Evaluates]
  binary_iff := by
    intro op left right v
    rw [Evaluates]
  unary_iff := by
    intro op operand v
    rw [Evaluates]
  var_unique := by
    intro place v w hv hw
    rw [Evaluates] at hv hw
    rw [hv, hw]
  deref_unique := by
    intro address size hunique v w hv hw
    rw [Evaluates] at hv hw
    obtain ⟨a, ha, rfl⟩ := hv
    obtain ⟨b, hb, rfl⟩ := hw
    rw [hunique a b ha hb]

mutual

/-- What an expression can come to, it can come to when it is simplified. -/
theorem Evaluates.simplify {env : Valuation} : ∀ {e : Expr} {v : Word},
    e.Evaluates env v → e.simplify.Evaluates env v
  | .binary op left right, v, hv => by
    rw [Evaluates] at hv
    obtain ⟨a, b, ha, hb, hop⟩ := hv
    rw [Expr.simplify]
    refine (isArithmetic_evaluates env).mkBinary_sound ?_
    rw [Evaluates]
    exact ⟨a, b, ha.simplify, hb.simplify, hop⟩
  | .unary op operand, v, hv => by
    rw [Evaluates] at hv
    obtain ⟨a, ha, rfl⟩ := hv
    rw [Expr.simplify]
    refine (isArithmetic_evaluates env).mkUnary_sound ?_
    rw [Evaluates]
    exact ⟨a, ha.simplify, rfl⟩
  | .deref address size, v, hv => by
    rw [Evaluates] at hv
    obtain ⟨a, ha, rfl⟩ := hv
    rw [Expr.simplify, Evaluates]
    exact ⟨a, ha.simplify, rfl⟩
  | .addressOf inner, v, hv => by
    rw [Evaluates] at hv
    rw [Expr.simplify, Evaluates]
    exact hv.simplify
  | .cast inner type, v, hv => by
    rw [Evaluates] at hv
    rw [Expr.simplify, Evaluates]
    exact hv.simplify
  | .var _, _, hv | .int _, _, hv | .data .., _, hv => by
    rw [Expr.simplify]
    exact hv
  | .field .., _, _ | .call .., _, _ | .callThrough .., _, _ | .assign .., _, _
  | .conditional .., _, _ | .unknown _, _, _ => by
    rw [Expr.simplify, Evaluates]
    trivial

theorem HasAddress.simplify {env : Valuation} : ∀ {e : Expr} {v : Word},
    e.HasAddress env v → e.simplify.HasAddress env v
  | .deref address size, v, hv => by
    rw [HasAddress] at hv
    rw [Expr.simplify, HasAddress]
    exact hv.simplify
  | .cast inner type, v, hv => by
    rw [HasAddress] at hv
    rw [Expr.simplify, HasAddress]
    exact hv.simplify
  | .var _, _, hv | .data .., _, hv => by
    rw [Expr.simplify]
    exact hv
  | .int _, _, hv | .binary .., _, hv | .unary .., _, hv | .addressOf _, _, hv | .field .., _, hv
  | .call .., _, hv | .callThrough .., _, hv | .assign .., _, hv | .conditional .., _, hv
  | .unknown _, _, hv => by
    rw [HasAddress] at hv
    exact hv.elim

end

/-! ## Addresses -/

theorem HasAddress.eq_objectAddress (h : e.objectAddress = some address)
    (hv : e.HasAddress env v) : v = .ofAddress address := by
  fun_induction objectAddress e
  case case1 ih =>
    rw [HasAddress] at hv
    exact ih h hv
  case case2 place name size =>
    rw [HasAddress] at hv
    exact hv address (congrArg Storage.global (Option.some.inj h))
  case case3 reference shown hload =>
    rw [HasAddress] at hv
    rw [hv.2, Option.some.inj h]
  case case4 => exact absurd h (by simp)
  case case5 => exact absurd h (by simp)

/-- An operator has a constant address if it adds or subtracts two of them. -/
theorem constantAddress_binary_eq_some {op : BinaryOp} {left right : Expr}
    (h : (binary op left right).constantAddress = some address) :
    ∃ a b, left.constantAddress = some a ∧ right.constantAddress = some b ∧
      (op = .add ∧ address = a + b ∨ op = .sub ∧ address = a - b) := by
  rw [constantAddress] at h
  obtain ⟨a, ha, h⟩ := Option.bind_eq_some_iff.1 h
  obtain ⟨b, hb, h⟩ := Option.bind_eq_some_iff.1 h
  refine ⟨a, b, ha, hb, ?_⟩
  cases op
  case add => exact .inl ⟨rfl, (Option.some.inj h).symm⟩
  case sub => exact .inr ⟨rfl, (Option.some.inj h).symm⟩
  all_goals exact absurd h (by simp)

theorem toNat_add_modEq (a b : UInt64) :
    ((a + b).toNat : Int) ≡ a.toNat + b.toNat [ZMOD 2 ^ 64] := by
  rw [UInt64.toNat_add, Int.natCast_mod, Int.natCast_add]
  exact Int.mod_modEq _ _

theorem toNat_sub_modEq (a b : UInt64) :
    ((a - b).toNat : Int) ≡ a.toNat - b.toNat [ZMOD 2 ^ 64] := by
  have hlt := b.toNat_lt
  rw [UInt64.toNat_sub, Int.ModEq]
  omega

/-- Every word that an expression with a constant address can come to is the address,
modulo `2 ^ 64`. -/
theorem Evaluates.modEq_constantAddress (h : e.constantAddress = some address)
    (hv : e.Evaluates env v) : v.toInt ≡ address.toNat [ZMOD 2 ^ 64] := by
  fun_induction constantAddress e generalizing v address
  case case1 ih =>
    rw [Evaluates] at hv
    exact ih h hv
  case case2 =>
    rw [Evaluates] at hv
    rw [hv.eq_objectAddress h, Word.toInt_ofAddress]
  case case3 => exact absurd h (by simp)
  case case4 reference shown hload =>
    rw [Evaluates] at hv
    rw [hv (by simpa using hload), Option.some.inj h, Word.toInt_ofAddress]
  case case5 value hfits =>
    rw [Evaluates] at hv
    have haddress : address.toNat = value.toNat := by
      rw [← Option.some.inj h, UInt64.toNat_ofNat_of_lt' hfits]
    have hsmall : 2 * value.toNat < 2 ^ 128 := by
      have hsize : UInt64.size = 2 ^ 64 := rfl
      omega
    rw [hv, haddress, BitVec.toInt_eq_toNat_of_lt hsmall]
  case case6 => exact absurd h (by simp)
  case case7 op left right ihleft ihright =>
    rw [Evaluates] at hv
    obtain ⟨a, b, ha, hb, hop⟩ := hv
    obtain ⟨x, y, hx, hy, ⟨rfl, rfl⟩ | ⟨rfl, rfl⟩⟩ := constantAddress_binary_eq_some h
    -- The word wraps at 128 bits and the address at 64; the sum of integers is between them.
    · calc v.toInt
        _ = (Word.wrap (a.toInt + b.toInt)).toInt := by rw [← Option.some.inj hop]
        _ ≡ a.toInt + b.toInt [ZMOD 2 ^ 64] := Word.toInt_wrap_modEq _
        _ ≡ x.toNat + y.toNat [ZMOD 2 ^ 64] := (ihleft hx ha).add (ihright hy hb)
        _ ≡ (x + y).toNat [ZMOD 2 ^ 64] := (toNat_add_modEq x y).symm
    · calc v.toInt
        _ = (Word.wrap (a.toInt - b.toInt)).toInt := by rw [← Option.some.inj hop]
        _ ≡ a.toInt - b.toInt [ZMOD 2 ^ 64] := Word.toInt_wrap_modEq _
        _ ≡ x.toNat - y.toNat [ZMOD 2 ^ 64] := (ihleft hx ha).sub (ihright hy hb)
        _ ≡ (x - y).toNat [ZMOD 2 ^ 64] := (toNat_sub_modEq x y).symm
  case case8 => exact absurd h (by simp)

/-- The data that is read at the constant address of a simplified expression is read where
the expression itself points to: whatever variables and memory hold, every word that the
expression can come to is that address, modulo `2 ^ 64`. -/
theorem modEq_of_constantAddress_simplify (env : Valuation)
    (h : e.simplify.constantAddress = some address) (hv : e.Evaluates env v) :
    v.toInt ≡ address.toNat [ZMOD 2 ^ 64] :=
  hv.simplify.modEq_constantAddress h

/-- A difference that cancels, and an offset that leads below zero: the word is negative and
the address wraps. -/
theorem modEq_of_constantAddress_below_zero :
    let x : Expr := .var (.register 1 "rcx" 8)
    let offset : Expr := .binary .sub (.addressOf (.var (.global 0x2000 8))) (.int 0x3000)
    let e : Expr := .binary .add (.binary .sub x x) offset
    let env : Valuation := ⟨fun _ => 7, fun _ _ => 0⟩
    e.simplify.constantAddress = some (0x2000 - 0x3000) ∧ e.Evaluates env (-0x1000) ∧
      (-0x1000 : Word).toInt ≡ ((0x2000 - 0x3000 : UInt64).toNat : Int) [ZMOD 2 ^ 64] := by
  intro x offset e env
  have haddress : e.simplify.constantAddress = some (0x2000 - 0x3000) := by rfl
  have hx : x.Evaluates env 7 := by rw [Evaluates]
  have hoffset : offset.Evaluates env (-0x1000) := by
    rw [Evaluates]
    refine ⟨0x2000, 0x3000, ?_, by rw [Evaluates], by decide⟩
    rw [Evaluates, HasAddress]
    rintro _ ⟨⟩
    rfl
  have hvalue : e.Evaluates env (-0x1000) := by
    rw [Evaluates]
    refine ⟨0, -0x1000, ?_, hoffset, by decide⟩
    rw [Evaluates]
    exact ⟨7, 7, hx, hx, by decide⟩
  exact ⟨haddress, hvalue, modEq_of_constantAddress_simplify env haddress hvalue⟩

end Expr
end UefiTyping
