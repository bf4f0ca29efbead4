import UefiTyping.Proofs.Expr.Simplification

/-!
# Normal forms

Simplification makes a single pass, from the leaves up, and a rule that drops an operator hands
on a part of it without another look. That is enough: the parts are in normal form by then, and
every rule gives back a part, a literal, or an operator that no rule applies to.

In a normal form no rule applies, wherever simplification looks. It does not look at the
pointer of a call, under a reference to data or into a conditional, and anything may stand
there. The normal forms are exactly the expressions that simplification leaves alone.
-/
namespace UefiTyping.Expr

variable {op : BinaryOp} {e left right operand : Expr}

/-! ## Operators that stay -/

/-- No rule applies to a binary operator between the operands: they do not fold, and neither
decides the result. -/
structure BinaryStays (op : BinaryOp) (left right : Expr) : Prop where
  unfolded : foldLiterals? op left right = none
  undecided : reduce? op left right = none

/-- No rule applies to a unary operator before the operand: it is no literal, and a sign that it
repeats is a logical not. -/
structure UnaryStays (op : UnaryOp) (operand : Expr) : Prop where
  not_int : ∀ value, operand ≠ .int value
  not_repeated : ∀ inner, operand = .unary op inner → op = .logicalNot

theorem BinaryStays.mkBinary_eq (h : BinaryStays op left right) :
    mkBinary op left right = .binary op left right := by
  rw [mkBinary, h.unfolded, h.undecided]
  rfl

theorem UnaryStays.mkUnary_eq {op : UnaryOp} (h : UnaryStays op operand) :
    mkUnary op operand = .unary op operand := by
  fun_cases mkUnary op operand
  case case1 value => exact absurd rfl (h.not_int value)
  case case2 inner operand hrepeated =>
    obtain ⟨rfl, hsign⟩ := hrepeated
    exact absurd (h.not_repeated operand rfl) hsign
  case case3 => rfl
  case case4 => rfl

/-- A decided operator comes to one of its operands, or to zero. -/
theorem eq_of_reduce? (h : reduce? op left right = some e) :
    e = left ∨ e = right ∨ e = .int 0 := by
  cases op <;> grind [reduce?]

/-- All that becomes of a binary operator. -/
theorem mkBinary_outcomes (op : BinaryOp) (left right : Expr) :
    (∃ value, mkBinary op left right = .int value) ∨ mkBinary op left right = left ∨
      mkBinary op left right = right ∨
      BinaryStays op left right ∧ mkBinary op left right = .binary op left right := by
  cases hfold : foldLiterals? op left right with
  | some value => exact .inl ⟨value, by rw [mkBinary, hfold]⟩
  | none =>
    cases hreduce : reduce? op left right with
    | none =>
      have hstays : BinaryStays op left right := ⟨hfold, hreduce⟩
      exact .inr (.inr (.inr ⟨hstays, hstays.mkBinary_eq⟩))
    | some e =>
      have hmk : mkBinary op left right = e := by
        rw [mkBinary, hfold, hreduce]
        rfl
      rw [hmk]
      rcases eq_of_reduce? hreduce with hleft | hright | hzero
      · exact .inr (.inl hleft)
      · exact .inr (.inr (.inl hright))
      · exact .inl ⟨0, hzero⟩

/-- All that becomes of a unary operator. -/
theorem mkUnary_outcomes (op : UnaryOp) (operand : Expr) :
    (∃ value, mkUnary op operand = .int value) ∨
      (operand = .unary op (mkUnary op operand)) ∨
      UnaryStays op operand ∧ mkUnary op operand = .unary op operand := by
  fun_cases mkUnary op operand
  case case1 value => exact .inl ⟨_, rfl⟩
  case case2 inner operand hrepeated =>
    obtain ⟨rfl, -⟩ := hrepeated
    exact .inr (.inl rfl)
  case case3 inner operand hnot =>
    refine .inr (.inr ⟨⟨fun value => by simp, fun other hother => ?_⟩, rfl⟩)
    obtain ⟨rfl, -⟩ := unary.inj hother
    by_contra hsign
    exact hnot ⟨rfl, hsign⟩
  case case4 hint hunary =>
    exact .inr (.inr ⟨⟨hint, fun inner hinner => absurd hinner (hunary _ _)⟩, rfl⟩)

/-! ## Normal forms -/

/-- No rule applies to the expression, nor to any part of it that simplification looks at. -/
inductive IsNormal : Expr → Prop
  | var (place : Variable) : IsNormal (.var place)
  | int (value : Word) : IsNormal (.int value)
  | unknown (text : String) : IsNormal (.unknown text)
  | data (reference : DataReference) (shown : Expr) : IsNormal (.data reference shown)
  | conditional (condition ifTrue ifFalse : Expr) :
      IsNormal (.conditional condition ifTrue ifFalse)
  | binary {op : BinaryOp} {left right : Expr} :
      IsNormal left → IsNormal right → BinaryStays op left right → IsNormal (.binary op left right)
  | unary {op : UnaryOp} {operand : Expr} :
      IsNormal operand → UnaryStays op operand → IsNormal (.unary op operand)
  | deref {address : Expr} (size : UInt8) : IsNormal address → IsNormal (.deref address size)
  | addressOf {inner : Expr} : IsNormal inner → IsNormal (.addressOf inner)
  | field {base : Expr} (name : String) (offset : UInt64) :
      IsNormal base → IsNormal (.field base name offset)
  | assign {left right : Expr} : IsNormal left → IsNormal right → IsNormal (.assign left right)
  | cast {inner : Expr} (type : CType) : IsNormal inner → IsNormal (.cast inner type)
  | call {args : List Expr} (callee : Callee) (site : Option UInt64) :
      (∀ arg ∈ args, IsNormal arg) → IsNormal (.call callee args site)
  | callThrough {args : List Expr} (target : Expr) (site : Option UInt64) :
      (∀ arg ∈ args, IsNormal arg) → IsNormal (.callThrough target args site)

namespace IsNormal

theorem mkBinary (hleft : IsNormal left) (hright : IsNormal right) :
    IsNormal (mkBinary op left right) := by
  rcases mkBinary_outcomes op left right with ⟨value, h⟩ | h | h | ⟨hstays, h⟩
  · rw [h]
    exact .int value
  · rwa [h]
  · rwa [h]
  · rw [h]
    exact .binary hleft hright hstays

theorem mkUnary {op : UnaryOp} (h : IsNormal operand) : IsNormal (mkUnary op operand) := by
  rcases mkUnary_outcomes op operand with ⟨value, hmk⟩ | hrepeated | ⟨hstays, hmk⟩
  · rw [hmk]
    exact .int value
  · -- The sign that is repeated goes with the one before it; what it stood before is normal.
    rw [hrepeated] at h
    cases h with
    | unary hinner _ => exact hinner
  · rw [hmk]
    exact .unary h hstays

end IsNormal

mutual

/-- Simplification ends in a normal form. -/
theorem isNormal_simplify : ∀ e : Expr, IsNormal e.simplify
  | .binary op left right => by
    rw [simplify]
    exact (isNormal_simplify left).mkBinary (isNormal_simplify right)
  | .unary op operand => by
    rw [simplify]
    exact (isNormal_simplify operand).mkUnary
  | .deref address size => by
    rw [simplify]
    exact .deref size (isNormal_simplify address)
  | .addressOf inner => by
    rw [simplify]
    exact .addressOf (isNormal_simplify inner)
  | .field base name offset => by
    rw [simplify]
    exact .field name offset (isNormal_simplify base)
  | .assign left right => by
    rw [simplify]
    exact .assign (isNormal_simplify left) (isNormal_simplify right)
  | .cast inner type => by
    rw [simplify]
    exact .cast type (isNormal_simplify inner)
  | .call callee args site => by
    rw [simplify]
    exact .call callee site (isNormal_simplifyEach args)
  | .callThrough target args site => by
    rw [simplify]
    exact .callThrough target site (isNormal_simplifyEach args)
  | .var place => by
    rw [simplify]
    exact .var place
  | .int value => by
    rw [simplify]
    exact .int value
  | .unknown text => by
    rw [simplify]
    exact .unknown text
  | .data reference shown => by
    rw [simplify]
    exact .data reference shown
  | .conditional condition ifTrue ifFalse => by
    rw [simplify]
    exact .conditional condition ifTrue ifFalse

theorem isNormal_simplifyEach : ∀ es : List Expr, ∀ arg ∈ simplifyEach es, IsNormal arg
  | [], arg, harg => absurd harg List.not_mem_nil
  | e :: es, arg, harg => by
    rw [simplifyEach] at harg
    rcases List.mem_cons.1 harg with rfl | harg
    · exact isNormal_simplify e
    · exact isNormal_simplifyEach es arg harg

end

/-! ## Fixed points -/

theorem simplifyEach_eq_self {es : List Expr} (h : ∀ e ∈ es, e.simplify = e) :
    simplifyEach es = es := by
  induction es with
  | nil => rfl
  | cons e es ih =>
    rw [simplifyEach, h e List.mem_cons_self, ih fun e he => h e (List.mem_cons_of_mem _ he)]

/-- Simplification leaves a normal form alone. -/
theorem IsNormal.simplify_eq (h : IsNormal e) : e.simplify = e := by
  induction h with
  | var | int | unknown | data | conditional => rw [simplify]
  | binary _ _ hstays ihleft ihright => rw [simplify, ihleft, ihright, hstays.mkBinary_eq]
  | unary _ hstays ih => rw [simplify, ih, hstays.mkUnary_eq]
  | deref _ _ ih | addressOf _ ih | field _ _ _ ih | cast _ _ ih => rw [simplify, ih]
  | assign _ _ ihleft ihright => rw [simplify, ihleft, ihright]
  | call _ _ _ ih | callThrough _ _ _ ih => rw [simplify, simplifyEach_eq_self ih]

/-- The normal forms are what simplification leaves alone. -/
theorem isNormal_iff_simplify_eq : IsNormal e ↔ e.simplify = e := by
  refine ⟨IsNormal.simplify_eq, fun h => ?_⟩
  rw [← h]
  exact isNormal_simplify e

/-- One pass is enough: a second one changes nothing. -/
theorem simplify_simplify (e : Expr) : e.simplify.simplify = e.simplify :=
  (isNormal_simplify e).simplify_eq

end UefiTyping.Expr
