import Mathlib.Data.List.Forall2
import UefiTyping.Proofs.Expr.ConstantAddress

/-!
# The meaning that simplification keeps

An interpretation says what the parts of an expression come to that no operator computes:
variables, memory, fields, calls. Under an interpretation an expression comes to one word or
to none, for an operator can be undefined and not everything has an address.

Simplification never changes the word. It works from the leaves up, so this is shown layer by
layer: a layer that is rebuilt over parts which keep their words and their addresses keeps its
own.
-/
namespace UefiTyping

/-- What the parts of an expression hold that no operator computes. Variables, loads, fields
and direct calls have a word for each way they can be reached; what is not computed at all
may also have none. -/
structure Interpretation where
  held : Variable → Word
  /-- The address of a variable. -/
  place : Variable → Word
  loaded : Word → UInt8 → Word
  /-- A field by the pointer it is reached through and its offset. -/
  field : Word → UInt64 → Word
  fieldPlace : Word → UInt64 → Word
  returned : Callee → List Word → Option UInt64 → Word
  /-- What comes back from a call through a pointer, by how the pointer is written and the
  word it comes to, if it comes to one. -/
  returnedThrough : Expr → Option Word → List Word → Option UInt64 → Option Word
  referred : DataReference → Expr → Option Word
  chosen : Expr → Expr → Expr → Option Word
  unknown : String → Option Word

namespace Expr

mutual

/-- The word that an expression comes to. A node needs the words of its operands. -/
def value? (I : Interpretation) : Expr → Option Word
  | .var place => some (I.held place)
  | .int value => some value
  | .binary op left right => do op.value? (← left.value? I) (← right.value? I)
  | .unary op operand => do return op.value (← operand.value? I)
  | .deref address size => do return I.loaded (← address.value? I) size
  | .data reference shown => I.referred reference shown
  | .addressOf inner => inner.address? I
  | .field base _ offset => do return I.field (← base.value? I) offset
  | .call callee args site => do return I.returned callee (← values? I args) site
  | .callThrough target args site => do
    I.returnedThrough target (target.value? I) (← values? I args) site
  | .assign _ right => right.value? I
  | .conditional condition ifTrue ifFalse => I.chosen condition ifTrue ifFalse
  | .cast inner _ => inner.value? I
  | .unknown text => I.unknown text

/-- The address of what an expression names: of a variable, of what is loaded, of a field. Casts
do not hide it, and nothing else has one. -/
def address? (I : Interpretation) : Expr → Option Word
  | .var place => some (I.place place)
  | .deref address _ => address.value? I
  | .data reference _ => if reference.isLoad then some (.ofAddress reference.address) else none
  | .field base _ offset => do return I.fieldPlace (← base.value? I) offset
  | .cast inner _ => inner.address? I
  | .int _ | .binary .. | .unary .. | .addressOf _ | .call .. | .callThrough .. | .assign ..
  | .conditional .. | .unknown _ => none

/-- The words that expressions come to, one by one. -/
def values? (I : Interpretation) : List Expr → Option (List Word)
  | [] => some []
  | e :: es => do return (← e.value? I) :: (← values? I es)

end

/-- Operators have their arithmetic in every interpretation. -/
theorem isArithmetic_value? (I : Interpretation) :
    IsArithmetic fun e v => e.value? I = some v where
  int_iff := by
    intro value v
    rw [value?, Option.some.injEq, eq_comm]
  binary_iff := by
    intro op left right v
    simp only [value?, Option.bind_eq_bind, Option.bind_eq_some_iff]
    constructor
    · rintro ⟨a, ha, b, hb, hop⟩
      exact ⟨a, b, ha, hb, hop⟩
    · rintro ⟨a, b, ha, hb, hop⟩
      exact ⟨a, ha, b, hb, hop⟩
  unary_iff := by
    intro op operand v
    simp only [value?, Option.bind_eq_bind, Option.bind_eq_some_iff, Option.pure_def,
      Option.some.injEq]
    constructor
    · rintro ⟨a, ha, rfl⟩
      exact ⟨a, ha, rfl⟩
    · rintro ⟨a, ha, rfl⟩
      exact ⟨a, ha, rfl⟩
  var_unique := by
    intro place v w hv hw
    exact Option.some.inj (hv.symm.trans hw)
  deref_unique := by
    intro address size _ v w hv hw
    exact Option.some.inj (hv.symm.trans hw)

/-! ## One layer -/

/-- The second expression comes to the word that the first comes to, if it comes to one, and
has the same address. -/
structure Keeps (I : Interpretation) (e e' : Expr) : Prop where
  value : ∀ {v}, e.value? I = some v → e'.value? I = some v
  address : ∀ {v}, e.address? I = some v → e'.address? I = some v

namespace Keeps
variable {I : Interpretation} {e e' left left' right right' : Expr} {args args' : List Expr}

theorem refl (e : Expr) : Keeps I e e := ⟨id, id⟩

/-- Where nothing has an address only the word is to be kept. -/
theorem of_value (haddress : e.address? I = none)
    (hvalue : ∀ {v}, e.value? I = some v → e'.value? I = some v) : Keeps I e e' where
  value := hvalue
  address hv := by
    rw [haddress] at hv
    cases hv

/-- What follows on a word follows on the same word of another part. -/
theorem bind_of_keeps {α β : Type} {part part' : Option α} {rest : α → Option β} {w : β}
    (h : ∀ {v}, part = some v → part' = some v) (hw : part.bind rest = some w) :
    part'.bind rest = some w := by
  obtain ⟨v, hv, hrest⟩ := Option.bind_eq_some_iff.1 hw
  exact Option.bind_eq_some_iff.2 ⟨v, h hv, hrest⟩

theorem binary (op : BinaryOp) (hleft : Keeps I left left') (hright : Keeps I right right') :
    Keeps I (.binary op left right) (mkBinary op left' right') := by
  refine of_value rfl fun hv => ?_
  have H := isArithmetic_value? I
  obtain ⟨a, b, ha, hb, hop⟩ := H.binary_iff.1 hv
  exact H.mkBinary_sound (H.binary_iff.2 ⟨a, b, hleft.value ha, hright.value hb, hop⟩)

theorem unary (op : UnaryOp) (h : Keeps I e e') : Keeps I (.unary op e) (mkUnary op e') := by
  refine of_value rfl fun hv => ?_
  have H := isArithmetic_value? I
  obtain ⟨a, ha, hop⟩ := H.unary_iff.1 hv
  exact H.mkUnary_sound (H.unary_iff.2 ⟨a, h.value ha, hop⟩)

-- By definition, what a layer comes to is a bind over what its parts come to.

theorem deref (size : UInt8) (h : Keeps I e e') : Keeps I (.deref e size) (.deref e' size) where
  value hv := bind_of_keeps h.value hv
  address hv := h.value hv

theorem addressOf (h : Keeps I e e') : Keeps I (.addressOf e) (.addressOf e') := by
  refine of_value rfl fun {v} hv => ?_
  have haddress : e.address? I = some v := hv
  exact h.address haddress

theorem cast (type : CType) (h : Keeps I e e') : Keeps I (.cast e type) (.cast e' type) where
  value hv := h.value hv
  address hv := h.address hv

theorem field (name : String) (offset : UInt64) (h : Keeps I e e') :
    Keeps I (.field e name offset) (.field e' name offset) where
  value hv := bind_of_keeps h.value hv
  address hv := bind_of_keeps h.value hv

theorem assign (left left' : Expr) (hright : Keeps I right right') :
    Keeps I (.assign left right) (.assign left' right') := by
  refine of_value rfl fun {v} hv => ?_
  have hassigned : right.value? I = some v := hv
  exact hright.value hassigned

theorem values?_eq {words : List Word} (h : List.Forall₂ (Keeps I) args args')
    (hwords : values? I args = some words) : values? I args' = some words := by
  induction h generalizing words with
  | nil => exact hwords
  | cons hhead _ ih =>
    obtain ⟨head, hv, hrest⟩ := Option.bind_eq_some_iff.1 hwords
    exact Option.bind_eq_some_iff.2 ⟨head, hhead.value hv, bind_of_keeps ih hrest⟩

theorem call (callee : Callee) (site : Option UInt64) (h : List.Forall₂ (Keeps I) args args') :
    Keeps I (.call callee args site) (.call callee args' site) := by
  refine of_value rfl fun hv => ?_
  exact bind_of_keeps (values?_eq h) hv

/-- The pointer itself is not simplified. -/
theorem callThrough (target : Expr) (site : Option UInt64)
    (h : List.Forall₂ (Keeps I) args args') :
    Keeps I (.callThrough target args site) (.callThrough target args' site) := by
  refine of_value rfl fun hv => ?_
  exact bind_of_keeps (values?_eq h) hv

end Keeps

/-! ## All layers -/

mutual

theorem keeps_simplify (I : Interpretation) : ∀ e : Expr, Keeps I e e.simplify
  | .binary op left right => by
    rw [simplify]
    exact .binary op (keeps_simplify I left) (keeps_simplify I right)
  | .unary op operand => by
    rw [simplify]
    exact .unary op (keeps_simplify I operand)
  | .deref address size => by
    rw [simplify]
    exact .deref size (keeps_simplify I address)
  | .addressOf inner => by
    rw [simplify]
    exact .addressOf (keeps_simplify I inner)
  | .cast inner type => by
    rw [simplify]
    exact .cast type (keeps_simplify I inner)
  | .field base name offset => by
    rw [simplify]
    exact .field name offset (keeps_simplify I base)
  | .assign left right => by
    rw [simplify]
    exact .assign left left.simplify (keeps_simplify I right)
  | .call callee args site => by
    rw [simplify]
    exact .call callee site (forall₂_keeps_simplifyEach I args)
  | .callThrough target args site => by
    rw [simplify]
    exact .callThrough target site (forall₂_keeps_simplifyEach I args)
  | .var _ | .int _ | .data .. | .conditional .. | .unknown _ => by
    rw [simplify]
    exact .refl _

theorem forall₂_keeps_simplifyEach (I : Interpretation) :
    ∀ es : List Expr, List.Forall₂ (Keeps I) es (simplifyEach es)
  | [] => .nil
  | e :: es => .cons (keeps_simplify I e) (forall₂_keeps_simplifyEach I es)

end

/-- An expression that comes to a word comes to the same word when it is simplified, whatever
variables, memory and calls hold. -/
theorem value?_simplify (I : Interpretation) {e : Expr} {v : Word} (h : e.value? I = some v) :
    e.simplify.value? I = some v :=
  (keeps_simplify I e).value h

/-- Two loads that cancel, a sign that is dropped twice from the least word, and the address of
a field behind a cast, in the argument of a call. -/
theorem value?_simplify_call :
    let x : Expr := .var (.register 1 "rcx" 8)
    let least : Expr := .int (.intMin 128)
    let next : Expr := .addressOf (.cast (.field (.binary .or x (.int 0)) "Next" 8) .voidPointer)
    let e : Expr := .call (.named "f")
      [.binary .add (.binary .sub (.deref x 8) (.deref x 8)) next, .unary .neg (.unary .neg least),
        .unary .logicalNot (.unary .logicalNot x)] none
    let I : Interpretation :=
      ⟨fun _ => 0x40, fun _ => 0, fun _ _ => 7, fun _ _ => 0,
        fun base offset => base + .ofAddress offset, fun _ args _ => args.foldr (· + ·) 0,
        fun _ _ _ _ => none, fun _ _ => none, fun _ _ _ => none, fun _ => none⟩
    e.value? I = some (.intMin 128 + 0x49) ∧
      e.simplify = .call (.named "f")
        [.addressOf (.cast (.field x "Next" 8) .voidPointer), least,
          .unary .logicalNot (.unary .logicalNot x)] none ∧
      e.simplify.value? I = some (.intMin 128 + 0x49) := by
  intro x least next e I
  have hvalue : e.value? I = some (.intMin 128 + 0x49) := by decide +kernel
  exact ⟨hvalue, by rfl, value?_simplify I hvalue⟩

end Expr
end UefiTyping
