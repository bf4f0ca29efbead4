import Mathlib.Data.List.Forall2
import UefiTyping.Proofs.CType.Alignment

/-!
# Building a struct step by step

A struct is built by adding fields, of which it places some itself and takes others where debug
information puts them, and by padding it. Nothing that stands is lost on the way: size and
alignment only grow, fields that are there stay as they are, each field ends inside the struct,
and a field that the struct places itself begins behind all the others. This needs no
assumption on alignments, since rounding never falls below the size.
-/
namespace UefiTyping

/-! ## Fields and their ends -/

/-- A field of a size in bytes ends by the byte `stop`, counted to the bit. -/
def Field.EndsBy {τ : Type} (field : Field τ) (size stop : Nat) : Prop :=
  field.offsetBits + 8 * size ≤ 8 * stop

theorem Field.EndsBy.mono {τ : Type} {field : Field τ} {size stop later : Nat}
    (h : field.EndsBy size stop) (hle : stop ≤ later) : field.EndsBy size later :=
  Nat.le_trans h (Nat.mul_le_mul_left 8 hle)

theorem Field.EndsBy.byteOffset_add_le {τ : Type} {field : Field τ} {size stop : Nat}
    (h : field.EndsBy size stop) : field.byteOffset + size ≤ stop := by
  rw [EndsBy] at h
  rw [byteOffset]
  omega

namespace StructType
variable {τ : Type}

/-- The fields of the struct take the given numbers of bytes, and all of them end inside it. -/
def Covers (layout : StructType τ) (sizes : List Nat) : Prop :=
  List.Forall₂ (fun field size => field.EndsBy size layout.size) layout.fields sizes

theorem Covers.imp {layout : StructType τ} {sizes : List Nat} (h : layout.Covers sizes)
    {stop : Nat} (hle : layout.size ≤ stop) :
    List.Forall₂ (fun field size => field.EndsBy size stop) layout.fields sizes :=
  List.Forall₂.imp (fun _ _ hends => hends.mono hle) h

/-- A struct grows into another: it gets no smaller, and keeps its alignment and its fields or
adds to them. -/
structure GrowsTo (before after : StructType τ) : Prop where
  size_le : before.size ≤ after.size
  alignment_le : before.alignment ≤ after.alignment
  fields_prefix : before.fields <+: after.fields

theorem GrowsTo.refl (layout : StructType τ) : layout.GrowsTo layout :=
  ⟨Nat.le_refl _, Nat.le_refl _, List.prefix_refl _⟩

theorem GrowsTo.trans {first second third : StructType τ} (h : first.GrowsTo second)
    (h' : second.GrowsTo third) : first.GrowsTo third :=
  ⟨h.size_le.trans h'.size_le, h.alignment_le.trans h'.alignment_le,
    h.fields_prefix.trans h'.fields_prefix⟩

/-! ## Single steps -/

/-- A step of building a struct. -/
inductive Step
  /-- Adds a field of the size and alignment that its type has by itself. -/
  | add (name : String) (type : CType)
  /-- Adds a field of a given size and alignment. -/
  | addSized (name : String) (type : CType) (size alignment : Nat)
  /-- Places a field at a bit offset. -/
  | addAtBits (name : String) (type : CType) (offsetBits : Nat)
  /-- Adds the padding behind the last field. -/
  | finish

namespace Step

/-- The struct after the step. -/
def apply (layout : StructType CType) : Step → StructType CType
  | .add name type => layout.add name type
  | .addSized name type size alignment => layout.addSized name type size alignment
  | .addAtBits name type offsetBits => layout.addAtBits name type offsetBits
  | .finish => layout.finish

/-- The bytes taken by the field that the step adds, for each field it adds. -/
def partSizes : Step → List Nat
  | .add _ type => [type.partSize]
  | .addSized _ _ size _ => [size]
  | .addAtBits _ type _ => [type.partSize]
  | .finish => []

/-- Whether the step adds a field and leaves the offset to the struct. -/
def isSequential : Step → Bool
  | .add .. | .addSized .. => true
  | .addAtBits .. | .finish => false

end Step

theorem growsTo_addSized (layout : StructType τ) (name : String) (type : τ)
    (size alignment : Nat) : layout.GrowsTo (layout.addSized name type size alignment) where
  size_le := (layout.size_le_nextOffset _).trans (Nat.le_add_right _ _)
  alignment_le := Nat.le_max_left _ _
  fields_prefix := List.prefix_append _ _

theorem growsTo_addAtBits (layout : StructType CType) (name : String) (type : CType)
    (offsetBits : Nat) : layout.GrowsTo (layout.addAtBits name type offsetBits) where
  size_le := Nat.le_max_left _ _
  alignment_le := Nat.le_refl _
  fields_prefix := List.prefix_append _ _

theorem growsTo_finish (layout : StructType τ) : layout.GrowsTo layout.finish := by
  rw [finish]
  split
  · exact ⟨le_alignUp _ _, Nat.le_refl _, List.prefix_refl _⟩
  · exact .refl layout

theorem growsTo_apply (layout : StructType CType) (step : Step) :
    layout.GrowsTo (step.apply layout) := by
  cases step with
  | add name type => exact layout.growsTo_addSized name type _ _
  | addSized name type size alignment => exact layout.growsTo_addSized name type size alignment
  | addAtBits name type offsetBits => exact layout.growsTo_addAtBits name type offsetBits
  | finish => exact layout.growsTo_finish

theorem Covers.addSized {layout : StructType τ} {sizes : List Nat} (h : layout.Covers sizes)
    (name : String) (type : τ) (size alignment : Nat) :
    (layout.addSized name type size alignment).Covers (sizes ++ [size]) := by
  refine List.rel_append (h.imp (layout.growsTo_addSized name type size alignment).size_le)
    (.cons ?_ .nil)
  show 8 * _ + 8 * size ≤ 8 * (_ + size)
  omega

theorem Covers.addAtBits {layout : StructType CType} {sizes : List Nat} (h : layout.Covers sizes)
    (name : String) (type : CType) (offsetBits : Nat) :
    (layout.addAtBits name type offsetBits).Covers (sizes ++ [type.partSize]) := by
  refine List.rel_append (h.imp (layout.growsTo_addAtBits name type offsetBits).size_le)
    (.cons ?_ .nil)
  show offsetBits + 8 * type.partSize ≤
    8 * max layout.size ((offsetBits + 7) / 8 + type.partSize)
  omega

theorem Covers.finish {layout : StructType τ} {sizes : List Nat} (h : layout.Covers sizes) :
    layout.finish.Covers sizes := by
  have hfields : layout.finish.fields = layout.fields := by
    rw [StructType.finish]
    split <;> rfl
  rw [Covers, hfields]
  exact h.imp layout.growsTo_finish.size_le

theorem Covers.apply {layout : StructType CType} {sizes : List Nat} (h : layout.Covers sizes)
    (step : Step) : (step.apply layout).Covers (sizes ++ step.partSizes) := by
  cases step with
  | add name type => exact h.addSized name type _ _
  | addSized name type size alignment => exact h.addSized name type size alignment
  | addAtBits name type offsetBits => exact h.addAtBits name type offsetBits
  | finish =>
    rw [Step.partSizes, List.append_nil]
    exact h.finish

/-- A field that the struct places itself begins behind the fields that are there. -/
theorem Covers.exists_addSized {layout : StructType τ} {sizes : List Nat} (h : layout.Covers sizes)
    (name : String) (type : τ) (size alignment : Nat) :
    ∃ field, (layout.addSized name type size alignment).fields = layout.fields ++ [field] ∧
      List.Forall₂ (fun previous size => previous.EndsBy size field.byteOffset)
        layout.fields sizes := by
  refine ⟨_, rfl, h.imp ?_⟩
  rw [Field.byteOffset, Nat.mul_div_cancel_left _ (by decide)]
  exact layout.size_le_nextOffset _

theorem Covers.exists_apply {layout : StructType CType} {sizes : List Nat}
    (h : layout.Covers sizes) {step : Step} (hstep : step.isSequential = true) :
    ∃ field, (step.apply layout).fields = layout.fields ++ [field] ∧
      List.Forall₂ (fun previous size => previous.EndsBy size field.byteOffset)
        layout.fields sizes := by
  cases step with
  | add name type => exact h.exists_addSized name type _ _
  | addSized name type size alignment => exact h.exists_addSized name type size alignment
  | addAtBits => cases hstep
  | finish => cases hstep

/-! ## Sequences of steps -/

/-- The struct after steps, one after another. -/
def build (layout : StructType CType) (steps : List Step) : StructType CType :=
  steps.foldl Step.apply layout

theorem build_append (layout : StructType CType) (earlier later : List Step) :
    layout.build (earlier ++ later) = (layout.build earlier).build later :=
  List.foldl_append

theorem growsTo_build (layout : StructType CType) (steps : List Step) :
    layout.GrowsTo (layout.build steps) := by
  induction steps generalizing layout with
  | nil => exact .refl layout
  | cons step steps ih => exact (layout.growsTo_apply step).trans (ih _)

theorem Covers.build {layout : StructType CType} {sizes : List Nat} (h : layout.Covers sizes)
    (steps : List Step) : (layout.build steps).Covers (sizes ++ steps.flatMap Step.partSizes) := by
  induction steps generalizing layout sizes with
  | nil =>
    rw [List.flatMap_nil, List.append_nil]
    exact h
  | cons step steps ih =>
    rw [List.flatMap_cons, ← List.append_assoc]
    exact ih (h.apply step)

/-- Steps in any order, on a struct whose fields end inside it, let it only grow: size and
alignment never fall, fields that are there stay, and all fields end inside the struct. A field
that it places itself begins behind all that were there before, also those that were placed at
a bit offset. -/
theorem build_keeps_fields (start : StructType CType) {sizes : List Nat}
    (hstart : start.Covers sizes) (earlier later : List Step) :
    let before := start.build earlier
    let after := start.build (earlier ++ later)
    (before.size ≤ after.size ∧ before.alignment ≤ after.alignment ∧
        before.fields <+: after.fields) ∧
      List.Forall₂ (fun field size => field.byteOffset + size ≤ after.size)
        after.fields (sizes ++ (earlier ++ later).flatMap Step.partSizes) ∧
      ∀ step rest, later = step :: rest → step.isSequential = true →
        ∃ field, before.fields ++ [field] <+: after.fields ∧
          List.Forall₂ (fun previous size => previous.EndsBy size field.byteOffset)
            before.fields (sizes ++ earlier.flatMap Step.partSizes) := by
  intro before after
  have hafter : after = before.build later := start.build_append earlier later
  have hgrows : before.GrowsTo after := hafter ▸ before.growsTo_build later
  have hcovers : after.Covers (sizes ++ (earlier ++ later).flatMap Step.partSizes) :=
    hstart.build (earlier ++ later)
  refine ⟨⟨hgrows.size_le, hgrows.alignment_le, hgrows.fields_prefix⟩,
    List.Forall₂.imp (fun _ _ hends => hends.byteOffset_add_le) hcovers, ?_⟩
  rintro step rest rfl hstep
  obtain ⟨field, hfields, hbehind⟩ := (hstart.build earlier).exists_apply hstep
  have hrest : (step.apply before).GrowsTo after := hafter ▸ growsTo_build _ rest
  exact ⟨field, hfields ▸ hrest.fields_prefix, hbehind⟩

/-- A field at bit 35 of a struct, and behind it a field of an alignment that is no power of
two. -/
theorem build_keeps_fields_mask :
    let start : StructType CType := .empty (some "FLAGS")
    let earlier : List Step := [.addAtBits "high" .uint 35, .finish]
    let later : List Step := [.addSized "mask" (.named "MASK") 5 3, .add "tail" .char, .finish]
    let after := start.build (earlier ++ later)
    start.Covers [] ∧ after.fields.map Field.byteOffset = [4, 9, 14] ∧
      List.Forall₂ (fun field size => field.byteOffset + size ≤ after.size) after.fields
        [4, 5, 1] ∧
      ∃ field, (start.build earlier).fields ++ [field] <+: after.fields ∧
        List.Forall₂ (fun previous size => previous.EndsBy size field.byteOffset)
          (start.build earlier).fields [4] := by
  intro start earlier later after
  have hstart : start.Covers [] := .nil
  obtain ⟨-, hinside, hbehind⟩ := build_keeps_fields start hstart earlier later
  exact ⟨hstart, by decide, hinside, hbehind _ _ rfl rfl⟩

end StructType
end UefiTyping
