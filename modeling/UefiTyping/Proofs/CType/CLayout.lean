import Mathlib.Data.List.Chain
import UefiTyping.Proofs.CType.Alignment

/-!
# The layout of C

C places the fields of a struct in the order of their declaration, the first at the start and
each other one at the least multiple of its alignment behind the one before. The struct has
the greatest of their alignments, and as its size the least multiple of that behind the last
field. The definitions say so of a struct without naming the way in which it was built.

A struct that is not packed is laid out like this when all alignments are powers of two: each
field that is added keeps the fields in such a sequence, with the struct ending where its last
field ends, and the padding at the end rounds that up.
-/
namespace UefiTyping

variable {τ : Type} {size alignment : τ → Nat} {declared : List (String × τ)}

/-- Where a field ends, in bytes, for types of the given sizes. -/
def Field.byteEnd (size : τ → Nat) (field : Field τ) : Nat := field.byteOffset + size field.type

/-- Where the last of some fields ends, in bytes: at the start when there is none. -/
def lastEnd (size : τ → Nat) (fields : List (Field τ)) : Nat :=
  (fields.getLast?.map (Field.byteEnd size)).getD 0

theorem lastEnd_concat (size : τ → Nat) (fields : List (Field τ)) (field : Field τ) :
    lastEnd size (fields ++ [field]) = field.byteEnd size := by
  rw [lastEnd, List.getLast?_concat]
  rfl

theorem lastEnd_of_mem {fields : List (Field τ)} {last : Field τ}
    (h : last ∈ fields.getLast?) : lastEnd size fields = last.byteEnd size := by
  rw [lastEnd, Option.mem_def.1 h]
  rfl

namespace StructType
variable {layout : StructType τ}

/-! ## What a layout is -/

/-- The struct has the declared fields in sequence, each at the least multiple of its alignment
behind the one before and the first at the start, and the greatest of their alignments. -/
structure IsSequence (size alignment : τ → Nat) (declared : List (String × τ))
    (layout : StructType τ) : Prop where
  declared_eq : layout.fields.map (fun field => (field.name, field.type)) = declared
  wholeBytes : ∀ field ∈ layout.fields, field.offsetBits = 8 * field.byteOffset
  first_eq : ∀ field ∈ layout.fields.head?, field.byteOffset = 0
  next_isLeast : layout.fields.IsChain fun previous field =>
    IsLeast {offset | previous.byteEnd size ≤ offset ∧ alignment field.type ∣ offset}
      field.byteOffset
  alignment_isGreatest : IsGreatest (partAlignments alignment declared) layout.alignment

/-- The struct is laid out as C does it: its fields are in sequence, and its size is the least
multiple of its alignment behind the last of them. -/
structure IsCLayout (size alignment : τ → Nat) (declared : List (String × τ))
    (layout : StructType τ) : Prop extends IsSequence size alignment declared layout where
  size_isLeast : IsLeast {total | lastEnd size layout.fields ≤ total ∧ layout.alignment ∣ total}
    layout.size

/-- Each field starts at a multiple of its alignment. -/
theorem IsSequence.aligned (h : layout.IsSequence size alignment declared) :
    ∀ field ∈ layout.fields, alignment field.type ∣ field.byteOffset := by
  refine h.next_isLeast.induction (fun field => alignment field.type ∣ field.byteOffset) _
    (fun _ _ hleast _ => hleast.1.2) fun hne => ?_
  rw [h.first_eq _ (List.head_mem_head? hne)]
  exact Nat.dvd_zero _

/-- Each field ends before every later one starts. -/
theorem IsSequence.disjoint (h : layout.IsSequence size alignment declared) :
    layout.fields.Pairwise fun previous field => previous.byteEnd size ≤ field.byteOffset := by
  let Before : Field τ → Field τ → Prop := fun previous field =>
    previous.byteEnd size ≤ field.byteOffset
  have htrans : Trans Before Before Before :=
    ⟨fun hle hle' => hle.trans ((Nat.le_add_right _ _).trans hle')⟩
  have hchain : layout.fields.IsChain Before := h.next_isLeast.imp fun _ _ hleast => hleast.1.1
  exact hchain.pairwise

/-! ## Laying a struct out -/

/-- A struct in the middle of being laid out, which ends where its last field ends. -/
structure IsOpen (size alignment : τ → Nat) (declared : List (String × τ))
    (layout : StructType τ) : Prop extends IsSequence size alignment declared layout where
  packed_eq : layout.packed = false
  size_eq : layout.size = lastEnd size layout.fields

theorem isOpen_empty (tag : Option String) :
    (StructType.empty tag : StructType τ).IsOpen size alignment [] where
  declared_eq := rfl
  wholeBytes := fun _ hfield => absurd hfield List.not_mem_nil
  first_eq := fun _ hfield => absurd hfield (Option.not_mem_none _)
  next_isLeast := .nil
  alignment_isGreatest := partAlignments_nil
  packed_eq := rfl
  size_eq := rfl

/-- Where an open struct places its next field. -/
theorem IsOpen.nextOffset_isLeast (h : layout.IsOpen size alignment declared) {next : Nat}
    (hpow : next.isPowerOfTwo) :
    IsLeast {offset | lastEnd size layout.fields ≤ offset ∧ next ∣ offset}
      (layout.nextOffset next) := by
  rw [nextOffset, h.packed_eq, if_neg Bool.false_ne_true, ← h.size_eq]
  exact isLeast_alignUp hpow _

/-- One more field: it goes to the least multiple of its alignment behind the last one. -/
theorem IsOpen.addSized (h : layout.IsOpen size alignment declared) (name : String) {type : τ}
    {given : Nat} (hgiven : max given 1 = alignment type) (hpow : (alignment type).isPowerOfTwo) :
    (layout.addSized name type (size type) given).IsOpen size alignment
      (declared ++ [(name, type)]) := by
  have hleast := h.nextOffset_isLeast hpow
  let offset := layout.nextOffset (alignment type)
  let field : Field τ := ⟨name, type, 8 * offset⟩
  have hoffset : field.byteOffset = offset := Nat.mul_div_cancel_left _ (by decide)
  have hadded : layout.addSized name type (size type) given =
      { layout with
        fields := layout.fields ++ [field]
        size := offset + size type
        alignment := max layout.alignment (alignment type) } := by
    rw [StructType.addSized, hgiven]
  rw [hadded]
  refine { declared_eq := ?_, wholeBytes := ?_, first_eq := ?_, next_isLeast := ?_,
           alignment_isGreatest := ?_, packed_eq := h.packed_eq, size_eq := ?_ }
  · rw [List.map_append, h.declared_eq]
    rfl
  · intro other hother
    rcases List.mem_append.1 hother with hother | hother
    · exact h.wholeBytes other hother
    · rw [List.mem_singleton.1 hother, hoffset]
  · intro first hfirst
    cases hfields : layout.fields with
    | nil =>
      rw [hfields] at hfirst hleast
      obtain rfl := Option.some.inj hfirst
      rw [hoffset]
      exact Nat.le_zero.1 (hleast.2 ⟨Nat.le_refl 0, Nat.dvd_zero _⟩)
    | cons head rest =>
      rw [hfields] at hfirst
      exact h.first_eq first (by rw [hfields]; exact hfirst)
  · refine List.isChain_append.2 ⟨h.next_isLeast, .singleton _, ?_⟩
    intro last hlast next hnext
    obtain rfl := Option.some.inj hnext
    rw [hoffset, ← lastEnd_of_mem hlast]
    exact hleast
  · exact isGreatest_partAlignments_append h.alignment_isGreatest (name, type)
  · rw [lastEnd_concat, Field.byteEnd, hoffset]

/-- Fields of given sizes and alignments, added one after another. -/
theorem IsOpen.foldl_addSized (h : layout.IsOpen size alignment declared) (given : τ → Nat)
    {fields : List (String × τ)}
    (hfields : ∀ field ∈ fields, max (given field.2) 1 = alignment field.2 ∧
      (alignment field.2).isPowerOfTwo) :
    (fields.foldl (fun layout field =>
        layout.addSized field.1 field.2 (size field.2) (given field.2)) layout).IsOpen
      size alignment (declared ++ fields) := by
  refine foldl_parts (motive := IsOpen size alignment) (fun added state field hfield hopen => ?_) h
  obtain ⟨hgiven, hpow⟩ := hfields field hfield
  exact hopen.addSized field.1 hgiven hpow

/-- The padding at the end completes the layout. -/
theorem IsOpen.finish (h : layout.IsOpen size alignment declared)
    (hpow : ∀ field ∈ declared, (alignment field.2).isPowerOfTwo) :
    layout.finish.IsCLayout size alignment declared := by
  have hround := isLeast_alignUp
    (isPowerOfTwo_of_isGreatest h.alignment_isGreatest hpow) layout.size
  have hone : 1 ≤ layout.alignment := h.alignment_isGreatest.2 (.inl rfl)
  rw [h.size_eq] at hround
  rw [StructType.finish, h.size_eq]
  split
  case isTrue => exact { h.toIsSequence with size_isLeast := hround }
  case isFalse hguard =>
    -- A struct whose alignment is one needs no padding.
    have hnarrow : ¬ 1 < layout.alignment := fun hwide => hguard ⟨h.packed_eq, hwide⟩
    have halignment : layout.alignment = 1 := by omega
    refine { h.toIsSequence with size_isLeast := ?_ }
    rw [halignment, alignUp_one] at hround
    rw [halignment, h.size_eq]
    exact hround

end StructType
end UefiTyping
