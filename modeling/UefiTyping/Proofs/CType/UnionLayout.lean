import UefiTyping.Proofs.CType.Alignment
import UefiTyping.Proofs.CType.WordSize

/-!
# Layout of a union

The members of a union share its start. The union has the size of its largest member and the
greatest alignment, and that is all: its size is not padded to its alignment. What C asks for,
the least multiple of the alignment that holds every member, is the size rounded up; the two
are the same exactly if the largest member ends at a multiple of the alignment.

The size of a union is the greatest of sizes that are there already. So words hold it whenever
they hold the sizes of the members.
-/
namespace UefiTyping.UnionType

variable {members : List (String × CType)} {layout : UnionType CType}

/-- The union has the members in order, the greatest of their alignments and the least size that
holds each of them. -/
structure Spans (members : List (String × CType)) (layout : UnionType CType) : Prop where
  members_eq : layout.members.map (fun member => (member.name, member.type)) = members
  alignment_isGreatest : IsGreatest (partAlignments CType.partAlignment members) layout.alignment
  size_isLeast : IsLeast {size | ∀ member ∈ members, member.2.partSize ≤ size} layout.size

theorem spans_empty (tag : Option String) : (empty tag).Spans [] where
  members_eq := rfl
  alignment_isGreatest := partAlignments_nil
  size_isLeast := ⟨fun _ hmember => absurd hmember List.not_mem_nil, fun size _ => Nat.zero_le size⟩

/-- One more member widens the union to its own size and alignment. -/
theorem Spans.add (h : layout.Spans members) (name : String) (type : CType) :
    (layout.add name type).Spans (members ++ [(name, type)]) where
  members_eq := by
    rw [UnionType.add, List.map_append, h.members_eq]
    rfl
  alignment_isGreatest := by
    have hone : 1 ≤ layout.alignment := h.alignment_isGreatest.2 (.inl rfl)
    -- The alignment is at least one before, so counting zero as one makes no difference.
    have halignment : (layout.add name type).alignment =
        max layout.alignment type.partAlignment := by
      show max layout.alignment (type.alignment.getD 1) = max layout.alignment (max _ 1)
      omega
    rw [halignment]
    exact isGreatest_partAlignments_append h.alignment_isGreatest (name, type)
  size_isLeast := by
    constructor
    · intro member hmember
      rcases List.mem_append.1 hmember with hmember | hmember
      · exact (h.size_isLeast.1 member hmember).trans (Nat.le_max_left _ _)
      · rw [List.mem_singleton.1 hmember]
        exact Nat.le_max_right _ _
    · intro size hholds
      have hrest := h.size_isLeast.2 fun member hmember =>
        hholds member (List.mem_append_left _ hmember)
      exact Nat.max_le.2 ⟨hrest, hholds (name, type) List.mem_concat_self⟩

/-- The union of members, added one after another. -/
def ofMembers (tag : Option String) (members : List (String × CType)) : UnionType CType :=
  members.foldl (fun layout member => layout.add member.1 member.2) (empty tag)

theorem spans_ofMembers (tag : Option String) (members : List (String × CType)) :
    (ofMembers tag members).Spans members :=
  foldl_parts (motive := Spans) (fun _ _ member _ hspans => hspans.add member.1 member.2)
    (spans_empty tag)

/-- Rounded up to the alignment, the size of a union is the one that C gives it. -/
theorem Spans.alignUp_isLeast (h : layout.Spans members)
    (hpow : ∀ member ∈ members, member.2.partAlignment.isPowerOfTwo) :
    IsLeast {size | layout.alignment ∣ size ∧ ∀ member ∈ members, member.2.partSize ≤ size}
      (alignUp layout.size layout.alignment) := by
  have hround := isLeast_alignUp (isPowerOfTwo_of_isGreatest h.alignment_isGreatest hpow)
    layout.size
  refine ⟨⟨hround.1.2, fun member hmember => ?_⟩, fun size hsize => ?_⟩
  · exact (h.size_isLeast.1 member hmember).trans hround.1.1
  · exact hround.2 ⟨h.size_isLeast.2 hsize.2, hsize.1⟩

/-- The size in words of a union of members, added one after another. -/
def wordSizeOf (members : List (String × CType)) : UInt64 :=
  members.foldl (fun size member => max size (member.2.wordSize.getD 0)) 0

/-- One more member is compared in words as it is in natural numbers. -/
theorem toNat_wordSizeOf (tag : Option String)
    (hfits : ∀ member ∈ members, member.2.SizesFit) :
    (wordSizeOf members).toNat = (ofMembers tag members).size := by
  let Same (members : List (String × CType)) (layout : UnionType CType) : Prop :=
    (wordSizeOf members).toNat = layout.size
  have hempty : Same [] (empty tag) := rfl
  refine foldl_parts (motive := Same) (fun added layout member hmember hsame => ?_) hempty
  have hadded : wordSizeOf (added ++ [member]) =
      max (wordSizeOf added) (member.2.wordSize.getD 0) := List.foldl_append
  have hsize := CType.toNat_wordSize_getD (hfits member hmember)
  show (wordSizeOf (added ++ [member])).toNat = max layout.size (member.2.size.getD 0)
  rw [hadded, UInt64.toNat_max, hsame, hsize]

/-- A union has its members in order, the greatest of one and their alignments, and the size of
the largest. Rounding that up to the alignment gives the size of C, so that the union has the
layout of C exactly if its size is a multiple of its alignment. In words the size is the same, as
long as they hold the sizes of the members. -/
theorem ofMembers_size_iff (tag : Option String)
    (hpow : ∀ member ∈ members, member.2.partAlignment.isPowerOfTwo) :
    let layout := ofMembers tag members
    let fits : Set Nat :=
      {size | layout.alignment ∣ size ∧ ∀ member ∈ members, member.2.partSize ≤ size}
    layout.members.map (fun member => (member.name, member.type)) = members ∧
      IsGreatest (partAlignments CType.partAlignment members) layout.alignment ∧
      IsLeast {size | ∀ member ∈ members, member.2.partSize ≤ size} layout.size ∧
      IsLeast fits (alignUp layout.size layout.alignment) ∧
      (IsLeast fits layout.size ↔ layout.alignment ∣ layout.size) ∧
      ((∀ member ∈ members, member.2.SizesFit) →
        (wordSizeOf members).toNat = layout.size) := by
  intro layout fits
  have hspans : layout.Spans members := spans_ofMembers tag members
  have hround := hspans.alignUp_isLeast hpow
  refine ⟨hspans.members_eq, hspans.alignment_isGreatest, hspans.size_isLeast, hround, ?_,
    toNat_wordSizeOf tag⟩
  constructor
  · exact fun hleast => hleast.1.1
  · intro hdvd
    exact ⟨⟨hdvd, hspans.size_isLeast.1⟩, fun size hsize => hspans.size_isLeast.2 hsize.2⟩

/-- A word and sixteen bytes, which end at a multiple of its alignment. -/
theorem ofMembers_size_iff_bytes :
    let members : List (String × CType) :=
      [("word", .ulongLong), ("bytes", .array .uchar (some 16))]
    let layout := ofMembers (some "VALUE") members
    (∀ member ∈ members, member.2.partAlignment.isPowerOfTwo) ∧ layout.size = 16 ∧
      IsLeast {size | layout.alignment ∣ size ∧ ∀ member ∈ members, member.2.partSize ≤ size}
        layout.size ∧ (wordSizeOf members).toNat = 16 := by
  intro members layout
  have hpow : ∀ member ∈ members, member.2.partAlignment.isPowerOfTwo := by decide
  have hfits : ∀ member ∈ members, member.2.SizesFit := by
    simp [members, CType.SizesFit, CType.ulongLong, CType.uchar, CType.size, UInt64.size]
  obtain ⟨-, -, -, -, hiff, hwords⟩ := ofMembers_size_iff (some "VALUE") hpow
  exact ⟨hpow, by decide, hiff.2 (by decide), hwords hfits⟩

/-- A union of five characters and an integer has five bytes, where the least multiple of its
alignment that holds both is eight. -/
theorem ofMembers_text_size :
    let members : List (String × CType) := [("text", .array .char (some 5)), ("value", .sint)]
    let layout := ofMembers (some "VALUE") members
    (∀ member ∈ members, member.2.partAlignment.isPowerOfTwo) ∧
      (CType.union layout).size = some 5 ∧ (CType.union layout).alignment = some 4 ∧
      ¬ IsLeast {size | layout.alignment ∣ size ∧ ∀ member ∈ members, member.2.partSize ≤ size}
        layout.size := by
  intro members layout
  refine ⟨by decide, by decide, by decide, fun hleast => ?_⟩
  have hdvd : layout.alignment ∣ layout.size := hleast.1.1
  exact absurd hdvd (by decide)

end UefiTyping.UnionType
