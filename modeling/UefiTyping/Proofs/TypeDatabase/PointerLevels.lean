import Mathlib.Data.Nat.Find
import UefiTyping.Proofs.TypeDatabase.Chain
import UefiTyping.TypeDatabase.Scalar

/-!
# Arrays of scalars by the number of pointers

The types behind the pointers of an element form a chain: the element, what the pointer that it
resolves to points to, and so on. An array counts as one of scalars when a scalar stands on its
chain at a level within the depth. The first level with a scalar is a threshold: below it the
array is refused, and from it on it is accepted. An array without one is refused at every depth,
whether the chain ends in something else or goes round.
-/
namespace UefiTyping.TypeDatabase

variable {db : TypeDatabase} {type element : CType} {depth level : Nat}

/-! ## Levels -/

/-- What the pointer that a type resolves to points to. -/
def pointee? (db : TypeDatabase) (type : CType) : Option CType :=
  (db.resolve type).bind CType.target?

/-- The type behind so many pointers exists, and it is a scalar. -/
def IsScalarAt (db : TypeDatabase) (level : Nat) (type : CType) : Prop :=
  ∃ target, follow db.pointee? level type = some target ∧ (db.classify target).isScalar = true

theorem isScalarAt_zero : db.IsScalarAt 0 type ↔ (db.classify type).isScalar = true := by
  simp [IsScalarAt, follow]

/-- Behind one more pointer than the pointee of the type. -/
theorem isScalarAt_succ :
    db.IsScalarAt (level + 1) type ↔
      ∃ target, db.pointee? type = some target ∧ db.IsScalarAt level target := by
  rw [IsScalarAt, follow_succ]
  cases db.pointee? type with
  | none => simp
  | some target => simp [IsScalarAt]

/-! ## The walk over the levels -/

theorem isScalarBehind_zero : db.isScalarBehind 0 type = (db.classify type).isScalar := by
  rw [isScalarBehind.eq_def]
  by_cases hscalar : (db.classify type).isScalar = true <;> simp [hscalar]

/-- Without a scalar at hand, the walk goes on behind the pointer. -/
theorem isScalarBehind_succ :
    db.isScalarBehind (depth + 1) type =
      ((db.classify type).isScalar || (db.pointee? type).any (db.isScalarBehind depth)) := by
  rw [isScalarBehind.eq_def, pointee?]
  by_cases hscalar : (db.classify type).isScalar = true
  · simp [hscalar]
  · cases db.resolve type with
    | none => simp [hscalar]
    | some concrete => cases concrete <;> simp [hscalar, CType.target?]

/-- The walk finds the scalars at the levels within the depth. -/
theorem isScalarBehind_iff :
    db.isScalarBehind depth type = true ↔ ∃ level ≤ depth, db.IsScalarAt level type := by
  induction depth generalizing type with
  | zero => simp [isScalarBehind_zero, isScalarAt_zero]
  | succ depth ih =>
    rw [isScalarBehind_succ, Bool.or_eq_true, Option.any_eq_true]
    simp only [ih]
    constructor
    · rintro (hscalar | ⟨target, htarget, level, hle, hat⟩)
      · exact ⟨0, Nat.zero_le _, isScalarAt_zero.2 hscalar⟩
      · exact ⟨level + 1, Nat.succ_le_succ hle, isScalarAt_succ.2 ⟨target, htarget, hat⟩⟩
    · rintro ⟨level, hle, hat⟩
      cases level with
      | zero => exact .inl (isScalarAt_zero.1 hat)
      | succ level =>
        obtain ⟨target, htarget, hat⟩ := isScalarAt_succ.1 hat
        exact .inr ⟨target, htarget, level, Nat.le_of_succ_le_succ hle, hat⟩

/-! ## Arrays -/

theorem isPodArray_iff :
    db.isPodArray type depth = true ↔
      ∃ element length, db.resolve type = some (.array element length) ∧
        ∃ level ≤ depth, db.IsScalarAt level element := by
  rw [isPodArray]
  cases db.resolve type with
  | none => simp
  | some concrete => cases concrete <;> simp [isScalarBehind_iff]

/-- The first level with a scalar is where acceptance starts. -/
theorem exists_threshold (hlevel : db.IsScalarAt level element) :
    ∃ threshold, ∀ depth, (∃ level ≤ depth, db.IsScalarAt level element) ↔ threshold ≤ depth := by
  classical
  have hscalar : ∃ level, db.IsScalarAt level element := ⟨level, hlevel⟩
  refine ⟨Nat.find hscalar, fun depth => ?_⟩
  rw [Nat.find_le_iff]

/-- An array is one of scalars at a depth exactly if a scalar stands behind at most so many
pointers from its element on. So a type is refused at every depth, or it has a threshold from
which on it is accepted, and it stays accepted at any larger depth. -/
theorem isPodArray_iff_levels (db : TypeDatabase) (type : CType) :
    (∀ depth, db.isPodArray type depth = true ↔
        ∃ element length, db.resolve type = some (.array element length) ∧
          ∃ level ≤ depth, ∃ target, follow db.pointee? level element = some target ∧
            (db.classify target).isScalar = true) ∧
      ((∀ depth, db.isPodArray type depth = false) ∨
        ∃ threshold, ∀ depth, db.isPodArray type depth = true ↔ threshold ≤ depth) ∧
      Monotone (db.isPodArray type) := by
  refine ⟨fun depth => isPodArray_iff, ?_, ?_⟩
  · by_cases hsome : ∃ depth, db.isPodArray type depth = true
    · obtain ⟨depth, hpod⟩ := hsome
      obtain ⟨element, length, hresolve, level, -, hlevel⟩ := isPodArray_iff.1 hpod
      obtain ⟨threshold, hthreshold⟩ := exists_threshold hlevel
      refine .inr ⟨threshold, fun depth => ?_⟩
      rw [isPodArray_iff, ← hthreshold depth]
      simp [hresolve]
    · refine .inl fun depth => ?_
      simpa using fun hpod => hsome ⟨depth, hpod⟩
  · intro depth depth' hle hpod
    obtain ⟨element, length, hresolve, level, hlevel, hscalar⟩ := isPodArray_iff.1 hpod
    exact isPodArray_iff.2 ⟨element, length, hresolve, level, hlevel.trans hle, hscalar⟩

/-- An array of pointers to pointers to integers needs a depth of two. -/
example :
    let array := CType.array (.pointer (.pointer .sint)) (some 10)
    (empty 8).isPodArray array 1 = false ∧ (empty 8).isPodArray array 2 = true := ⟨rfl, rfl⟩

end UefiTyping.TypeDatabase
