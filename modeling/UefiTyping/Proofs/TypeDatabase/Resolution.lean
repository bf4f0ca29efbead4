import UefiTyping.Proofs.TypeDatabase.Chain
import UefiTyping.Proofs.TypeDatabase.Size

/-!
# Resolution as a bounded chain

A hop goes from a typedef to its target and from a name to what is found under it. A type resolves
to the concrete type that hops lead to, as long as there are fewer of them than the bound: the
last look is spent on the concrete type itself. It resolves to nothing where the hops lead to a
name under which nothing is found, where they go on up to the bound, and so where they go round.
-/
namespace UefiTyping.TypeDatabase

variable {db : TypeDatabase} {type concrete : CType}

/-! ## Hops -/

/-- What a typedef or a name stands for: the target of the one, what is found under the other. -/
def hop? (db : TypeDatabase) : CType → Option CType
  | .synonym _ target => some target
  | .named name => db.find? name
  | _ => none

/-- A type is concrete, or a name under which nothing is found, or a hop leads on from it. -/
theorem hop?_cases (db : TypeDatabase) (type : CType) :
    (type.isConcrete = true ∧ db.hop? type = none) ∨
      (∃ name, type = .named name ∧ db.find? name = none) ∨
      type.isConcrete = false ∧ ∃ next, db.hop? type = some next := by
  cases type with
  | synonym name target => exact .inr (.inr ⟨rfl, target, rfl⟩)
  | named name =>
    cases hfound : db.find? name with
    | none => exact .inr (.inl ⟨name, rfl, hfound⟩)
    | some found => exact .inr (.inr ⟨rfl, found, hfound⟩)
  | void | int | float | pointer | array | struct | union | enum | function => exact .inl ⟨rfl, rfl⟩

/-- Each hop takes one look. -/
theorem chase_of_hop? {next : CType} (h : db.hop? type = some next) (limit : Nat) :
    db.chase (limit + 1) type = db.chase limit next := by
  cases type with
  | synonym name target =>
    obtain rfl := Option.some.inj h
    rfl
  | named name =>
    have hfound : db.find? name = some next := h
    rw [chase, hfound, Option.bind_some]
  | void | int | float | pointer | array | struct | union | enum | function => cases h

theorem chase_of_not_found {name : String} (h : db.find? name = none) (limit : Nat) :
    db.chase limit (.named name) = none := by
  cases limit with
  | zero => rfl
  | succ limit => rw [chase, h, Option.bind_none]

/-! ## What is found, and what is not -/

/-- Following finds the concrete type that is fewer hops away than the limit. -/
theorem chase_eq_some_iff {limit : Nat} :
    db.chase limit type = some concrete ↔
      concrete.isConcrete = true ∧ ∃ hops < limit, follow db.hop? hops type = some concrete := by
  induction limit generalizing type with
  | zero => simp [chase]
  | succ limit ih =>
    rw [Nat.exists_lt_succ_left]
    simp only [follow, Option.some.injEq]
    rcases db.hop?_cases type with ⟨hconcrete, hnone⟩ | ⟨name, rfl, hnone⟩ | ⟨hnot, next, hnext⟩
    · rw [chase_of_isConcrete hconcrete]
      simp only [hnone, Option.bind_none, reduceCtorEq, and_false, exists_false, or_false,
        Option.some.injEq]
      exact ⟨fun h => ⟨h ▸ hconcrete, h⟩, fun h => h.2⟩
    · have hstuck : db.hop? (.named name) = none := hnone
      simp only [chase_of_not_found hnone, hstuck, Option.bind_none, reduceCtorEq, and_false,
        exists_false, or_false, false_iff]
      rintro ⟨hconcrete, rfl⟩
      cases hconcrete
    · rw [chase_of_hop? hnext, ih, hnext]
      simp only [Option.bind_some]
      refine and_congr_right fun hconcrete => (or_iff_right ?_).symm
      rintro rfl
      simp [hnot] at hconcrete

/-- Following finds nothing where a name is not registered that is fewer hops away than the
limit, and where the hops go on up to the limit. -/
theorem chase_eq_none_iff {limit : Nat} :
    db.chase limit type = none ↔
      (∃ hops < limit, ∃ name, follow db.hop? hops type = some (.named name) ∧
        db.find? name = none) ∨ ∃ last, follow db.hop? limit type = some last := by
  induction limit generalizing type with
  | zero => simp [chase, follow]
  | succ limit ih =>
    rw [Nat.exists_lt_succ_left]
    simp only [follow, Option.some.injEq]
    rcases db.hop?_cases type with ⟨hconcrete, hnone⟩ | ⟨name, rfl, hnone⟩ | ⟨hnot, next, hnext⟩
    · rw [chase_of_isConcrete hconcrete]
      simp only [hnone, Option.bind_none, reduceCtorEq, false_and, and_false, exists_false,
        or_false, false_iff, not_exists, not_and]
      rintro name rfl
      cases hconcrete
    · simp only [chase_of_not_found hnone, true_iff]
      exact .inl (.inl ⟨name, rfl, hnone⟩)
    · rw [chase_of_hop? hnext, ih, hnext]
      simp only [Option.bind_some]
      refine or_congr_left (or_iff_right ?_).symm
      rintro ⟨name, rfl, hfound⟩
      cases hfound.symm.trans hnext

/-- A type resolves to a concrete type exactly if fewer than the bound of hops lead there. It
resolves to nothing exactly if fewer lead to a name that is not registered or there are as many
hops as the bound, however many may follow; so it does if the hops come to a circle. -/
theorem resolve_iff_hops (db : TypeDatabase) (type : CType) :
    (∀ concrete, db.resolve type = some concrete ↔
        concrete.isConcrete = true ∧
          ∃ hops < maxHops, follow db.hop? hops type = some concrete) ∧
      (db.resolve type = none ↔
        (∃ hops < maxHops, ∃ name, follow db.hop? hops type = some (.named name) ∧
          db.find? name = none) ∨ ∃ last, follow db.hop? maxHops type = some last) ∧
      ∀ hops inner, follow db.hop? hops type = some inner → IsCyclic db.hop? inner →
        db.resolve type = none := by
  refine ⟨fun concrete => chase_eq_some_iff, chase_eq_none_iff, fun hops inner hinner hcyclic => ?_⟩
  have hlong := hcyclic.follow_ne_none_of_follow hinner maxHops
  exact chase_eq_none_iff.2 (.inr (Option.ne_none_iff_exists'.1 hlong))

/-- An integer behind as many typedefs as the bound on hops is not found. -/
theorem resolve_of_maxHops_synonyms :
    let type := Nat.repeat (CType.synonym "ALIAS") maxHops .sint
    let db := empty 8
    CType.isConcrete .sint = true ∧ follow db.hop? maxHops type = some .sint ∧
      db.resolve type = none := by
  intro type db
  exact ⟨rfl, rfl, rfl⟩

end UefiTyping.TypeDatabase
