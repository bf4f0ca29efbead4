import Mathlib.Data.Finset.Card

/-!
# Chains of a partial function

A partial function is followed from a start on for as long as it has a value. A chain that comes
back to a member never ends. One that draws its members from a list comes back, or it ends
before it has taken more steps than the list is long.
-/
namespace UefiTyping

variable {α : Type} {next : α → Option α} {start inner : α}

/-- What so many steps lead to, if the chain goes on for so long. -/
def follow (next : α → Option α) : Nat → α → Option α
  | 0, start => some start
  | steps + 1, start => (next start).bind (follow next steps)

theorem follow_succ (steps : Nat) :
    follow next (steps + 1) start = (next start).bind (follow next steps) := rfl

theorem follow_add (before after : Nat) :
    follow next (before + after) start = (follow next before start).bind (follow next after) := by
  induction before generalizing start with
  | zero => simp [follow]
  | succ before ih =>
    rw [Nat.add_right_comm, follow_succ, follow_succ]
    cases next start with
    | none => rfl
    | some second => exact ih

/-- A chain that has ended does not go on. -/
theorem follow_eq_none_of_le {steps later : Nat} (h : follow next steps start = none)
    (hle : steps ≤ later) : follow next later start = none := by
  obtain ⟨more, rfl⟩ := Nat.exists_eq_add_of_le hle
  rw [follow_add, h, Option.bind_none]

/-- The chain comes back to where it starts. -/
def IsCyclic (next : α → Option α) (start : α) : Prop :=
  ∃ period, follow next (period + 1) start = some start

theorem IsCyclic.follow_ne_none (h : IsCyclic next start) (steps : Nat) :
    follow next steps start ≠ none := by
  obtain ⟨period, hperiod⟩ := h
  have hrounds : ∀ rounds, follow next (rounds * (period + 1)) start = some start := by
    intro rounds
    induction rounds with
    | zero => simp [follow]
    | succ rounds ih => rw [Nat.succ_mul, follow_add, ih, Option.bind_some, hperiod]
  intro hend
  have hle : steps ≤ steps * (period + 1) := Nat.le_mul_of_pos_right _ (Nat.succ_pos _)
  have hnone := follow_eq_none_of_le hend hle
  simp [hrounds] at hnone

/-- A chain that comes to a circle does not end. -/
theorem IsCyclic.follow_ne_none_of_follow (h : IsCyclic next inner) {before : Nat}
    (hinner : follow next before start = some inner) (steps : Nat) :
    follow next steps start ≠ none := by
  intro hend
  have hlater := follow_eq_none_of_le hend (Nat.le_add_left steps before)
  rw [follow_add, hinner, Option.bind_some] at hlater
  exact h.follow_ne_none steps hlater

section Members
variable {members : List α}

/-- A chain that takes more steps than there are members comes to one of them twice. -/
theorem exists_isCyclic_of_mem
    (hmem : ∀ steps later, follow next (steps + 1) start = some later → later ∈ members)
    (h : follow next (members.length + 1) start ≠ none) :
    ∃ before inner, follow next before start = some inner ∧ IsCyclic next inner := by
  classical
  have hgoes : ∀ steps, ∃ later, steps ≤ members.length →
      follow next (steps + 1) start = some later := by
    intro steps
    by_cases hle : steps ≤ members.length
    · have hsome : follow next (steps + 1) start ≠ none :=
        fun hend => h (follow_eq_none_of_le hend (Nat.succ_le_succ hle))
      obtain ⟨later, hlater⟩ := Option.ne_none_iff_exists'.1 hsome
      exact ⟨later, fun _ => hlater⟩
    · exact ⟨start, fun hle' => absurd hle' hle⟩
  choose later hlater using hgoes
  have hcard : members.toFinset.card < (Finset.range (members.length + 1)).card := by
    rw [Finset.card_range]
    exact Nat.lt_succ_of_le members.toFinset_card_le
  have hmaps : ∀ steps ∈ Finset.range (members.length + 1), later steps ∈ members.toFinset := by
    intro steps hsteps
    have hle := Nat.le_of_lt_succ (Finset.mem_range.1 hsteps)
    exact List.mem_toFinset.2 (hmem steps _ (hlater steps hle))
  obtain ⟨i, hi, j, hj, hne, hsame⟩ :=
    Finset.exists_ne_map_eq_of_card_lt_of_maps_to hcard hmaps
  -- Of the two visits the earlier is where the circle starts.
  wlog hlt : i < j generalizing i j
  · exact this j hj i hi hne.symm hsame.symm (by omega)
  have hvisit := hlater i (Nat.le_of_lt_succ (Finset.mem_range.1 hi))
  have hagain := hlater j (Nat.le_of_lt_succ (Finset.mem_range.1 hj))
  obtain ⟨period, rfl⟩ := Nat.exists_eq_add_of_lt hlt
  refine ⟨i + 1, later i, hvisit, period, ?_⟩
  rw [show i + period + 1 + 1 = (i + 1) + (period + 1) by omega, follow_add, hvisit, ← hsame]
    at hagain
  exact hagain

/-- A chain that comes to no circle ends within the number of members. -/
theorem follow_eq_none_of_not_isCyclic
    (hmem : ∀ steps later, follow next (steps + 1) start = some later → later ∈ members)
    (h : ∀ before inner, follow next before start = some inner → ¬ IsCyclic next inner) :
    follow next (members.length + 1) start = none := by
  by_contra hlong
  obtain ⟨before, inner, hinner, hcyclic⟩ := exists_isCyclic_of_mem hmem hlong
  exact h before inner hinner hcyclic

/-- A chain ends exactly if it comes to no circle. -/
theorem exists_follow_eq_none_iff
    (hmem : ∀ steps later, follow next (steps + 1) start = some later → later ∈ members) :
    (∃ steps, follow next steps start = none) ↔
      ∀ before inner, follow next before start = some inner → ¬ IsCyclic next inner := by
  constructor
  · rintro ⟨steps, hend⟩ before inner hinner hcyclic
    exact hcyclic.follow_ne_none_of_follow hinner steps hend
  · intro hacyclic
    exact ⟨_, follow_eq_none_of_not_isCyclic hmem hacyclic⟩

end Members

end UefiTyping
