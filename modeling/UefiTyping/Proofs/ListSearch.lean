/-!
# Searches in lists

Several lookups take the first item that passes a test, and one the last of a sorted list. What
such a search comes to is stated here once, for a property that the test decides.
-/
namespace UefiTyping

section First
variable {α : Type} {P : α → Prop} {items : List α} {item : α}

/-- A search comes to the item that has the property and none before it. -/
theorem find?_eq_some_iff_first {test : α → Bool} (htest : ∀ item, test item = true ↔ P item) :
    items.find? test = some item ↔
      ∃ before after, items = before ++ item :: after ∧ P item ∧ ∀ other ∈ before, ¬ P other := by
  rw [List.find?_eq_some_iff_append]
  simp only [Bool.not_eq_true', ← Bool.not_eq_true, htest]
  constructor
  · rintro ⟨hitem, before, after, hitems, hbefore⟩
    exact ⟨before, after, hitems, hitem, hbefore⟩
  · rintro ⟨before, after, hitems, hitem, hbefore⟩
    exact ⟨hitem, before, after, hitems, hbefore⟩

/-- Where some item has the property, one is the first. -/
theorem exists_first_of_mem (hmem : item ∈ items) (hitem : P item) :
    ∃ first before after, items = before ++ first :: after ∧ P first ∧
      ∀ other ∈ before, ¬ P other := by
  induction items with
  | nil => cases hmem
  | cons head tail ih =>
    by_cases hhead : P head
    · exact ⟨head, [], tail, rfl, hhead, by simp⟩
    · have htail : item ∈ tail := by
        rcases List.mem_cons.1 hmem with rfl | htail
        · exact absurd hitem hhead
        · exact htail
      obtain ⟨first, before, after, rfl, hfirst, hbefore⟩ := ih htail
      exact ⟨first, head :: before, after, rfl, hfirst,
        List.forall_mem_cons.2 ⟨hhead, hbefore⟩⟩

end First

/-- In a list in the order of its keys the last element has the greatest key. -/
theorem getLast?_eq_some_iff_of_sorted {β : Type} {entries : List (UInt64 × β)}
    (hsorted : entries.Pairwise fun a b => a.1 < b.1) {last : UInt64 × β} :
    entries.getLast? = some last ↔ last ∈ entries ∧ ∀ entry ∈ entries, entry.1 ≤ last.1 := by
  rw [List.getLast?_eq_some_iff]
  constructor
  · rintro ⟨before, rfl⟩
    refine ⟨by simp, fun entry hentry => ?_⟩
    rcases List.mem_append.1 hentry with hentry | hentry
    · exact UInt64.le_of_lt ((List.pairwise_append.1 hsorted).2.2 entry hentry last (by simp))
    · rw [List.mem_singleton.1 hentry]
      exact UInt64.le_refl _
  · rintro ⟨hlast, hgreatest⟩
    obtain ⟨before, found, rfl⟩ : ∃ before found, entries = before ++ [found] :=
      ⟨_, _, (List.dropLast_concat_getLast (List.ne_nil_of_mem hlast)).symm⟩
    rcases List.mem_append.1 hlast with hbefore | hfound
    · have hlt := (List.pairwise_append.1 hsorted).2.2 last hbefore found (by simp)
      exact absurd (hgreatest found (by simp)) (UInt64.not_le.2 hlt)
    · exact ⟨before, by rw [List.mem_singleton.1 hfound]⟩

end UefiTyping
