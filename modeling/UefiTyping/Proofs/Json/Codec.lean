import Std.Data.ExtTreeMap
import UefiTyping.Proofs.Json.Escape
import UefiTyping.Proofs.Json.ReadBack

/-!
# Values read back

A decoder recovers a value from a document when it gets the value from it, whenever it may
open as many levels as the document nests. Every way of writing a value goes together with a
decoder in this sense: scalars, options, lists, pairs, maps and records. A document that a
decoder recovers a value from is also well spelled, so that it can be read from its text.
-/
namespace UefiTyping

open Std (ExtTreeMap)

/-- A map is made again from its entries, in any order. -/
theorem ofList_eq_of_perm {κ ν : Type} [Ord κ] [Std.TransOrd κ] [Std.LawfulEqOrd κ] [BEq κ]
    [Std.LawfulBEqOrd κ] [LawfulBEq κ] {map : ExtTreeMap κ ν} {entries : List (κ × ν)}
    (h : entries.Perm map.toList) : ExtTreeMap.ofList entries = map := by
  have hdistinct : entries.Pairwise fun a b => ¬ compare a.1 b.1 = .eq :=
    (h.pairwise_iff fun hne heq => hne (Std.OrientedCmp.eq_symm heq)).2
      ExtTreeMap.distinct_keys_toList
  have hmem : ∀ {key value}, (key, value) ∈ entries ↔ map[key]? = some value :=
    h.mem_iff.trans ExtTreeMap.mem_toList_iff_getElem?_eq_some
  refine ExtTreeMap.ext_getElem? fun key => ?_
  cases hvalue : map[key]? with
  | some value =>
    exact ExtTreeMap.getElem?_ofList_of_mem Std.ReflCmp.compare_self hdistinct (hmem.2 hvalue)
  | none =>
    refine ExtTreeMap.getElem?_ofList_of_contains_eq_false (Bool.eq_false_iff.2 fun hkey => ?_)
    obtain ⟨entry, hentry, rfl⟩ := List.mem_map.1 (List.contains_iff_mem.1 hkey)
    rw [hmem.1 hentry] at hvalue
    cases hvalue

namespace Json

/-! ## Nesting -/

theorem depthOfItems_le_iff {items : List Json} {levels : Nat} :
    depthOfItems items ≤ levels ↔ ∀ item ∈ items, item.depth ≤ levels := by
  induction items with
  | nil => simp [depthOfItems]
  | cons item items ih => rw [depthOfItems, Nat.max_le, ih, List.forall_mem_cons]

theorem depthOfMembers_le_iff {members : List (List Char × Json)} {levels : Nat} :
    depthOfMembers members ≤ levels ↔ ∀ member ∈ members, member.2.depth ≤ levels := by
  induction members with
  | nil => simp [depthOfMembers]
  | cons member members ih => rw [depthOfMembers, Nat.max_le, ih, List.forall_mem_cons]

theorem depthOfMembers_of_perm {members members' : List (List Char × Json)}
    (h : members.Perm members') : depthOfMembers members = depthOfMembers members' :=
  Nat.le_antisymm
    (depthOfMembers_le_iff.2 fun member hmember =>
      depthOfMembers_le_iff.1 (Nat.le_refl _) member (h.mem_iff.1 hmember))
    (depthOfMembers_le_iff.2 fun member hmember =>
      depthOfMembers_le_iff.1 (Nat.le_refl _) member (h.mem_iff.2 hmember))

theorem depth_lt_array {items : List Json} {item : Json} (h : item ∈ items) :
    item.depth < (Json.array items).depth :=
  Nat.lt_succ_of_le (depthOfItems_le_iff.1 (Nat.le_refl _) item h)

theorem depth_lt_ofFields {fields : List (String × Json)} {document : Json} (name : String)
    (h : (name, document) ∈ fields) : document.depth < (ofFields fields).depth :=
  Nat.lt_succ_of_le (depthOfMembers_le_iff.1 (Nat.le_refl _) (escape name.toList, document)
    (List.mem_map.2 ⟨(name, document), h, rfl⟩))

theorem depth_lt_ofVariant (kind : String) (content : Json) :
    content.depth < (ofVariant kind content).depth :=
  depth_lt_ofFields kind (List.mem_singleton_self _)

/-- Opening an array takes a level and leaves enough for its items. -/
theorem levels_of_depth_array {items : List Json} {levels : Nat}
    (h : (Json.array items).depth ≤ levels) :
    ∃ left, levels = left + 1 ∧ ∀ item ∈ items, item.depth ≤ left := by
  rw [depth] at h
  obtain ⟨left, rfl⟩ : ∃ left, levels = left + 1 := Nat.exists_eq_add_one.2 (by omega)
  exact ⟨left, rfl, depthOfItems_le_iff.1 (Nat.le_of_succ_le_succ h)⟩

/-- Opening an object takes a level and leaves enough for its members. -/
theorem levels_of_depth_object {members : List (List Char × Json)} {levels : Nat}
    (h : (Json.object members).depth ≤ levels) :
    ∃ left, levels = left + 1 ∧ ∀ member ∈ members, member.2.depth ≤ left := by
  rw [depth] at h
  obtain ⟨left, rfl⟩ : ∃ left, levels = left + 1 := Nat.exists_eq_add_one.2 (by omega)
  exact ⟨left, rfl, depthOfMembers_le_iff.1 (Nat.le_of_succ_le_succ h)⟩

/-! ## Recovering -/

namespace Decoder
variable {α β : Type}

/-- The decoder gets the value from the document, which can be read from its text. -/
structure Recovers (decode : Decoder α) (document : Json) (value : α) : Prop where
  wellSpelled : document.WellSpelled
  decode_eq : ∀ {levels}, document.depth ≤ levels → decode levels document = some value

/-- What is recovered is recovered from the text of the document, up to the limit of nesting. -/
theorem Recovers.ofText?_indented {decode : Decoder α} {document : Json} {value : α}
    (h : decode.Recovers document value) (hdepth : document.depth ≤ maxDepth) :
    decode.ofText? document.indented = some value := by
  rw [ofText?, parse?_indented h.wellSpelled]
  exact h.decode_eq hdepth

/-- A function of a value that is recovered. -/
theorem Recovers.map {decode : Decoder α} {document : Json} {value : α}
    (h : decode.Recovers document value) (f : α → β) :
    Recovers (fun levels document => (decode levels document).map f) document (f value) :=
  ⟨h.wellSpelled, fun hlevels => by rw [h.decode_eq hlevels, Option.map_some]⟩

/-! ## Scalars -/

theorem recovers_text (value : String) : text.Recovers (ofText value) value :=
  ⟨.string (isSpelled_escape value.toList), fun _ => text?_ofText value⟩

theorem recovers_bool (value : Bool) : bool.Recovers (.bool value) value :=
  ⟨.bool value, fun _ => rfl⟩

theorem recovers_natural {limit value : Nat} (h : value < limit) :
    (natural limit).Recovers (ofNat value) value := by
  refine ⟨.number (isNumeral_toDigits value), fun {levels} _ => ?_⟩
  have hinteger : (ofNat value).integer? = some (value : Int) := integerOf?_toDigits value
  have hbound : (0 : Int) ≤ value ∧ (value : Int) < limit := by omega
  simp [natural, hinteger, hbound]

theorem recovers_integer64 {value : Int} (hmin : Int64.minValue.toInt ≤ value)
    (hmax : value ≤ Int64.maxValue.toInt) : integer64.Recovers (ofInt value) value := by
  refine ⟨.number (isNumeral_integerNumeral value), fun {levels} _ => ?_⟩
  have hinteger : (ofInt value).integer? = some value := integerOf?_integerNumeral value
  rw [integer64, hinteger]
  exact if_pos ⟨hmin, hmax⟩

/-! ## Options -/

theorem recovers_none (decode : Decoder α) : (option decode).Recovers .null none :=
  ⟨.null, fun _ => rfl⟩

theorem Recovers.some {decode : Decoder α} {document : Json} {value : α}
    (h : decode.Recovers document value) (hnull : document ≠ .null) :
    (option decode).Recovers document (some value) := by
  refine ⟨h.wellSpelled, fun {levels} hlevels => ?_⟩
  cases document with
  | null => exact absurd rfl hnull
  | bool | number | string | array | object =>
    exact congrArg (Option.map Option.some) (h.decode_eq hlevels)

/-- An optional value is recovered when the value is, and is not written as an absent one. -/
theorem recovers_ofOption {decode : Decoder α} {encode : α → Json} {value : Option α}
    (hnull : ∀ x, encode x ≠ .null) (h : ∀ x ∈ value, decode.Recovers (encode x) x) :
    (option decode).Recovers (ofOption encode value) value := by
  cases value with
  | none => exact recovers_none decode
  | some x => exact (h x rfl).some (hnull x)

/-! ## Arrays -/

theorem mapM_map_eq_some {γ : Type} {f : α → β} {g : β → Option γ} {k : α → γ} {items : List α}
    (h : ∀ item ∈ items, g (f item) = some (k item)) :
    (items.map f).mapM g = some (items.map k) := by
  induction items with
  | nil => rfl
  | cons item items ih =>
    simp [h item (by simp), ih fun item hitem => h item (by simp [hitem])]

theorem recovers_list {decode : Decoder α} {encode : α → Json} {items : List α}
    (h : ∀ item ∈ items, decode.Recovers (encode item) item) :
    (list decode).Recovers (.array (items.map encode)) items := by
  refine ⟨.array ?_, fun {levels} hdepth => ?_⟩
  · rw [List.forall_mem_map]
    exact fun item hitem => (h item hitem).wellSpelled
  · obtain ⟨levels, rfl, hlevels⟩ := levels_of_depth_array hdepth
    rw [List.forall_mem_map] at hlevels
    have hitems : ∀ item ∈ items, decode levels (encode item) = some (id item) :=
      fun item hitem => (h item hitem).decode_eq (hlevels item hitem)
    exact (mapM_map_eq_some hitems).trans (by rw [List.map_id])

theorem recovers_pair {first : Decoder α} {second : Decoder β} {document document' : Json}
    {value : α} {value' : β} (h : first.Recovers document value)
    (h' : second.Recovers document' value') :
    (pair first second).Recovers (.array [document, document']) (value, value') := by
  refine ⟨.array (by simp [h.wellSpelled, h'.wellSpelled]), fun {levels} hdepth => ?_⟩
  obtain ⟨levels, rfl, hlevels⟩ := levels_of_depth_array hdepth
  simp [pair, h.decode_eq (hlevels document (by simp)), h'.decode_eq (hlevels document' (by simp))]

/-! ## Objects -/

/-- A map is recovered when its values are, and every key is read from its name. -/
theorem recovers_members (name : β → String) (encode : α → Json) {key : List Char → Option β}
    {decode : Decoder α} {entries : List (β × α)}
    (hkey : ∀ entry ∈ entries, key (escape (name entry.1).toList) = some entry.1)
    (h : ∀ entry ∈ entries, decode.Recovers (encode entry.2) entry.2) :
    (members key decode).Recovers
      (ofFields (entries.map fun entry => (name entry.1, encode entry.2))) entries := by
  rw [ofFields, List.map_map]
  refine ⟨.object ?_ ?_, fun {levels} hdepth => ?_⟩
  · rw [List.forall_mem_map]
    exact fun entry _ => isSpelled_escape (name entry.1).toList
  · rw [List.forall_mem_map]
    exact fun entry hentry => (h entry hentry).wellSpelled
  · obtain ⟨levels, rfl, hlevels⟩ := levels_of_depth_object hdepth
    rw [List.forall_mem_map] at hlevels
    refine (mapM_map_eq_some (k := id) fun entry hentry => ?_).trans (by rw [List.map_id])
    simp only [Function.comp_apply, hkey entry hentry,
      (h entry hentry).decode_eq (hlevels entry hentry)]
    rfl

/-- A map is recovered when its values are, in whatever order its entries are written. -/
theorem recovers_map [Ord β] [Std.TransOrd β] [Std.LawfulEqOrd β] [BEq β] [Std.LawfulBEqOrd β]
    [LawfulBEq β] (name : β → String) (encode : α → Json) {key : List Char → Option β}
    {decode : Decoder α} {map : ExtTreeMap β α} {entries : List (β × α)}
    (horder : entries.Perm map.toList)
    (hkey : ∀ value, key (escape (name value).toList) = some value)
    (h : ∀ {value : β} {x : α}, map[value]? = some x → decode.Recovers (encode x) x) :
    Recovers (fun levels document =>
        (members key decode levels document).map
          (ExtTreeMap.ofList · : List (β × α) → ExtTreeMap β α))
      (ofFields (entries.map fun entry => (name entry.1, encode entry.2))) map := by
  have hentries : (members key decode).Recovers
      (ofFields (entries.map fun entry => (name entry.1, encode entry.2))) entries :=
    recovers_members name encode (fun entry _ => hkey entry.1) fun entry hentry =>
      h (ExtTreeMap.mem_toList_iff_getElem?_eq_some.1 (horder.mem_iff.1 hentry))
  have hmap := hentries.map (ExtTreeMap.ofList · : List (β × α) → ExtTreeMap β α)
  rwa [ofList_eq_of_perm horder] at hmap

/-! ## Records -/

theorem filter_fst_eq_singleton {entries : List (String × β)} {entry : String × β}
    (hnodup : (entries.map Prod.fst).Nodup) (hentry : entry ∈ entries) :
    entries.filter (fun other => entry.1 == other.1) = [entry] := by
  induction entries with
  | nil => cases hentry
  | cons first entries ih =>
    rw [List.map_cons, List.nodup_cons] at hnodup
    obtain ⟨hfirst, hnodup⟩ := hnodup
    rcases List.mem_cons.1 hentry with rfl | hentry
    · have hnone : ∀ other ∈ entries, ¬ (entry.1 == other.1) = true := fun other hother heq =>
        hfirst (List.mem_map.2 ⟨other, hother, (eq_of_beq heq).symm⟩)
      rw [List.filter_cons, if_pos (beq_self_eq_true entry.1), List.filter_eq_nil_iff.2 hnone]
    · have hne : ¬ (entry.1 == first.1) = true := fun heq =>
        hfirst (List.mem_map.2 ⟨entry, hentry, eq_of_beq heq⟩)
      rw [List.filter_cons, if_neg hne, ih hnodup hentry]

/-- A field without other names is given what is written under its name. -/
theorem slot?_eq_some {field : Field} {entry : String × Json} (hname : field.name = entry.1)
    (haliases : field.aliases = []) {entries : List (String × Json)}
    (hnodup : (entries.map Prod.fst).Nodup) (hentry : entry ∈ entries) :
    field.slot? entries = some (some entry.2) := by
  have hanswers : ∀ other : String × Json, field.answersTo other.1 = (entry.1 == other.1) := by
    intro other
    rw [Field.answersTo, haliases, hname, List.contains_nil, Bool.or_false]
  simp only [Field.slot?, hanswers, filter_fst_eq_singleton hnodup hentry]

theorem mapM_slot?_eq_some {entries : List (String × Json)}
    (hnodup : (entries.map Prod.fst).Nodup) {fields : List Field} {rest : List (String × Json)}
    (hrest : rest ⊆ entries) (hfields : fields.map (fun field => (field.name, field.aliases)) =
      rest.map fun entry => (entry.1, [])) :
    fields.mapM (Field.slot? entries) = some (rest.map fun entry => some entry.2) := by
  -- Every slot is looked up among all entries, so the induction goes over a part of them.
  induction fields generalizing rest with
  | nil =>
    obtain rfl := List.map_eq_nil_iff.1 hfields.symm
    rfl
  | cons field fields ih =>
    cases rest with
    | nil => cases hfields
    | cons entry rest =>
      obtain ⟨hfield, hfields⟩ := List.cons.inj hfields
      obtain ⟨hname, haliases⟩ := Prod.mk.inj hfield
      obtain ⟨hentry, hrest⟩ := List.cons_subset.1 hrest
      rw [List.mapM_cons, slot?_eq_some hname haliases hnodup hentry, ih hrest hfields]
      rfl

/-- A record is recovered when its fields are written under their only names, each name once,
and what is written for them builds it. -/
theorem recovers_record {fields : List Field} {build : Nat → List (Option Json) → Option α}
    {entries : List (String × Json)} {value : α}
    (hfields : fields.map (fun field => (field.name, field.aliases)) =
      entries.map fun entry => (entry.1, []))
    (hnodup : (entries.map Prod.fst).Nodup) (hspelled : ∀ entry ∈ entries, entry.2.WellSpelled)
    (hbuild : ∀ {levels}, (∀ entry ∈ entries, entry.2.depth ≤ levels) →
      build levels (entries.map fun entry => some entry.2) = some value) :
    (record fields build).Recovers (ofFields entries) value := by
  refine ⟨.object ?_ ?_, fun {levels} hdepth => ?_⟩
  · rw [List.forall_mem_map]
    exact fun entry _ => isSpelled_escape entry.1.toList
  · rw [List.forall_mem_map]
    exact hspelled
  · obtain ⟨levels, rfl, hlevels⟩ := levels_of_depth_object hdepth
    rw [List.forall_mem_map] at hlevels
    have hkeys : (entries.map fun entry => (escape entry.1.toList, entry.2)).mapM
        (fun entry => do return (← textKey entry.1, entry.2)) = some entries :=
      (mapM_map_eq_some (k := id) fun entry _ => by simp [textKey_escape]).trans
        (by rw [List.map_id])
    have hslots : slots? fields (ofFields entries) =
        some (entries.map fun entry => some entry.2) := by
      rw [ofFields, slots?, hkeys]
      exact mapM_slot?_eq_some hnodup (List.Subset.refl entries) hfields
    rw [record, hslots]
    exact hbuild hlevels

end Decoder
end Json
end UefiTyping
