import UefiTyping.Program.Image
import UefiTyping.Proofs.ListSearch

/-!
# Reads of data sections

A read is served by the first section that holds its first address, and by no other: when that
section ends within the range there is no answer, though a section behind it may hold the whole
range. Such a range is hidden. So a read of at least one byte succeeds exactly if some section
holds the range and the range is not hidden. Where no two sections overlap nothing that a section
holds is hidden.

Addresses are numbers in these statements, so that a range does not wrap around.
-/
namespace UefiTyping

/-! ## One section -/

namespace DataSection

/-- The section holds the byte at an address. -/
def Holds (data : DataSection) (address : Nat) : Prop :=
  data.base.toNat ≤ address ∧ address < data.base.toNat + data.bytes.length

/-- The section holds every byte of a range. -/
def HoldsRange (data : DataSection) (address : UInt64) (length : Nat) : Prop :=
  ∀ i < length, data.Holds (address.toNat + i)

/-- The byte at an address. -/
def byteAt? (data : DataSection) (address : Nat) : Option UInt8 :=
  if data.base.toNat ≤ address then data.bytes[address - data.base.toNat]? else none

/-- The bytes are those of the section from an address on. -/
def Stores (data : DataSection) (address : UInt64) (bytes : List UInt8) : Prop :=
  ∀ i < bytes.length, data.byteAt? (address.toNat + i) = bytes[i]?

/-- No byte is held by both sections. -/
def IsApart (first second : DataSection) : Prop :=
  ∀ address, first.Holds address → ¬ second.Holds address

variable {data : DataSection} {address : UInt64} {length : Nat} {bytes : List UInt8}

theorem distance_of_le (h : data.base.toNat ≤ address.toNat) :
    data.distance address = address.toNat - data.base.toNat :=
  UInt64.toNat_sub_of_le _ _ (UInt64.le_iff_toNat_le.2 h)

theorem contains_iff : data.contains address = true ↔ data.Holds address.toNat := by
  rw [contains, Bool.and_eq_true, decide_eq_true_eq, decide_eq_true_eq, UInt64.le_iff_toNat_le,
    Holds]
  refine and_congr_right fun h => ?_
  rw [distance_of_le h]
  omega

theorem holds_of_byteAt? {location : Nat} {byte : UInt8} (h : data.byteAt? location = some byte) :
    data.Holds location := by
  rw [byteAt?, Option.ite_none_right_eq_some] at h
  obtain ⟨hbase, hbyte⟩ := h
  have hlt := (List.getElem?_eq_some_iff.1 hbyte).1
  exact ⟨hbase, by omega⟩

/-- The bytes from an address on stand at its distance from the start. -/
theorem byteAt?_add (h : data.Holds address.toNat) (i : Nat) :
    data.byteAt? (address.toNat + i) = data.bytes[data.distance address + i]? := by
  have hbase := h.1
  rw [byteAt?, if_pos (by omega), distance_of_le hbase, Nat.sub_add_comm hbase]

/-- A section that holds the first address holds a range if it has that many bytes left. -/
theorem holdsRange_iff (h : data.Holds address.toNat) :
    data.HoldsRange address length ↔ data.distance address + length ≤ data.bytes.length := by
  obtain ⟨hbase, hlt⟩ := h
  rw [distance_of_le hbase]
  constructor
  · intro hrange
    refine Nat.le_of_not_lt fun hend => ?_
    -- The range goes on at the first address behind the section.
    have hbehind := hrange (data.bytes.length - (address.toNat - data.base.toNat)) (by omega)
    have := hbehind.2
    omega
  · intro hend i hi
    exact ⟨by omega, by omega⟩

/-- A section that holds the first address answers with the bytes from there on. -/
theorem read?_eq_some_iff (h : data.Holds address.toNat) :
    data.read? address length = some bytes ↔ bytes.length = length ∧ data.Stores address bytes := by
  rw [read?, Option.ite_none_right_eq_some, Option.some.injEq, ← holdsRange_iff h]
  constructor
  · rintro ⟨hrange, rfl⟩
    have hend := (holdsRange_iff h).1 hrange
    refine ⟨by rw [List.length_take, List.length_drop]; omega, fun i hi => ?_⟩
    have hlt := Nat.lt_of_lt_of_le hi (List.length_take_le _ _)
    rw [byteAt?_add h, List.getElem?_take_of_lt hlt, List.getElem?_drop]
  · rintro ⟨rfl, hstores⟩
    refine ⟨fun i hi => ?_, List.ext_getElem? fun i => ?_⟩
    · exact holds_of_byteAt? ((hstores i hi).trans (List.getElem?_eq_getElem hi))
    · by_cases hi : i < bytes.length
      · rw [List.getElem?_take_of_lt hi, List.getElem?_drop, ← byteAt?_add h, hstores i hi]
      · have hle := Nat.le_of_not_lt hi
        rw [List.getElem?_eq_none hle,
          List.getElem?_eq_none (Nat.le_trans (List.length_take_le _ _) hle)]

end DataSection

/-! ## The first section -/

namespace Image
variable {image : Image} {data : DataSection} {address : UInt64} {length : Nat}
  {bytes : List UInt8}

/-- The section is the first that holds the address. -/
def IsFirstAt (image : Image) (data : DataSection) (address : UInt64) : Prop :=
  ∃ before after, image.sections = before ++ data :: after ∧ data.Holds address.toNat ∧
    ∀ other ∈ before, ¬ other.Holds address.toNat

/-- The first section that holds the start of the range ends within it. -/
def Hides (image : Image) (address : UInt64) (length : Nat) : Prop :=
  ∃ data, image.IsFirstAt data address ∧ ¬ data.HoldsRange address length

theorem IsFirstAt.mem (h : image.IsFirstAt data address) : data ∈ image.sections := by
  obtain ⟨before, after, hsections, -, -⟩ := h
  rw [hsections]
  exact List.mem_append_right _ List.mem_cons_self

theorem IsFirstAt.holds (h : image.IsFirstAt data address) : data.Holds address.toNat := by
  obtain ⟨before, after, -, hholds, -⟩ := h
  exact hholds

theorem sectionAt?_eq_some_iff :
    image.sectionAt? address = some data ↔ image.IsFirstAt data address :=
  find?_eq_some_iff_first fun _ => DataSection.contains_iff

theorem IsFirstAt.unique {other : DataSection} (h : image.IsFirstAt data address)
    (hother : image.IsFirstAt other address) : data = other := by
  rw [← sectionAt?_eq_some_iff] at h hother
  exact Option.some.inj (h.symm.trans hother)

/-- Where some section holds the address, one is the first. -/
theorem exists_isFirstAt (hmem : data ∈ image.sections) (hholds : data.Holds address.toNat) :
    ∃ first, image.IsFirstAt first address :=
  exists_first_of_mem hmem hholds

/-- What is read stands in the first section. -/
theorem read?_eq_some_iff :
    image.read? address length = some bytes ↔
      ∃ data, image.IsFirstAt data address ∧ bytes.length = length ∧ data.Stores address bytes := by
  simp only [read?, Option.bind_eq_bind, Option.bind_eq_some_iff, sectionAt?_eq_some_iff]
  exact exists_congr fun data => and_congr_right fun h => DataSection.read?_eq_some_iff h.holds

/-- A read succeeds if the first section holds the whole range. -/
theorem exists_read?_iff :
    (∃ bytes, image.read? address length = some bytes) ↔
      ∃ data, image.IsFirstAt data address ∧ data.HoldsRange address length := by
  simp only [read?, Option.bind_eq_bind, Option.bind_eq_some_iff, sectionAt?_eq_some_iff]
  rw [exists_comm]
  refine exists_congr fun data => ?_
  rw [exists_and_left]
  refine and_congr_right fun h => ?_
  rw [DataSection.holdsRange_iff h.holds, DataSection.read?]
  by_cases hend : data.distance address + length ≤ data.bytes.length
  · simp [hend]
  · simp [hend]

/-- A range of at least one byte is read if some section holds it and it is not hidden. -/
theorem exists_read?_iff_not_hides (hlength : 0 < length) :
    (∃ bytes, image.read? address length = some bytes) ↔
      (∃ data ∈ image.sections, data.HoldsRange address length) ∧
        ¬ image.Hides address length := by
  rw [exists_read?_iff]
  constructor
  · rintro ⟨data, hfirst, hrange⟩
    refine ⟨⟨data, hfirst.mem, hrange⟩, ?_⟩
    rintro ⟨other, hother, hends⟩
    rw [hfirst.unique hother] at hrange
    exact hends hrange
  · rintro ⟨⟨data, hmem, hrange⟩, hnot⟩
    obtain ⟨first, hfirst⟩ := exists_isFirstAt hmem (hrange 0 hlength)
    exact ⟨first, hfirst, Classical.byContradiction fun hends => hnot ⟨first, hfirst, hends⟩⟩

/-- A GUID is read where sixteen bytes are. -/
theorem exists_guid?_iff :
    (∃ guid, image.guid? address = some guid) ↔ ∃ bytes, image.read? address 16 = some bytes := by
  simp only [guid?_eq_some_iff]
  constructor
  · rintro ⟨guid, hread⟩
    exact ⟨_, hread⟩
  · rintro ⟨bytes, hread⟩
    obtain ⟨data, -, hlength, -⟩ := read?_eq_some_iff.1 hread
    exact ⟨⟨⟨bytes.toArray, by simpa using hlength⟩⟩, hread⟩

/-- Where no two sections overlap, nothing that a section holds is hidden. -/
theorem not_hides_of_isApart (hapart : image.sections.Pairwise DataSection.IsApart)
    (hmem : data ∈ image.sections) (hrange : data.HoldsRange address length)
    (hlength : 0 < length) : ¬ image.Hides address length := by
  rintro ⟨first, ⟨before, after, hsections, hholds, hbefore⟩, hends⟩
  have hdata : data.Holds address.toNat := hrange 0 hlength
  rw [hsections] at hmem hapart
  rcases List.mem_append.1 hmem with hmem | hmem
  · exact hbefore data hmem hdata
  · rcases List.mem_cons.1 hmem with rfl | hmem
    · exact hends hrange
    · have hafter := (List.pairwise_cons.1 (List.pairwise_append.1 hapart).2.1).1
      exact hafter data hmem _ hholds hdata

/-- Bytes are read out of the first section that holds the first address. So a range of at least
one byte is read exactly if some section holds it and it is not hidden, and a GUID that a section
holds is read exactly if its sixteen bytes are not hidden. Where no two sections overlap, every
range that a section holds is read. -/
theorem read?_unless_hidden (image : Image) (address : UInt64) {length : Nat}
    (hlength : 0 < length) :
    (∀ bytes, image.read? address length = some bytes ↔
        ∃ data, image.IsFirstAt data address ∧ bytes.length = length ∧
          data.Stores address bytes) ∧
      ((∃ bytes, image.read? address length = some bytes) ↔
        (∃ data ∈ image.sections, data.HoldsRange address length) ∧
          ¬ image.Hides address length) ∧
      ((∃ guid, image.guid? address = some guid) ↔
        (∃ data ∈ image.sections, data.HoldsRange address 16) ∧ ¬ image.Hides address 16) ∧
      (image.sections.Pairwise DataSection.IsApart →
        ∀ data ∈ image.sections, data.HoldsRange address length →
          ∃ bytes, image.read? address length = some bytes) := by
  refine ⟨fun bytes => read?_eq_some_iff, exists_read?_iff_not_hides hlength, ?_, ?_⟩
  · rw [exists_guid?_iff]
    exact exists_read?_iff_not_hides (by decide)
  · intro hapart data hmem hrange
    exact (exists_read?_iff_not_hides hlength).2
      ⟨⟨data, hmem, hrange⟩, not_hides_of_isApart hapart hmem hrange hlength⟩

/-- A GUID in a section of its own, and behind it a shorter section at the same address. -/
theorem read?_unless_hidden_guid :
    let guid : Guid := ⟨.ofFn fun i => .ofNat i⟩
    let image := (empty.addGuid 0x4000 guid).addSection 0x4000 (List.replicate 8 0)
    0 < 16 ∧ (∃ data ∈ image.sections, data.HoldsRange 0x4000 16) ∧ ¬ image.Hides 0x4000 16 ∧
      (∃ bytes, image.read? 0x4000 16 = some bytes) ∧ image.guid? 0x4000 = some guid := by
  intro guid image
  have hlength : 0 < 16 := by decide
  have hbytes : ∃ bytes, image.read? 0x4000 16 = some bytes := ⟨guid.bytes.toList, by decide⟩
  obtain ⟨hheld, hnot⟩ := (read?_unless_hidden image 0x4000 hlength).2.1.1 hbytes
  exact ⟨hlength, hheld, hnot, hbytes, by decide⟩

/-- The same two sections in the other order: one section holds the whole GUID, and yet it is
not read. -/
theorem guid_hidden_by_shorter_section :
    let guid : Guid := ⟨.ofFn fun i => .ofNat i⟩
    let image := (empty.addSection 0x4000 (List.replicate 8 0)).addGuid 0x4000 guid
    (∀ data ∈ image.sections, data.base.toNat + data.bytes.length ≤ UInt64.size) ∧
      (∃ data ∈ image.sections, data.HoldsRange 0x4000 16 ∧
        data.Stores 0x4000 guid.bytes.toList) ∧
      image.Hides 0x4000 16 ∧ image.read? 0x4000 16 = none ∧ image.guid? 0x4000 = none := by
  intro guid image
  let short : DataSection := ⟨0x4000, List.replicate 8 0⟩
  let stored : DataSection := ⟨0x4000, guid.bytes.toList⟩
  have hshort : short.Holds 0x4000 := ⟨by decide, by decide⟩
  have hstored : stored.Holds 0x4000 := ⟨by decide, by decide⟩
  refine ⟨by decide, ⟨stored, by decide, ?_, ?_⟩, ⟨short, ?_, ?_⟩, by decide, by decide⟩
  · exact (DataSection.holdsRange_iff hstored).2 (by decide)
  · have hread : stored.read? 0x4000 16 = some guid.bytes.toList := by decide
    exact ((DataSection.read?_eq_some_iff hstored).1 hread).2
  · exact ⟨[], [stored], rfl, hshort, by simp⟩
  · exact mt (DataSection.holdsRange_iff hshort).1 (by decide)

end Image
end UefiTyping
