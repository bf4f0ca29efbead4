import UefiTyping.Proofs.TypeDatabase.ArrayElements

/-!
# What measuring depends on

Measuring a type comes to the names that stand behind the typedefs, the names and the arrays on
the way. What a database holds under these names settles the measure: another database that holds
the same there measures the type alike, whatever else it holds.

A struct that takes the place of whatever had its name cannot make a chain of elements longer. It
is no array, so the chains that come to it end there, and the others stay as they were.
-/
namespace UefiTyping.TypeDatabase

open Std (ExtTreeMap)

variable {db other : TypeDatabase} {type concrete : CType}

/-! ## Names -/

/-- Measuring the type comes to the name. -/
inductive ComesTo (db : TypeDatabase) : CType → String → Prop
  | self (name : String) : ComesTo db (.named name) name
  | found {name last : String} {type : CType} : db.find? name = some type →
      ComesTo db type last → ComesTo db (.named name) last
  | synonym {name last : String} {target : CType} :
      ComesTo db target last → ComesTo db (.synonym name target) last
  | element {last : String} {element : CType} {length : Option Nat} :
      ComesTo db element last → ComesTo db (.array element length) last

theorem comesTo_named_iff {name last : String} :
    db.ComesTo (.named name) last ↔
      last = name ∨ ∃ type, db.find? name = some type ∧ db.ComesTo type last := by
  constructor
  · rintro (_ | ⟨hfound, hlast⟩)
    · exact .inl rfl
    · exact .inr ⟨_, hfound, hlast⟩
  · rintro (rfl | ⟨type, hfound, hlast⟩)
    · exact .self last
    · exact .found hfound hlast

theorem comesTo_array_iff {element : CType} {length : Option Nat} {last : String} :
    db.ComesTo (.array element length) last ↔ db.ComesTo element last := by
  constructor
  · rintro ⟨hlast⟩
    assumption
  · exact .element

theorem not_comesTo_of_isBlock {last : String} (h : type.isBlock = true) :
    ¬ db.ComesTo type last := by
  rintro (_ | _ | _ | _)
  all_goals cases h

theorem not_comesTo_int {size : Nat} {signed : Bool} {last : String} :
    ¬ db.ComesTo (.int size signed) last :=
  not_comesTo_of_isBlock rfl

/-- The other database holds the same under all names that measuring the type comes to. -/
def Covers (db other : TypeDatabase) (type : CType) : Prop :=
  ∀ name, db.ComesTo type name → other.find? name = db.find? name

theorem Covers.chase_eq (h : db.Covers other type) (limit : Nat) :
    other.chase limit type = db.chase limit type := by
  induction limit generalizing type with
  | zero => rfl
  | succ limit ih =>
    cases type with
    | synonym name target => exact ih fun last hlast => h last (.synonym hlast)
    | named name =>
      rw [chase, chase, h name (.self name)]
      cases hfound : db.find? name with
      | none => rfl
      | some found => exact ih fun last hlast => h last (.found hfound hlast)
    | void | int | float | pointer | array | struct | union | enum | function => rfl

/-- What a type resolves to comes to no other names. -/
theorem ComesTo.of_chase {limit : Nat} {last : String}
    (hchase : db.chase limit type = some concrete) (h : db.ComesTo concrete last) :
    db.ComesTo type last := by
  induction limit generalizing type with
  | zero => cases hchase
  | succ limit ih =>
    cases type with
    | synonym name target => exact .synonym (ih hchase)
    | named name =>
      obtain ⟨found, hfound, hrest⟩ := Option.bind_eq_some_iff.1 hchase
      exact .found hfound (ih hrest)
    | void | int | float | pointer | array | struct | union | enum | function =>
      obtain rfl := Option.some.inj hchase
      exact h

theorem Covers.element?_eq (h : db.Covers other type) : other.element? type = db.element? type := by
  rw [element?, element?, resolve, resolve, h.chase_eq]

theorem Covers.of_element? (h : db.Covers other type) {element : CType}
    (helement : db.element? type = some element) : db.Covers other element := by
  obtain ⟨length, hresolve⟩ := element?_eq_some_iff.1 helement
  exact fun last hlast => h last (.of_chase hresolve (.element hlast))

theorem sizeFrom_congr (h : other.pointerSize = db.pointerSize) : other.sizeFrom = db.sizeFrom := by
  funext resolved elementSize
  cases resolved with
  | none => rfl
  | some concrete => cases concrete <;> simp [sizeFrom, h]

theorem alignmentFrom_congr (h : other.pointerSize = db.pointerSize) :
    other.alignmentFrom = db.alignmentFrom := by
  funext resolved elementAlignment
  cases resolved with
  | none => rfl
  | some concrete => cases concrete <;> simp [alignmentFrom, h]

/-- A type whose chain of elements ends has the size and the alignment that it has in a database
with the same under the names that measuring comes to. -/
theorem Covers.measures_eq (h : db.Covers other type) (hends : db.Ends type)
    (hpointer : other.pointerSize = db.pointerSize) :
    other.sizeOf type = db.sizeOf type ∧ other.alignmentOf type = db.alignmentOf type := by
  have hstep : ∀ type, db.Covers other type →
      (db.element? type).bind other.sizeOf = (db.element? type).bind db.sizeOf →
      (db.element? type).bind other.alignmentOf = (db.element? type).bind db.alignmentOf →
      other.sizeOf type = db.sizeOf type ∧ other.alignmentOf type = db.alignmentOf type := by
    intro type h hsize halignment
    have hresolve : other.resolve type = db.resolve type := h.chase_eq maxHops
    rw [sizeOf_eq_sizeFrom, sizeOf_eq_sizeFrom db, alignmentOf_eq_alignmentFrom,
      alignmentOf_eq_alignmentFrom db, h.element?_eq, hresolve, hsize, halignment,
      sizeFrom_congr hpointer, alignmentFrom_congr hpointer]
    exact ⟨rfl, rfl⟩
  refine hends.induct (motive := fun type => db.Covers other type →
    other.sizeOf type = db.sizeOf type ∧ other.alignmentOf type = db.alignmentOf type) ?_ ?_ h
  · intro type hleaf h
    exact hstep type h (by rw [hleaf]; rfl) (by rw [hleaf]; rfl)
  · intro type element helement ih h
    obtain ⟨hsize, halignment⟩ := ih (h.of_element? helement)
    exact hstep type h (by rw [helement]; exact hsize) (by rw [helement]; exact halignment)

/-! ## Chains cut short -/

/-- However far the type is followed, it does not come to an array. -/
def AvoidsArrays (db : TypeDatabase) (type : CType) : Prop :=
  ∀ limit element length, db.chase limit type ≠ some (.array element length)

theorem avoidsArrays_struct (layout : StructType CType) : db.AvoidsArrays (.struct layout) := by
  intro limit element length h
  cases limit with
  | zero => cases h
  | succ limit => cases h

theorem AvoidsArrays.of_hop? {next : CType} (h : db.AvoidsArrays next)
    (hhop : db.hop? type = some next) : db.AvoidsArrays type := by
  intro limit element length harray
  cases limit with
  | zero => cases harray
  | succ limit =>
    rw [chase_of_hop? hhop] at harray
    exact h limit element length harray

/-- Every name stands for what it stands for in the first database, or comes to no array. -/
def CutsShort (db other : TypeDatabase) : Prop :=
  ∀ name, other.find? name = db.find? name ∨ other.AvoidsArrays (.named name)

namespace CutsShort

theorem chase_cases (h : db.CutsShort other) (limit : Nat) (type : CType) :
    other.chase limit type = db.chase limit type ∨
      ∀ element length, other.chase limit type ≠ some (.array element length) := by
  induction limit generalizing type with
  | zero => exact .inl rfl
  | succ limit ih =>
    cases type with
    | synonym name target => exact ih target
    | named name =>
      rcases h name with hsame | hcut
      · rw [chase, chase, hsame]
        cases db.find? name with
        | none => exact .inl rfl
        | some found => exact ih found
      · exact .inr (hcut (limit + 1))
    | void | int | float | pointer | array | struct | union | enum | function => exact .inl rfl

/-- A type has the element that it had, or none. -/
theorem element?_cases (h : db.CutsShort other) (type : CType) :
    other.element? type = db.element? type ∨ other.element? type = none := by
  rcases h.chase_cases maxHops type with hsame | hcut
  · exact .inl (by rw [element?, element?, resolve, resolve, hsame])
  · refine .inr (Option.eq_none_iff_forall_ne_some.2 fun element helement => ?_)
    obtain ⟨length, hresolve⟩ := element?_eq_some_iff.1 helement
    exact hcut element length hresolve

/-- A chain of elements that ends still does. -/
theorem ends (h : db.CutsShort other) (hends : db.Ends type) : other.Ends type := by
  refine hends.induct (motive := other.Ends) (fun type hleaf => ?_) fun type element helement ih => ?_
  · rcases h.element?_cases type with hsame | hnone
    · exact ends_of_element?_eq_none (hsame.trans hleaf)
    · exact ends_of_element?_eq_none hnone
  · rcases h.element?_cases type with hsame | hnone
    · exact (ends_iff_of_element? (hsame.trans helement)).2 ih
    · exact ends_of_element?_eq_none hnone

end CutsShort

/-! ## Types put in place -/

theorem getElem?_types_addType (made name : String) (type : CType) :
    (db.addType made type).types[name]? = if made = name then some type else db.types[name]? := by
  simp only [addType, ExtTreeMap.getElem?_insert, Std.compare_eq_iff_eq]

/-- A name without a blank is not the name of a tagged type, so it is looked up for itself alone. -/
theorem find?_addType_of_ne {made name : String} (hblank : ' ' ∉ made.toList) (hne : made ≠ name)
    (type : CType) : (db.addType made type).find? name = db.find? name := by
  have htagged : ∀ keyword, made ≠ keyword ++ " " ++ name := by
    rintro keyword rfl
    simp at hblank
  simp [find?, addType, ExtTreeMap.getElem?_insert, hne, htagged]

theorem find?_addSynonym_of_ne {made name : String} (hne : made ≠ name) (target : CType) :
    (db.addSynonym made target).find? name = db.find? name := by
  simp [find?, addSynonym, ExtTreeMap.getElem?_insert, hne]

end UefiTyping.TypeDatabase
