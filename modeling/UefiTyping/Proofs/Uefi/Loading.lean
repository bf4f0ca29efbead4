import UefiTyping.Proofs.TypeDatabase.Locality
import UefiTyping.Proofs.TypeDatabase.StructLayout
import UefiTyping.Uefi.Library

/-!
# Loading the library returns

Loading makes the definitions of the library one after another and lays each struct out with what
the database holds at that point. So it returns as long as measuring each field does. Pointers and
the structs that were laid out before are measured at once. A name that the library gives a typedef
may be the name of a type that was registered before, and then it is that type which is measured;
a chain of elements that it starts has to end. The structs that take the place of other types on
the way make no chain longer.
-/
namespace UefiTyping.Uefi

open Std (ExtTreeMap)

/-! ## Definitions -/

/-- The name that a definition makes. -/
def Definition.name : Definition → String
  | .synonym name _ => name
  | .struct name _ => name

/-- The fields that a definition lays out. -/
def Definition.fields : Definition → List (String × CType)
  | .synonym .. => []
  | .struct _ fields => fields

section Load
variable {db : TypeDatabase} {name : String}

@[simp] theorem Definition.pointerSize_load (definition : Definition) :
    (definition.load db).pointerSize = db.pointerSize := by
  cases definition with
  | synonym | struct => rfl

theorem Definition.types_load {definition : Definition} (h : definition.name ≠ name) :
    (definition.load db).types[name]? = db.types[name]? := by
  cases definition with
  | synonym => rfl
  | struct made fields =>
    have hother : made ≠ name := h
    exact (TypeDatabase.getElem?_types_addType made name _).trans (if_neg hother)

/-! ## Typedefs -/

/-- The target that a definition gives a name as a typedef. -/
def Definition.target? (name : String) : Definition → Option CType
  | .synonym made target => if made = name then some target else none
  | .struct .. => none

/-- The last target that definitions give a name as a typedef. -/
def target? (name : String) : List Definition → Option CType
  | [] => none
  | definition :: definitions => (target? name definitions).or (definition.target? name)

theorem Definition.synonyms_load (definition : Definition) :
    (definition.load db).synonyms[name]? = (definition.target? name).or db.synonyms[name]? := by
  cases definition with
  | struct => rfl
  | synonym made target =>
    simp only [Definition.load, TypeDatabase.addSynonym, ExtTreeMap.getElem?_insert,
      Std.compare_eq_iff_eq, Definition.target?]
    by_cases heq : made = name
    · rw [if_pos heq, if_pos heq]
      rfl
    · rw [if_neg heq, if_neg heq]
      rfl

/-- A list of typedefs leaves types and pointers alone and gives each name its last target. -/
theorem load_synonyms (entries : List (String × CType)) :
    let definitions := entries.map fun entry => Definition.synonym entry.1 entry.2
    let loaded := definitions.foldl Definition.load db
    loaded.pointerSize = db.pointerSize ∧ loaded.types = db.types ∧
      loaded.synonyms[name]? = (target? name definitions).or db.synonyms[name]? := by
  induction entries generalizing db with
  | nil => exact ⟨rfl, rfl, rfl⟩
  | cons entry entries ih =>
    let definition : Definition := .synonym entry.1 entry.2
    obtain ⟨hpointer, htypes, hsynonyms⟩ := @ih (definition.load db)
    refine ⟨hpointer, htypes, hsynonyms.trans ?_⟩
    rw [definition.synonyms_load, ← Option.or_assoc]
    rfl

/-- The database with the typedefs of the library, before any struct is laid out. -/
def withTypedefs (db : TypeDatabase) : TypeDatabase :=
  (typedefs db.pointerSize).foldl Definition.load db

theorem pointerSize_withTypedefs (db : TypeDatabase) :
    (withTypedefs db).pointerSize = db.pointerSize :=
  (@load_synonyms db "" (baseSynonyms db.pointerSize)).1

theorem types_withTypedefs (db : TypeDatabase) : (withTypedefs db).types = db.types :=
  (@load_synonyms db "" (baseSynonyms db.pointerSize)).2.1

/-- A name that the library gives a typedef stands for its target, unless a type has the name. -/
theorem find?_withTypedefs {target : CType} (hnone : db.types[name]? = none)
    (htarget : target? name (typedefs db.pointerSize) = some target) :
    (withTypedefs db).find? name = some target := by
  obtain ⟨-, htypes, hsynonyms⟩ := @load_synonyms db name (baseSynonyms db.pointerSize)
  refine TypeDatabase.find?_of_synonyms (by rw [types_withTypedefs, hnone]) ?_
  have hfound := hsynonyms.trans (congrArg (Option.or · db.synonyms[name]?) htarget)
  exact hfound

end Load

/-! ## Loading as a run -/

section Loads
variable {db result : TypeDatabase}

/-- Loading definitions returns with a database: laying each struct out returns, and the struct is
registered as it comes out. -/
inductive Loads : TypeDatabase → List Definition → TypeDatabase → Prop
  | done (db : TypeDatabase) : Loads db [] db
  | synonym {db result : TypeDatabase} {name : String} {target : CType}
      {definitions : List Definition} :
      Loads (db.addSynonym name target) definitions result →
        Loads db (.synonym name target :: definitions) result
  | struct {db result : TypeDatabase} {name : String} {fields : List (String × CType)}
      {layout : StructType CType} {definitions : List Definition} :
      db.LaysOut (.empty (some name)) fields layout →
        Loads (db.addType name (.struct layout)) definitions result →
          Loads db (.struct name fields :: definitions) result

/-- Loading goes on behind a definition exactly if each of its fields has a finite chain of
elements. -/
theorem loads_cons_iff {definition : Definition} {definitions : List Definition} :
    Loads db (definition :: definitions) result ↔
      (∀ field ∈ definition.fields, db.Ends field.2) ∧
        Loads (definition.load db) definitions result := by
  constructor
  · rintro (_ | hrest | ⟨hlayout, hrest⟩)
    · exact ⟨fun _ hfield => absurd hfield List.not_mem_nil, hrest⟩
    · obtain ⟨hends, rfl⟩ := TypeDatabase.laysOut_iff.1 hlayout
      exact ⟨hends, hrest⟩
  · rintro ⟨hends, hrest⟩
    cases definition with
    | synonym made target => exact .synonym hrest
    | struct made fields => exact .struct (TypeDatabase.laysOut_iff.2 ⟨hends, rfl⟩) hrest

/-- Whatever loading returns with is what the definitions make of the database. -/
theorem eq_foldl_of_loads {definitions : List Definition} (h : Loads db definitions result) :
    result = definitions.foldl Definition.load db := by
  induction definitions generalizing db with
  | nil =>
    cases h
    rfl
  | cons definition definitions ih => exact ih (loads_cons_iff.1 h).2

theorem loads_synonyms_append_iff {entries : List (String × CType)}
    {definitions : List Definition} :
    let synonyms := entries.map fun entry => Definition.synonym entry.1 entry.2
    Loads db (synonyms ++ definitions) result ↔
      Loads (synonyms.foldl Definition.load db) definitions result := by
  induction entries generalizing db with
  | nil => exact Iff.rfl
  | cons entry entries ih =>
    refine loads_cons_iff.trans ((and_iff_right ?_).trans ih)
    exact fun _ hfield => absurd hfield List.not_mem_nil

end Loads

/-! ## Names that are measured -/

/-- The names that the library measures, besides those of its structs. It gives each of them a
typedef. -/
def measuredNames : List String := ["UINT8", "UINT16", "UINT32", "UINT64", "UINTN", "EFI_HANDLE"]

/-- Whether measuring a type comes to such a name, or to a struct that was laid out before, or to
no name. -/
def isMeasured (laid : List String) : CType → Bool
  | .pointer _ => true
  | .named name => measuredNames.contains name || laid.contains name
  | .array element _ => isMeasured laid element
  | _ => false

/-- Whether a definition is a struct of such types, or a typedef of a struct. -/
def isLoadable (laid : List String) : Definition → Bool
  | .struct name fields =>
    !name.toList.contains ' ' && fields.all fun field => isMeasured laid field.2
  | .synonym _ (.named target) => laid.contains target
  | .synonym .. => false

/-- The structs that are laid out after a definition. -/
def laidAfter (laid : List String) : Definition → List String
  | .struct name _ => name :: laid
  | .synonym .. => laid

/-- Whether each definition is loadable behind those before it. -/
def areLoadable (laid : List String) : List Definition → Bool
  | [] => true
  | definition :: definitions =>
    isLoadable laid definition && areLoadable (laidAfter laid definition) definitions

/-- A database in which what definitions are made of can be measured: the names that the library
gives a typedef, and the structs that were laid out. -/
structure Ready (laid : List String) (db : TypeDatabase) : Prop where
  ends : ∀ name ∈ measuredNames, db.Ends (.named name)
  structs : ∀ name ∈ laid, ∃ layout, db.types[name]? = some (.struct layout)

namespace Ready
variable {db : TypeDatabase} {laid : List String}

theorem ends_of_isMeasured (h : Ready laid db) {type : CType}
    (htype : isMeasured laid type = true) : db.Ends type := by
  fun_induction isMeasured laid type with
  | case1 target => exact TypeDatabase.ends_of_element?_eq_none rfl
  | case2 name =>
    rw [Bool.or_eq_true, List.contains_iff_mem, List.contains_iff_mem] at htype
    rcases htype with hname | hname
    · exact h.ends name hname
    · obtain ⟨layout, hlayout⟩ := h.structs name hname
      refine TypeDatabase.ends_of_element?_eq_none ?_
      rw [TypeDatabase.element?,
        TypeDatabase.resolve_named (TypeDatabase.find?_of_types hlayout) rfl]
  | case3 element length ih =>
    exact (TypeDatabase.ends_iff_of_element? rfl).2 (ih htype)
  | case4 => cases htype

/-- A loadable definition makes no chain of elements longer: what it makes is followed to a
struct. -/
theorem cutsShort (h : Ready laid db) {definition : Definition}
    (hdefinition : isLoadable laid definition = true) : db.CutsShort (definition.load db) := by
  intro name
  cases definition with
  | struct made fields =>
    by_cases hname : made = name
    · subst hname
      have hfound : (db.addStruct made fields).find? made = _ := db.find?_addStruct made fields
      exact .inr ((TypeDatabase.avoidsArrays_struct _).of_hop? hfound)
    · simp only [isLoadable, Bool.and_eq_true, Bool.not_eq_true', List.contains_eq_mem,
        decide_eq_false_iff_not] at hdefinition
      exact .inl (TypeDatabase.find?_addType_of_ne hdefinition.1 hname _)
  | synonym made target =>
    by_cases hname : made = name
    · subst hname
      cases target with
      | named target =>
        obtain ⟨layout, hlayout⟩ := h.structs target (List.contains_iff_mem.1 hdefinition)
        let later := db.addSynonym made (.named target)
        cases htype : db.types[made]? with
        | some type =>
          -- The name of a type does not become that of a typedef.
          have hlater : later.types[made]? = some type := htype
          exact .inl ((TypeDatabase.find?_of_types hlater).trans
            (TypeDatabase.find?_of_types htype).symm)
        | none =>
          have hmade : later.hop? (.named made) = some (.named target) :=
            TypeDatabase.find?_of_synonyms htype ExtTreeMap.getElem?_insert_self
          have htarget : later.hop? (.named target) = some (.struct layout) :=
            TypeDatabase.find?_of_types hlayout
          exact .inr (((TypeDatabase.avoidsArrays_struct layout).of_hop? htarget).of_hop? hmade)
      | void | int | float | pointer | array | struct | union | enum | function | synonym =>
        cases hdefinition
    · exact .inl (TypeDatabase.find?_addSynonym_of_ne hname target)

/-- A loadable definition leaves a database ready for the next one. -/
theorem load (h : Ready laid db) {definition : Definition}
    (hdefinition : isLoadable laid definition = true) :
    Ready (laidAfter laid definition) (definition.load db) := by
  refine ⟨fun name hname => (h.cutsShort hdefinition).ends (h.ends name hname), ?_⟩
  intro name hname
  cases definition with
  | synonym made target => exact h.structs name hname
  | struct made fields =>
    by_cases hmade : made = name
    · subst hmade
      exact ⟨_, ExtTreeMap.getElem?_insert_self⟩
    · have hother : (Definition.struct made fields).name ≠ name := hmade
      rw [Definition.types_load hother]
      exact h.structs name ((List.mem_cons.1 hname).resolve_left (Ne.symm hmade))

/-- Loading loadable definitions returns. -/
theorem loads (h : Ready laid db) {definitions : List Definition}
    (hall : areLoadable laid definitions = true) :
    Loads db definitions (definitions.foldl Definition.load db) := by
  induction definitions generalizing laid db with
  | nil => exact .done db
  | cons definition definitions ih =>
    rw [areLoadable, Bool.and_eq_true] at hall
    refine loads_cons_iff.2 ⟨fun field hfield => ?_, ih (h.load hall.1) hall.2⟩
    cases definition with
    | synonym made target => cases hfield
    | struct made fields =>
      rw [isLoadable, Bool.and_eq_true, List.all_eq_true] at hall
      exact h.ends_of_isMeasured (hall.1.2 field hfield)

end Ready

/-! ## The library -/

/-- The library gives each name that it measures an integer or a pointer as a typedef. -/
theorem exists_target?_of_mem_measuredNames (pointerSize : Nat) {name : String}
    (hname : name ∈ measuredNames) :
    ∃ target, target? name (typedefs pointerSize) = some target ∧ target.isConcrete = true ∧
      target.isArray = false := by
  simp only [measuredNames, List.mem_cons, List.not_mem_nil, or_false] at hname
  rcases hname with rfl | rfl | rfl | rfl | rfl | rfl
  all_goals exact ⟨_, rfl, rfl, rfl⟩

/-- With the typedefs in place the names can be measured, unless a type has one and does not end. -/
theorem ready_withTypedefs {db : TypeDatabase}
    (hends : ∀ name ∈ measuredNames, ∀ type, db.types[name]? = some type →
      (withTypedefs db).Ends (.named name)) : Ready [] (withTypedefs db) := by
  refine ⟨fun name hname => ?_, fun _ hlaid => absurd hlaid List.not_mem_nil⟩
  cases htype : db.types[name]? with
  | some type => exact hends name hname type htype
  | none =>
    obtain ⟨target, htarget, hconcrete, harray⟩ :=
      exists_target?_of_mem_measuredNames db.pointerSize hname
    refine TypeDatabase.ends_of_element?_eq_none ?_
    rw [TypeDatabase.element?,
      TypeDatabase.resolve_named (find?_withTypedefs htype htarget) hconcrete]
    cases target with
    | array => cases harray
    | void | int | float | pointer | struct | union | enum | function | synonym | named => rfl

/-- Loading the library returns, over any database and for any pointer size, as long as no type
that has a name that the library measures starts a chain of elements without an end. -/
theorem loads_library_iff {db result : TypeDatabase}
    (hends : ∀ name ∈ measuredNames, ∀ type, db.types[name]? = some type →
      (withTypedefs db).Ends (.named name)) :
    Loads db (library db.pointerSize) result ↔ result = load db := by
  refine ⟨eq_foldl_of_loads, ?_⟩
  rintro rfl
  have hloadable : areLoadable [] structs = true := by decide
  have hloads := (ready_withTypedefs hends).loads hloadable
  rw [load, library, List.foldl_append]
  exact loads_synonyms_append_iff.2 hloads

/-- Loading returns only if the fields of a GUID, which is laid out first, can be measured. -/
theorem ends_of_loads_library {db result : TypeDatabase}
    (h : Loads db (library db.pointerSize) result) :
    ∀ field ∈ guidFields, (withTypedefs db).Ends field.2 :=
  (loads_cons_iff.1 (loads_synonyms_append_iff.1 h)).1

/-- Over a database in which `UINT16` is an array of itself loading does not return: the second
field of a GUID cannot be measured. -/
theorem not_loads_over_ring :
    let db := (TypeDatabase.empty 8).addType "UINT16" (.array (.named "UINT16") (some 2))
    ∀ result, ¬ Loads db (library db.pointerSize) result := by
  intro db result h
  have hcyclic : IsCyclic (withTypedefs db).element? (.named "UINT16") := ⟨0, by rfl⟩
  obtain ⟨steps, hend⟩ := ends_of_loads_library h ("Data2", .named "UINT16") (by simp [guidFields])
  exact hcyclic.follow_ne_none steps hend

end UefiTyping.Uefi
