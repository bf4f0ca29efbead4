import UefiTyping.Proofs.TypeDatabase.ArrayElements
import UefiTyping.Proofs.TypeDatabase.Width
import UefiTyping.TypeDatabase.FieldOffset
import UefiTyping.TypeDatabase.Json
import UefiTyping.TypeDatabase.Scalar

/-!
# Saved type databases

A type database is loaded with the types and the typedefs that it was saved with, whatever the
order in which its document lists them, as long as their numbers fit in words and the document
nests no deeper than can be read. What the document leaves out is the pointer size: a loaded
database is one for x64. So all that it answers without asking for the size of a pointer, it
answers as before, and the size and alignment of a type are as before unless they are those
of a pointer.
-/
namespace UefiTyping.TypeDatabase

open Json (Decoder)
open Std (ExtTreeMap)

/-! ## Documents -/

/-- The document of a database that lists its types and its typedefs in the given orders. -/
def toJsonIn (types synonyms : List (String × CType)) : Json :=
  let entriesToJson (entries : List (String × CType)) : Json :=
    .ofFields (entries.map fun entry => (entry.1, entry.2.toJson))
  .ofFields [("types", entriesToJson types), ("typedefs", entriesToJson synonyms)]

/-- Saving lists the entries in the order of their names. -/
theorem toJson_eq_toJsonIn (db : TypeDatabase) :
    db.toJson = toJsonIn db.types.toList db.synonyms.toList := rfl

/-- The order of the entries makes no difference to the nesting. -/
theorem depth_toJsonIn_of_perm {types types' synonyms synonyms' : List (String × CType)}
    (htypes : types.Perm types') (hsynonyms : synonyms.Perm synonyms') :
    (toJsonIn types synonyms).depth = (toJsonIn types' synonyms').depth := by
  simp only [toJsonIn, Json.ofFields, List.map_cons, List.map_nil, Json.depth, Json.depthOfMembers,
    Json.depthOfMembers_of_perm ((htypes.map _).map _),
    Json.depthOfMembers_of_perm ((hsynonyms.map _).map _)]

theorem recovers_entries {map : ExtTreeMap String CType} {entries : List (String × CType)}
    (horder : entries.Perm map.toList)
    (h : ∀ {name : String} {type : CType}, map[name]? = some type → type.FitsWords) :
    decodeEntries.Recovers (.ofFields (entries.map fun entry => (entry.1, entry.2.toJson))) map :=
  Decoder.recovers_map id CType.toJson horder Json.textKey_escape fun htype => (h htype).recovers

/-! ## Another pointer size -/

/-- The database with its entries for pointers of another size. -/
def withPointerSize (db : TypeDatabase) (pointerSize : Nat) : TypeDatabase :=
  { db with pointerSize }

/-- A database whose types fit is recovered as one for x64. -/
theorem FitsWords.recovers {db : TypeDatabase} (h : db.FitsWords)
    {types synonyms : List (String × CType)} (htypes : types.Perm db.types.toList)
    (hsynonyms : synonyms.Perm db.synonyms.toList) :
    ofJson.Recovers (toJsonIn types synonyms) (db.withPointerSize pointerSizeX64) := by
  have htypes' := recovers_entries htypes h.types
  have hsynonyms' := recovers_entries hsynonyms h.synonyms
  refine Decoder.recovers_record rfl (by simp) ?_ fun {levels} hlevels => ?_
  · simp [htypes'.wellSpelled, hsynonyms'.wellSpelled]
  · simp only [List.forall_mem_cons] at hlevels
    obtain ⟨htypes'', hsynonyms'', -⟩ := hlevels
    simp [htypes'.decode_eq htypes'', hsynonyms'.decode_eq hsynonyms'', withPointerSize]

section PointerSize
variable (db : TypeDatabase) (pointerSize : Nat)

theorem chase_withPointerSize (limit : Nat) (type : CType) :
    (db.withPointerSize pointerSize).chase limit type = db.chase limit type := by
  induction limit generalizing type with
  | zero => rfl
  | succ limit ih =>
    have hnames : (db.withPointerSize pointerSize).chase limit = db.chase limit := funext ih
    cases type with
    | synonym name target => exact ih target
    | named name => exact congrArg (db.find? name).bind hnames
    | void | int | float | pointer | array | struct | union | enum | function => rfl

theorem resolve_withPointerSize (type : CType) :
    (db.withPointerSize pointerSize).resolve type = db.resolve type :=
  db.chase_withPointerSize pointerSize maxHops type

theorem classify_withPointerSize (type : CType) :
    (db.withPointerSize pointerSize).classify type = db.classify type := by
  rw [classify, classify, classifyRealType, classifyRealType, resolve_withPointerSize]

theorem fieldOffset_withPointerSize (type : CType) (field : String) :
    (db.withPointerSize pointerSize).fieldOffset type field = db.fieldOffset type field := by
  rw [fieldOffset, fieldOffset, resolve_withPointerSize]

theorem isScalarBehind_withPointerSize (pointers : Nat) (type : CType) :
    (db.withPointerSize pointerSize).isScalarBehind pointers type =
      db.isScalarBehind pointers type := by
  induction pointers generalizing type with
  | zero => simp only [isScalarBehind, classify_withPointerSize]
  | succ pointers ih =>
    unfold isScalarBehind
    rw [classify_withPointerSize, resolve_withPointerSize]
    cases db.resolve type with
    | none => rfl
    | some concrete =>
      cases concrete with
      | pointer target => simp only [ih]
      | void | int | float | array | struct | union | enum | function | synonym | named => rfl

theorem isPodArray_withPointerSize (type : CType) (pointers : Nat) :
    (db.withPointerSize pointerSize).isPodArray type pointers = db.isPodArray type pointers := by
  simp only [isPodArray, resolve_withPointerSize, isScalarBehind_withPointerSize]

end PointerSize

/-! ## Sizes -/

/-- The type has the size of pointers: it resolves to one, or to an array of such elements. -/
inductive SizedByPointer (db : TypeDatabase) : CType → Prop
  | pointer {type target : CType} : db.resolve type = some (.pointer target) →
      SizedByPointer db type
  | array {type element : CType} {length : Option Nat} :
      db.resolve type = some (.array element length) → SizedByPointer db element →
      SizedByPointer db type

theorem element?_withPointerSize (db : TypeDatabase) (pointerSize : Nat) :
    (db.withPointerSize pointerSize).element? = db.element? := by
  funext type
  rw [element?, element?, resolve_withPointerSize]

section Sizes
variable {db : TypeDatabase} {type : CType}

/-- Only a pointer takes anything from the pointer size. -/
theorem measureFrom_withPointerSize (pointerSize : Nat)
    (h : ∀ target, db.resolve type ≠ some (.pointer target)) (value : Option Nat) :
    (db.withPointerSize pointerSize).sizeFrom (db.resolve type) value =
        db.sizeFrom (db.resolve type) value ∧
      (db.withPointerSize pointerSize).alignmentFrom (db.resolve type) value =
        db.alignmentFrom (db.resolve type) value := by
  cases hresolve : db.resolve type with
  | none => exact ⟨rfl, rfl⟩
  | some concrete =>
    cases concrete with
    | pointer target => exact absurd hresolve (h target)
    | void | int | float | array | struct | union | enum | function | synonym | named =>
      exact ⟨rfl, rfl⟩

/-- A type that does not have the size of pointers is measured the same for all pointers. -/
theorem measured_withPointerSize (pointerSize : Nat) (h : ¬ db.SizedByPointer type) :
    (db.withPointerSize pointerSize).sizeOf type = db.sizeOf type ∧
      (db.withPointerSize pointerSize).alignmentOf type = db.alignmentOf type := by
  have hsame := db.element?_withPointerSize pointerSize
  by_cases hends : db.Ends type
  · revert h
    refine hends.induct (motive := fun type => ¬ db.SizedByPointer type →
      (db.withPointerSize pointerSize).sizeOf type = db.sizeOf type ∧
        (db.withPointerSize pointerSize).alignmentOf type = db.alignmentOf type)
      (fun type hleaf h => ?_) fun type element helement ih h => ?_
    · have hfrom := measureFrom_withPointerSize pointerSize fun target hresolve =>
        h (.pointer hresolve)
      rw [sizeOf_eq_sizeFrom, sizeOf_eq_sizeFrom, alignmentOf_eq_alignmentFrom,
        alignmentOf_eq_alignmentFrom, resolve_withPointerSize, hsame, hleaf]
      exact hfrom none
    · have hfrom := measureFrom_withPointerSize pointerSize fun target hresolve =>
        h (.pointer hresolve)
      obtain ⟨length, hresolve⟩ := element?_eq_some_iff.1 helement
      obtain ⟨hsize, halignment⟩ := ih fun hpointer => h (.array hresolve hpointer)
      rw [sizeOf_eq_sizeFrom, sizeOf_eq_sizeFrom, alignmentOf_eq_alignmentFrom,
        alignmentOf_eq_alignmentFrom, resolve_withPointerSize, hsame, helement]
      simp only [Option.bind_some, hsize, halignment]
      exact ⟨(hfrom _).1, (hfrom _).2⟩
  · have hends' : ¬ (db.withPointerSize pointerSize).Ends type := by rwa [Ends, hsame]
    obtain ⟨hsize, halignment⟩ := measures_eq_none_of_not_ends hends
    obtain ⟨hsize', halignment'⟩ := measures_eq_none_of_not_ends hends'
    exact ⟨hsize'.trans hsize.symm, halignment'.trans halignment.symm⟩

end Sizes

/-! ## Loading what was saved -/

theorem FitsWords.ofText?_eq {db : TypeDatabase} (h : db.FitsWords)
    (hdepth : db.toJson.depth ≤ Json.maxDepth) {types synonyms : List (String × CType)}
    (htypes : types.Perm db.types.toList) (hsynonyms : synonyms.Perm db.synonyms.toList) :
    ofText? (toJsonIn types synonyms).indented = some (db.withPointerSize pointerSizeX64) := by
  rw [toJson_eq_toJsonIn, ← depth_toJsonIn_of_perm htypes hsynonyms] at hdepth
  exact (h.recovers htypes hsynonyms).ofText?_indented hdepth

/-- A saved database is loaded with its entries, for pointers of eight bytes. However the
database was filled, its text is loaded, in whatever order that lists the entries, and what is
found under a name, what a type resolves to, where its fields are and whether it is an array of
scalars are as before. So are sizes and alignments: all of them if pointers had eight bytes,
and otherwise those of the types that do not have the size of pointers. -/
theorem load_saved_database {db : TypeDatabase} (hfits : db.FitsWords)
    (hdepth : db.toJson.depth ≤ Json.maxDepth) :
    ∃ loaded : TypeDatabase, ofText? db.toText = some loaded ∧
      (∀ types synonyms : List (String × CType), types.Perm db.types.toList →
        synonyms.Perm db.synonyms.toList →
        ofText? (toJsonIn types synonyms).indented = some loaded) ∧
      loaded = { db with pointerSize := 8 } ∧
      (∀ name, loaded.find? name = db.find? name) ∧
      (∀ type, loaded.resolve type = db.resolve type) ∧
      (∀ type field, loaded.fieldOffset type field = db.fieldOffset type field) ∧
      (∀ type pointers, loaded.isPodArray type pointers = db.isPodArray type pointers) ∧
      ∀ type, db.pointerSize = 8 ∨ ¬ db.SizedByPointer type →
        loaded.sizeOf type = db.sizeOf type ∧ loaded.alignmentOf type = db.alignmentOf type := by
  refine ⟨db.withPointerSize pointerSizeX64,
    hfits.ofText?_eq hdepth (List.Perm.refl _) (List.Perm.refl _),
    fun types synonyms htypes hsynonyms => hfits.ofText?_eq hdepth htypes hsynonyms, rfl,
    fun name => rfl, db.resolve_withPointerSize _, db.fieldOffset_withPointerSize _,
    db.isPodArray_withPointerSize _, fun type hsize => ?_⟩
  rcases hsize with hsame | hsize
  · have hdb : db.withPointerSize pointerSizeX64 = db := by
      rw [withPointerSize, pointerSizeX64, ← hsame]
    rw [hdb]
    exact ⟨rfl, rfl⟩
  · exact measured_withPointerSize _ hsize

/-- A 32-bit database is loaded with its layouts: the struct keeps its size and its offsets,
though the pointer in it took four bytes and a pointer now takes eight. -/
theorem load_saved_database_device :
    let device := CType.named "DEVICE"
    let db := ((empty 4).addSynonym "EFI_HANDLE" .voidPointer).addStruct "DEVICE"
      [("Parent", .named "EFI_HANDLE"), ("Ports", .array .ushort (some 3)), ("Id", .uint)]
    db.sizeOf device = some 16 ∧ db.fieldOffset device "Id" = .ok 12 ∧
      ∃ loaded, ofText? db.toText = some loaded ∧ loaded.pointerSize = 8 ∧
        loaded.sizeOf device = some 16 ∧ loaded.fieldOffset device "Id" = .ok 12 := by
  intro device db
  have hfits : db.FitsWords := by
    refine ((FitsWords.empty 4).addSynonym _ (.pointer .void)).addStruct _ ?_ (by decide) (by decide)
    simpa using ⟨.named "EFI_HANDLE", .array (.int false (by decide)) (by decide),
      .int false (by decide)⟩
  have hstruct : ¬ db.SizedByPointer device := by
    intro hpointer
    cases hpointer with
    | pointer hresolve => cases hresolve
    | array hresolve => cases hresolve
  obtain ⟨loaded, hloaded, -, hsame, -, -, hoffset, -, hsize⟩ :=
    load_saved_database hfits (by decide)
  refine ⟨by rfl, by rfl, loaded, hloaded, by rw [hsame], ?_, ?_⟩
  · rw [(hsize device (.inr hstruct)).1]
    rfl
  · rw [hoffset]
    rfl

/-- The pointer size is lost: a handle of four bytes has eight after saving and loading. -/
theorem handle_widened_by_reload :
    let handle := CType.named "EFI_HANDLE"
    let db := (empty 4).addSynonym "EFI_HANDLE" .voidPointer
    db.FitsWords ∧ db.toJson.depth ≤ Json.maxDepth ∧ db.sizeOf handle = some 4 ∧
      ∃ loaded, ofText? db.toText = some loaded ∧ loaded.sizeOf handle = some 8 := by
  intro handle db
  have hfits : db.FitsWords := (FitsWords.empty 4).addSynonym _ (.pointer .void)
  have hdepth : db.toJson.depth ≤ Json.maxDepth := by decide
  exact ⟨hfits, hdepth, by rfl, db.withPointerSize pointerSizeX64,
    hfits.ofText?_eq hdepth (List.Perm.refl _) (List.Perm.refl _), by rfl⟩

end UefiTyping.TypeDatabase
