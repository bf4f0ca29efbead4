import UefiTyping.Proofs.TypeDatabase.Resolution

/-!
# Arrays inside one another

To measure an array its element is measured first, and resolved anew for that. So a type starts a
chain of elements: the element of the array that it resolves to, the element of the array that
this one resolves to, and so on. The bound on hops does not end it, as each member has hops of
its own; what ends it is that a database holds finitely many arrays. A chain that comes to no
array for the second time ends within the number of arrays that are written in the database and
in the type, and sizing returns. A type that contains itself has no end to its chain, and sizing
does not return.
-/
namespace UefiTyping.TypeDatabase

variable {db : TypeDatabase} {type element : CType} {value : Option Nat}

/-! ## The chain of elements -/

/-- The element of the array that a type resolves to. -/
def element? (db : TypeDatabase) (type : CType) : Option CType :=
  match db.resolve type with
  | some (.array element _) => some element
  | _ => none

theorem element?_eq_some_iff :
    db.element? type = some element ↔ ∃ length, db.resolve type = some (.array element length) := by
  rw [element?]
  cases db.resolve type with
  | none => simp
  | some concrete => cases concrete <;> simp

/-- The chain of elements from the type on is finite. -/
def Ends (db : TypeDatabase) (type : CType) : Prop :=
  ∃ steps, follow db.element? steps type = none

theorem ends_of_element?_eq_none (h : db.element? type = none) : db.Ends type :=
  ⟨1, by rw [follow_succ, h, Option.bind_none]⟩

theorem ends_iff_of_element? (h : db.element? type = some element) :
    db.Ends type ↔ db.Ends element := by
  constructor
  · rintro ⟨steps, hend⟩
    cases steps with
    | zero => cases hend
    | succ steps =>
      rw [follow_succ, h, Option.bind_some] at hend
      exact ⟨steps, hend⟩
  · rintro ⟨steps, hend⟩
    exact ⟨steps + 1, by rw [follow_succ, h, Option.bind_some, hend]⟩

/-- What holds of a type with no element, and of an array when it holds of the element, holds
wherever the chain ends. -/
theorem Ends.induct {motive : CType → Prop} (h : db.Ends type)
    (leaf : ∀ type, db.element? type = none → motive type)
    (array : ∀ type element, db.element? type = some element → motive element → motive type) :
    motive type := by
  obtain ⟨steps, hend⟩ := h
  induction steps generalizing type with
  | zero => cases hend
  | succ steps ih =>
    cases helement : db.element? type with
    | none => exact leaf type helement
    | some element =>
      rw [follow_succ, helement, Option.bind_some] at hend
      exact array type element helement (ih hend)

/-! ## The arrays that are written -/

/-- The elements of the arrays that stand one inside another in a type, typedefs looked through. -/
def elementsIn : CType → List CType
  | .array element _ => element :: elementsIn element
  | .synonym _ target => elementsIn target
  | _ => []

theorem length_elementsIn (type : CType) : (elementsIn type).length = arrayNesting type := by
  fun_induction elementsIn type with
  | case1 element length ih => rw [List.length_cons, ih, arrayNesting]
  | case2 name target ih => rw [ih, arrayNesting]
  | case3 type hnotArray hnotSynonym =>
    cases type with
    | array element length => exact absurd rfl (hnotArray element length)
    | synonym name target => exact absurd rfl (hnotSynonym name target)
    | void | int | float | pointer | struct | union | enum | function | named => rfl

/-- The elements of all arrays that are written in a database and in a type. -/
def elementsWritten (db : TypeDatabase) (type : CType) : List CType :=
  ((db.types.toList ++ db.synonyms.toList).flatMap fun entry => elementsIn entry.2)
    ++ elementsIn type

theorem length_elementsWritten (db : TypeDatabase) (type : CType) :
    (db.elementsWritten type).length + 1 = db.arrayBudget type := by
  simp only [elementsWritten, arrayBudget, List.length_append, List.length_flatMap,
    length_elementsIn, List.sum_eq_foldr, List.foldr_map]

/-- What is found under a name is registered as a type or as a typedef. -/
theorem mem_of_find? {name : String} (h : db.find? name = some type) :
    ∃ entry ∈ db.types.toList ++ db.synonyms.toList, entry.2 = type := by
  simp only [find?, Option.orElse_eq_orElse, Option.orElse_eq_or, Option.or_eq_some_iff] at h
  simp only [List.mem_append, Prod.exists, Std.ExtTreeMap.mem_toList_iff_getElem?_eq_some,
    exists_eq_right]
  rcases h with h | ⟨-, h | ⟨-, h⟩⟩
  · exact ⟨name, .inl h⟩
  · exact ⟨name, .inr h⟩
  · obtain ⟨keyword, -, hkeyword⟩ := List.exists_of_findSome?_eq_some h
    exact ⟨_, .inl hkeyword⟩

section Written
variable {start : CType}

theorem elementsIn_subset_of_hop? {next : CType} (h : elementsIn type ⊆ db.elementsWritten start)
    (hhop : db.hop? type = some next) : elementsIn next ⊆ db.elementsWritten start := by
  cases type with
  | synonym name target =>
    obtain rfl := Option.some.inj hhop
    exact h
  | named name =>
    obtain ⟨entry, hentry, rfl⟩ := mem_of_find? hhop
    intro inner hinner
    exact List.mem_append_left _ (List.mem_flatMap.2 ⟨entry, hentry, hinner⟩)
  | void | int | float | pointer | array | struct | union | enum | function => cases hhop

theorem elementsIn_subset_of_follow {hops : Nat} {last : CType}
    (h : elementsIn type ⊆ db.elementsWritten start)
    (hfollow : follow db.hop? hops type = some last) :
    elementsIn last ⊆ db.elementsWritten start := by
  induction hops generalizing type with
  | zero =>
    obtain rfl := Option.some.inj hfollow
    exact h
  | succ hops ih =>
    obtain ⟨next, hhop, hrest⟩ := Option.bind_eq_some_iff.1 hfollow
    exact ih (elementsIn_subset_of_hop? h hhop) hrest

/-- The element of an array is one that is written, as are those of the arrays inside it. -/
theorem mem_elementsWritten_of_element? (h : elementsIn type ⊆ db.elementsWritten start)
    (helement : db.element? type = some element) :
    element ∈ db.elementsWritten start ∧ elementsIn element ⊆ db.elementsWritten start := by
  obtain ⟨length, hresolve⟩ := element?_eq_some_iff.1 helement
  obtain ⟨-, hops, -, hfollow⟩ := chase_eq_some_iff.1 hresolve
  have harray := elementsIn_subset_of_follow h hfollow
  exact ⟨harray List.mem_cons_self, fun inner hinner => harray (List.mem_cons_of_mem _ hinner)⟩

theorem mem_elementsWritten_of_follow {steps : Nat} {later : CType}
    (h : elementsIn type ⊆ db.elementsWritten start)
    (hfollow : follow db.element? (steps + 1) type = some later) :
    later ∈ db.elementsWritten start := by
  induction steps generalizing type with
  | zero =>
    obtain ⟨element, helement, hlater⟩ := Option.bind_eq_some_iff.1 hfollow
    obtain rfl := Option.some.inj hlater
    exact (mem_elementsWritten_of_element? h helement).1
  | succ steps ih =>
    obtain ⟨element, helement, hrest⟩ := Option.bind_eq_some_iff.1 hfollow
    exact ih (mem_elementsWritten_of_element? h helement).2 hrest

end Written

/-- All members of the chain but the first are elements that are written. -/
theorem mem_elementsWritten (db : TypeDatabase) (type : CType) (steps : Nat) (later : CType)
    (h : follow db.element? (steps + 1) type = some later) : later ∈ db.elementsWritten type :=
  mem_elementsWritten_of_follow (List.subset_append_right _ _) h

/-- The chain is finite exactly if no member of it comes back to itself. -/
theorem ends_iff_forall_not_isCyclic :
    db.Ends type ↔ ∀ steps inner, follow db.element? steps type = some inner →
      ¬ IsCyclic db.element? inner :=
  exists_follow_eq_none_iff (db.mem_elementsWritten type)

/-- A finite chain is no longer than there are arrays. -/
theorem Ends.follow_arrayBudget (h : db.Ends type) :
    follow db.element? (db.arrayBudget type) type = none := by
  rw [← length_elementsWritten]
  exact follow_eq_none_of_not_isCyclic (db.mem_elementsWritten type)
    (ends_iff_forall_not_isCyclic.1 h)

/-! ## Recursion along the chain -/

/-- The calls that a recursion along the chain makes for a type all return, and the value is
what comes out. `combine` makes it from what the type resolves to and the value for the element
of the array, where there is one. -/
inductive Returns (db : TypeDatabase) (combine : Option CType → Option Nat → Option Nat) :
    CType → Option Nat → Prop
  | leaf {type : CType} : db.element? type = none →
      Returns db combine type (combine (db.resolve type) none)
  | array {type element : CType} {value : Option Nat} : db.element? type = some element →
      Returns db combine element value → Returns db combine type (combine (db.resolve type) value)

/-- A recursion along the chain returns exactly if the chain is finite. -/
theorem returns_iff {combine : Option CType → Option Nat → Option Nat}
    {result : CType → Option Nat}
    (hresult : ∀ type,
      result type = combine (db.resolve type) ((db.element? type).bind result)) :
    db.Returns combine type value ↔ db.Ends type ∧ value = result type := by
  constructor
  · intro h
    induction h with
    | leaf hleaf =>
      refine ⟨ends_of_element?_eq_none hleaf, ?_⟩
      rw [hresult, hleaf, Option.bind_none]
    | @array type element value helement _ ih =>
      obtain ⟨hends, rfl⟩ := ih
      refine ⟨(ends_iff_of_element? helement).2 hends, ?_⟩
      rw [hresult type, helement, Option.bind_some]
  · rintro ⟨hends, rfl⟩
    refine hends.induct (motive := fun type => db.Returns combine type (result type))
      (fun type hleaf => ?_) fun type element helement ih => ?_
    · rw [hresult type, hleaf, Option.bind_none]
      exact .leaf hleaf
    · rw [hresult type, helement, Option.bind_some]
      exact .array helement ih

/-- The size of a type by what it resolves to and the size of the element. -/
def sizeFrom (db : TypeDatabase) (resolved : Option CType) (elementSize : Option Nat) :
    Option Nat :=
  match resolved with
  | none => none
  | some (.pointer _) => some db.pointerSize
  | some (.array _ length) => do return (← elementSize) * (← length)
  | some concrete => concrete.size

/-- The alignment of a type by what it resolves to and the alignment of the element. -/
def alignmentFrom (db : TypeDatabase) (resolved : Option CType)
    (elementAlignment : Option Nat) : Option Nat :=
  match resolved with
  | none => none
  | some (.pointer _) => some db.pointerSize
  | some (.array ..) => elementAlignment
  | some concrete => concrete.alignment

theorem sizeOf_eq_sizeFrom (db : TypeDatabase) (type : CType) :
    db.sizeOf type = db.sizeFrom (db.resolve type) ((db.element? type).bind db.sizeOf) := by
  rw [sizeOf_eq_sizeThrough, sizeThrough, element?, funext db.sizeOf_eq_sizeThrough]
  cases db.resolve type with
  | none => rfl
  | some concrete => cases concrete <;> rfl

theorem alignmentOf_eq_alignmentFrom (db : TypeDatabase) (type : CType) :
    db.alignmentOf type =
      db.alignmentFrom (db.resolve type) ((db.element? type).bind db.alignmentOf) := by
  rw [alignmentOf_eq_alignmentThrough, alignmentThrough, element?,
    funext db.alignmentOf_eq_alignmentThrough]
  cases db.resolve type with
  | none => rfl
  | some concrete => cases concrete <;> rfl

/-- Only a type with a finite chain has a size. -/
theorem ends_of_sizeOf {size : Nat} (h : db.sizeOf type = some size) : db.Ends type := by
  rw [sizeOf_eq_sizeThrough] at h
  refine sizeThrough.partial_correctness db (fun type _ => db.Ends type) ?_ type size h
  intro sizeOfElement ih type size h
  cases helement : db.element? type with
  | none => exact ends_of_element?_eq_none helement
  | some element =>
    obtain ⟨length, hresolve⟩ := element?_eq_some_iff.1 helement
    rw [hresolve] at h
    obtain ⟨elementSize, hsize, -⟩ := Option.bind_eq_some_iff.1 h
    exact (ends_iff_of_element? helement).2 (ih element elementSize hsize)

/-- Only a type with a finite chain has an alignment. -/
theorem ends_of_alignmentOf {alignment : Nat} (h : db.alignmentOf type = some alignment) :
    db.Ends type := by
  rw [alignmentOf_eq_alignmentThrough] at h
  refine alignmentThrough.partial_correctness db (fun type _ => db.Ends type) ?_ type alignment h
  intro alignmentOfElement ih type alignment h
  cases helement : db.element? type with
  | none => exact ends_of_element?_eq_none helement
  | some element =>
    obtain ⟨length, hresolve⟩ := element?_eq_some_iff.1 helement
    rw [hresolve] at h
    exact (ends_iff_of_element? helement).2 (ih element alignment h)

theorem measures_eq_none_of_not_ends (h : ¬ db.Ends type) :
    db.sizeOf type = none ∧ db.alignmentOf type = none :=
  ⟨Option.eq_none_iff_forall_ne_some.2 fun _ hsize => h (ends_of_sizeOf hsize),
    Option.eq_none_iff_forall_ne_some.2 fun _ halignment => h (ends_of_alignmentOf halignment)⟩

/-- Sizing and aligning a type return exactly if the chain of elements from it on is finite. It
is exactly if no member is an array inside itself, and it then ends within the number of arrays
that are written in the database and the type. -/
theorem measuring_returns_iff (db : TypeDatabase) (type : CType) :
    (∀ size, db.Returns db.sizeFrom type size ↔ db.Ends type ∧ size = db.sizeOf type) ∧
      (∀ alignment, db.Returns db.alignmentFrom type alignment ↔
        db.Ends type ∧ alignment = db.alignmentOf type) ∧
      (db.Ends type ↔ ∀ steps inner, follow db.element? steps type = some inner →
        ¬ IsCyclic db.element? inner) ∧
      (db.Ends type → follow db.element? (db.arrayBudget type) type = none) := by
  refine ⟨fun size => ?_, fun alignment => ?_, ends_iff_forall_not_isCyclic,
    fun hends => hends.follow_arrayBudget⟩
  · exact returns_iff db.sizeOf_eq_sizeFrom
  · exact returns_iff db.alignmentOf_eq_alignmentFrom

/-- A typedef of an array of two of itself resolves to that array, and measuring it does not
return. -/
theorem measuring_ring_never_returns :
    let ring := CType.named "RING"
    let db := (empty 8).addSynonym "RING" (.array ring (some 2))
    db.resolve ring = some (.array ring (some 2)) ∧ ¬ db.Ends ring ∧
      (∀ size, ¬ db.Returns db.sizeFrom ring size) ∧
      ∀ alignment, ¬ db.Returns db.alignmentFrom ring alignment := by
  intro ring db
  have hcyclic : IsCyclic db.element? ring := ⟨0, rfl⟩
  have hends : ¬ db.Ends ring := fun ⟨steps, hend⟩ => hcyclic.follow_ne_none steps hend
  refine ⟨rfl, hends, fun size hsize => ?_, fun alignment halignment => ?_⟩
  · exact hends ((returns_iff db.sizeOf_eq_sizeFrom).1 hsize).1
  · exact hends ((returns_iff db.alignmentOf_eq_alignmentFrom).1 halignment).1

end UefiTyping.TypeDatabase
