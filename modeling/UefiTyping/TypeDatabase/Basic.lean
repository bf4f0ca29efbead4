import Std.Data.ExtTreeMap
import UefiTyping.CType.Layout

/-!
# Type database

A type database registers types and typedefs by name for one pointer size. It
resolves a type by following typedefs and names down to something concrete, and sizes
types accordingly.

Resolution follows at most `maxHops` hops less one; a longer chain, a cycle and a name
that is not registered all resolve to nothing. Sizing an array resolves its element
anew, so the hops of one element do not count against the next.
-/
namespace UefiTyping

open Std (ExtTreeMap)

/-- Types and typedefs by name, for one pointer size. -/
structure TypeDatabase where
  /-- Structs, unions and enumerations. -/
  types : ExtTreeMap String CType
  /-- Typedefs. -/
  synonyms : ExtTreeMap String CType
  pointerSize : Nat

namespace TypeDatabase

/-- The database without entries, for pointers of the given size. -/
def empty (pointerSize : Nat) : TypeDatabase := ⟨∅, ∅, pointerSize⟩

/-- The pointer size of x64 firmware. -/
def pointerSizeX64 : Nat := 8

/-! ## Registration -/

/-- Registers a type, in place of any type of that name. -/
def addType (db : TypeDatabase) (name : String) (type : CType) : TypeDatabase :=
  { db with types := db.types.insert name type }

/-- Registers a typedef, in place of any typedef of that name. -/
def addSynonym (db : TypeDatabase) (name : String) (target : CType) : TypeDatabase :=
  { db with synonyms := db.synonyms.insert name target }

/-! ## Lookup -/

/-- The keywords under which a tagged type may be registered besides its plain name. -/
def tagKeywords : List String := ["struct", "union", "enum"]

/-- What is registered under a name: a type, else a typedef, else a type registered
under the name behind a keyword. -/
def find? (db : TypeDatabase) (name : String) : Option CType :=
  db.types[name]? <|> db.synonyms[name]? <|>
    tagKeywords.findSome? fun keyword => db.types[keyword ++ " " ++ name]?

/-- Whether anything is registered under a name. -/
def has (db : TypeDatabase) (name : String) : Bool := (db.find? name).isSome

/-! ## Resolution -/

/-- How many types resolution looks at before it gives up. -/
def maxHops : Nat := 32

/-- Follows typedefs and names through at most `limit` types, to one that is neither. -/
def chase (db : TypeDatabase) (limit : Nat) (type : CType) : Option CType :=
  match limit with
  | 0 => none
  | limit + 1 =>
    match type with
    | .synonym _ target => db.chase limit target
    | .named name => (db.find? name).bind (db.chase limit)
    | type => some type

/-- The concrete type that a type stands for. -/
def resolve (db : TypeDatabase) (type : CType) : Option CType := db.chase maxHops type

/-! ## Size and alignment

Both recurse into the element of the array that a type resolves to, as long as there is one.
Each such array is written inside the type or inside a registered type, so a recursion that
goes through more arrays than are written there goes round in a circle; `arrayBudget` counts
them. Such a circle is never left: the array has no size, and looking for one does not end. -/

/-- The size of a type, by way of the elements of arrays. -/
def sizeThrough (db : TypeDatabase) (type : CType) : Option Nat :=
  match db.resolve type with
  | none => none
  | some (.pointer _) => some db.pointerSize
  | some (.array element length) => do return (← db |>.sizeThrough element) * (← length)
  | some concrete => concrete.size
partial_fixpoint

/-- The alignment of a type, by way of the elements of arrays. -/
def alignmentThrough (db : TypeDatabase) (type : CType) : Option Nat :=
  match db.resolve type with
  | none => none
  | some (.pointer _) => some db.pointerSize
  | some (.array element _) => db |>.alignmentThrough element
  | some concrete => concrete.alignment
partial_fixpoint

/-- How many arrays stand one inside another in a type, typedefs looked through. -/
def arrayNesting : CType → Nat
  | .array element _ => arrayNesting element + 1
  | .synonym _ target => arrayNesting target
  | _ => 0

/-- How many different arrays sizing a type can go through, and one more. -/
def arrayBudget (db : TypeDatabase) (type : CType) : Nat :=
  (db.types.toList ++ db.synonyms.toList).foldr (fun entry total => arrayNesting entry.2 + total) 0
    + arrayNesting type + 1

/-- The size of a type, where the recursion through the first `budget` arrays is one on the
budget, which closed terms can be evaluated by. -/
def sizeWithin (db : TypeDatabase) (budget : Nat) (type : CType) : Option Nat :=
  match db.resolve type with
  | none => none
  | some (.pointer _) => some db.pointerSize
  | some (.array element length) =>
    match budget with
    | 0 => do return (← db.sizeThrough element) * (← length)
    | budget + 1 => do return (← db.sizeWithin budget element) * (← length)
  | some concrete => concrete.size

/-- However many arrays are counted, the size is the same. -/
theorem sizeWithin_eq_sizeThrough (db : TypeDatabase) (budget : Nat) :
    db.sizeWithin budget = db.sizeThrough := by
  induction budget with
  | zero =>
    funext type
    rw [sizeWithin, sizeThrough]
  | succ budget ih =>
    funext type
    rw [sizeWithin, sizeThrough]
    simp only [ih]

/-- The size of a type in bytes. -/
def sizeOf (db : TypeDatabase) (type : CType) : Option Nat :=
  db.sizeWithin (db.arrayBudget type) type

theorem sizeOf_eq_sizeThrough (db : TypeDatabase) (type : CType) :
    db.sizeOf type = db.sizeThrough type := by
  rw [sizeOf, sizeWithin_eq_sizeThrough]

/-- The alignment of a type, where the recursion through the first `budget` arrays is one on
the budget. -/
def alignmentWithin (db : TypeDatabase) (budget : Nat) (type : CType) : Option Nat :=
  match db.resolve type with
  | none => none
  | some (.pointer _) => some db.pointerSize
  | some (.array element _) =>
    match budget with
    | 0 => db.alignmentThrough element
    | budget + 1 => db.alignmentWithin budget element
  | some concrete => concrete.alignment

/-- However many arrays are counted, the alignment is the same. -/
theorem alignmentWithin_eq_alignmentThrough (db : TypeDatabase) (budget : Nat) :
    db.alignmentWithin budget = db.alignmentThrough := by
  induction budget with
  | zero =>
    funext type
    rw [alignmentWithin, alignmentThrough]
  | succ budget ih =>
    funext type
    rw [alignmentWithin, alignmentThrough]
    simp only [ih]

/-- The alignment of a type in bytes. -/
def alignmentOf (db : TypeDatabase) (type : CType) : Option Nat :=
  db.alignmentWithin (db.arrayBudget type) type

theorem alignmentOf_eq_alignmentThrough (db : TypeDatabase) (type : CType) :
    db.alignmentOf type = db.alignmentThrough type := by
  rw [alignmentOf, alignmentWithin_eq_alignmentThrough]

/-! ## Derived types -/

/-- A pointer to a type. -/
def pointerTo (_ : TypeDatabase) (type : CType) : CType := .pointer type

/-- An array of a type. -/
def arrayOf (_ : TypeDatabase) (type : CType) (length : Option Nat) : CType := .array type length

/-! ## Structs -/

/-- Adds a field of the size and alignment that the database gives its type; a type without
them takes no room and aligns to one. -/
def addField (db : TypeDatabase) (layout : StructType CType) (field : String × CType) :
    StructType CType :=
  layout.addSized field.1 field.2 ((db.sizeOf field.2).getD 0) ((db.alignmentOf field.2).getD 1)

/-- Lays out a struct, field by field. Each field type is measured for it, so laying out does
not end where measuring one of them does not. -/
def layOut (db : TypeDatabase) (name : String) (fields : List (String × CType)) :
    StructType CType :=
  (fields.foldl db.addField (StructType.empty (some name))).finish

/-- Lays out a struct and registers it under its tag. -/
def addStruct (db : TypeDatabase) (name : String) (fields : List (String × CType)) :
    TypeDatabase :=
  db.addType name (.struct (db.layOut name fields))

end TypeDatabase
end UefiTyping
