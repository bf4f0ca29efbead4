import Std.Data.ExtTreeMap
import UefiTyping.Text.Hex

/-!
# Globally unique identifiers

A GUID is sixteen stored bytes. Its text form prints them in five groups of
hexadecimal digits: the first three groups are little-endian fields, so they print
their bytes backwards, and the last two print theirs in order.

The two forms are related by one permutation of the sixteen positions, `textOrder`,
which is its own inverse.
-/
namespace UefiTyping

/-- A GUID, as the sixteen bytes a binary stores. -/
structure Guid where
  bytes : Vector UInt8 16
deriving DecidableEq, Repr

namespace Guid

/-! ## Order

The order has no meaning of its own; it makes a GUID usable as a key. -/

instance : Ord Guid := ⟨compareOn fun guid => guid.bytes.toList⟩

instance : Std.TransOrd Guid :=
  inferInstanceAs (Std.TransCmp (compareOn fun guid : Guid => guid.bytes.toList))

instance : Std.LawfulEqOrd Guid where
  compare_self {a} := by
    show compare a.bytes.toList a.bytes.toList = .eq
    exact Std.ReflCmp.compare_self
  eq_of_compare {a b} h := by
    replace h : compare a.bytes.toList b.bytes.toList = .eq := h
    have := Std.LawfulEqCmp.eq_of_compare h
    cases a; cases b
    simpa [Vector.toList_inj] using this

/-! ## Text form -/

/-- The stored position of each byte of the text form. -/
def textOrder : Vector (Fin 16) 16 := #v[3, 2, 1, 0, 5, 4, 7, 6, 8, 9, 10, 11, 12, 13, 14, 15]

/-- Exchanges the stored order of the bytes with the order of the text form. -/
def reorder (bytes : Vector UInt8 16) : Vector UInt8 16 := textOrder.map fun i => bytes[i]

@[simp] theorem reorder_reorder (bytes : Vector UInt8 16) : reorder (reorder bytes) = bytes := by
  have order : ∀ i : Fin 16, (textOrder[(textOrder[i.val] : Fin 16).val] : Fin 16).val = i.val := by
    decide
  ext i hi
  have := order ⟨i, hi⟩
  simp only [reorder, Vector.getElem_map, Fin.getElem_fin, this]

/-- How many digits each group of the text form has. -/
def groupLengths : List Nat := [8, 4, 4, 4, 12]

/-- Cuts a text into pieces of the given lengths; what is left over is dropped. -/
def cut : List Nat → List Char → List (List Char)
  | [], _ => []
  | n :: ns, text => text.take n :: cut ns (text.drop n)

/-- The text form: lower-case digits in five groups with a hyphen between two groups. -/
def text (guid : Guid) : List Char :=
  ['-'].intercalate (cut groupLengths (Hex.ofBytes (reorder guid.bytes).toList))

instance : ToString Guid := ⟨fun guid => String.ofList guid.text⟩

/-- The GUID whose stored bytes are the sixteen in the list. -/
def ofBytes? (bytes : List UInt8) : Option Guid :=
  if h : bytes.length = 16 then some ⟨bytes.toArray, by simpa using h⟩ else none

theorem ofBytes?_eq_some_iff {bytes : List UInt8} {guid : Guid} :
    ofBytes? bytes = some guid ↔ bytes = guid.bytes.toList := by
  unfold ofBytes?
  obtain ⟨stored⟩ := guid
  split
  · rename_i hlength
    simp only [Option.some.injEq, mk.injEq, ← Vector.toList_inj]
    simp [Vector.toList]
  · rename_i hlength
    simp only [reduceCtorEq, false_iff]
    rintro rfl
    exact hlength stored.length_toList

/-- Reads the text form, with digits of either case. -/
def ofText? (text : List Char) : Option Guid :=
  let groups := text.splitOn '-'
  if groups.map List.length = groupLengths then do
    let guid ← ofBytes? (← Hex.bytes? groups.flatten)
    return ⟨reorder guid.bytes⟩
  else none

end Guid
end UefiTyping
