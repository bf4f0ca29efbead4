import Mathlib.Data.List.TakeWhile
import UefiTyping.CType.Text

/-!
# Declarations of arrays of arrays

C reads the bracketed lengths behind a declared name from the outermost dimension to the innermost
one. The text of an array is that of its element with the length of the array behind, so the
innermost length is written first and the outermost one last. What C reads is then the array of
arrays with the dimensions the other way round, which is the declared type exactly if the lengths
read the same from both ends, as they do for a single dimension.

That the lengths can be read off a declaration at all is because their text tells them apart: a
bracket ends a numeral, and a numeral determines its number.
-/
namespace UefiTyping.CType

/-! ## Arrays of arrays -/

/-- The array of arrays with these lengths, the outermost first. -/
def arrays (element : CType) (lengths : List (Option Nat)) : CType :=
  lengths.foldr (fun length inner => .array inner length) element

theorem arrays_cons (element : CType) (length : Option Nat) (lengths : List (Option Nat)) :
    element.arrays (length :: lengths) = .array (element.arrays lengths) length := rfl

/-- Arrays of the same nesting differ when their lengths do. -/
theorem arrays_inj {element : CType} {lengths other : List (Option Nat)}
    (hnesting : lengths.length = other.length) :
    element.arrays lengths = element.arrays other ↔ lengths = other := by
  induction lengths generalizing other with
  | nil => simp [List.length_eq_zero_iff.1 hnesting.symm]
  | cons length lengths ih =>
    cases other with
    | nil => cases hnesting
    | cons length' other =>
      rw [arrays_cons, arrays_cons, CType.array.injEq, ih (Nat.succ.inj hnesting),
        List.cons.injEq, and_comm]

/-! ## Bracketed lengths -/

/-- The lengths between brackets, one behind the other. -/
def dimensions : List (Option Nat) → String
  | [] => ""
  | length :: lengths => brackets length ++ dimensions lengths

theorem dimensions_append (outer inner : List (Option Nat)) :
    dimensions (outer ++ inner) = dimensions outer ++ dimensions inner := by
  induction outer with
  | nil => rw [List.nil_append, dimensions, String.empty_append]
  | cons length outer ih => rw [List.cons_append, dimensions, dimensions, ih, String.append_assoc]

/-- What stands between the brackets of a length. -/
def lengthDigits : Option Nat → List Char
  | none => []
  | some length => Nat.toDigits 10 length

theorem toList_brackets (length : Option Nat) :
    (brackets length).toList = '[' :: (lengthDigits length ++ [']']) := by
  cases length with
  | none => rfl
  | some length => simp [brackets, lengthDigits, Nat.toString_eq_repr]

theorem isDigit_of_mem_lengthDigits {length : Option Nat} {c : Char}
    (h : c ∈ lengthDigits length) : c.isDigit = true := by
  cases length with
  | none => cases h
  | some length => exact Nat.isDigit_of_mem_toDigits (by decide) (by decide) h

theorem lengthDigits_injective : Function.Injective lengthDigits := by
  intro length other h
  cases length <;> cases other
  case none.none => rfl
  case none.some other => exact absurd h.symm Nat.toDigits_ne_nil
  case some.none length => exact absurd h Nat.toDigits_ne_nil
  case some.some length other =>
    have hvalue := congrArg (fun digits => Nat.ofDigitChars 10 digits 0) h
    simpa [lengthDigits] using hvalue

/-- A bracket ends the digits in front of it. -/
theorem takeWhile_lengthDigits (length : Option Nat) (rest : List Char) :
    (lengthDigits length ++ ']' :: rest).takeWhile Char.isDigit = lengthDigits length := by
  rw [List.takeWhile_append_of_pos fun _ => isDigit_of_mem_lengthDigits]
  exact List.append_nil _

theorem brackets_append_inj {length other : Option Nat} {rest otherRest : String}
    (h : brackets length ++ rest = brackets other ++ otherRest) :
    length = other ∧ rest = otherRest := by
  have hchars : lengthDigits length ++ ']' :: rest.toList =
      lengthDigits other ++ ']' :: otherRest.toList := by
    have hlist := congrArg String.toList h
    simpa [toList_brackets] using hlist
  have hdigits := congrArg (List.takeWhile Char.isDigit) hchars
  rw [takeWhile_lengthDigits, takeWhile_lengthDigits] at hdigits
  obtain rfl := lengthDigits_injective hdigits
  have hrest := (List.cons.inj (List.append_cancel_left hchars)).2
  exact ⟨rfl, String.toList_inj.1 hrest⟩

theorem dimensions_cons_ne_nil (length : Option Nat) (lengths : List (Option Nat)) :
    dimensions (length :: lengths) ≠ dimensions [] := by
  intro h
  have hlist := congrArg String.toList h
  simp [dimensions, toList_brackets] at hlist

/-- The text of lengths determines them. -/
theorem dimensions_injective : Function.Injective dimensions := by
  intro lengths
  induction lengths with
  | nil =>
    intro other h
    cases other with
    | nil => rfl
    | cons length other => exact absurd h.symm (dimensions_cons_ne_nil length other)
  | cons length lengths ih =>
    intro other h
    cases other with
    | nil => exact absurd h (dimensions_cons_ne_nil length lengths)
    | cons length' other =>
      obtain ⟨rfl, hrest⟩ := brackets_append_inj h
      rw [ih hrest]

/-! ## Declarations -/

/-- What C takes a text to declare: behind the declaration of the name with the element type the
lengths follow, the outermost first. This is the rule for element types whose own declaration
ends in the name, so for none that is an array, a function or a pointer to one of these. -/
def Declares (text : String) (element : CType) (name : String) (type : CType) : Prop :=
  ∃ lengths, text = element.declare (some name) ++ dimensions lengths ∧
    type = element.arrays lengths

/-- The lengths of an array of arrays are written with the innermost first. -/
theorem declare_arrays (element : CType) (name : Option String) (lengths : List (Option Nat)) :
    (element.arrays lengths).declare name = element.declare name ++ dimensions lengths.reverse := by
  induction lengths with
  | nil => exact String.append_empty.symm
  | cons length lengths ih =>
    have hlast : dimensions [length] = brackets length := String.append_empty
    rw [arrays_cons, declare, ih, List.reverse_cons, dimensions_append, hlast,
      String.append_assoc]

/-- The lengths that follow the declaration with the element type are those of the array from the
innermost to the outermost, and no others. -/
theorem declare_arrays_eq_iff (element : CType) (name : String) (lengths read : List (Option Nat)) :
    (element.arrays lengths).declare (some name) =
        element.declare (some name) ++ dimensions read ↔ lengths.reverse = read := by
  rw [declare_arrays, String.append_right_inj, dimensions_injective.eq_iff]

theorem declares_arrays_iff {element type : CType} {name : String} {lengths : List (Option Nat)} :
    Declares ((element.arrays lengths).declare (some name)) element name type ↔
      type = element.arrays lengths.reverse := by
  simp only [Declares, declare_arrays_eq_iff]
  exact exists_eq_left'

/-- An array of arrays is declared by the element's declaration of the name with the lengths from
the innermost to the outermost. C reads this as the array of arrays with the lengths reversed and
as nothing else. The lengths stand in the order of C, and C reads the same type back, exactly if
they are the same from both ends. -/
theorem declare_arrays_reversed (element : CType) (name : String) (lengths : List (Option Nat)) :
    let type := element.arrays lengths
    let text := type.declare (some name)
    text = element.declare (some name) ++ dimensions lengths.reverse ∧
      (∀ read, Declares text element name read ↔ read = element.arrays lengths.reverse) ∧
      (text = element.declare (some name) ++ dimensions lengths ↔ lengths.reverse = lengths) ∧
      (Declares text element name type ↔ lengths.reverse = lengths) := by
  intro type text
  have hsame : type = element.arrays lengths.reverse ↔ lengths = lengths.reverse :=
    arrays_inj List.length_reverse.symm
  refine ⟨element.declare_arrays (some name) lengths, fun _ => declares_arrays_iff,
    element.declare_arrays_eq_iff name lengths lengths, ?_⟩
  rw [declares_arrays_iff, hsame, eq_comm]

/-- Two rows of three integers are declared as three rows of two. -/
theorem declare_matrix_transposed :
    let matrix := CType.sint.arrays [some 2, some 3]
    matrix = .array (.array .sint (some 3)) (some 2) ∧
      matrix.declare (some "x") = "int x[3][2]" ∧
      CType.sint.declare (some "x") ++ dimensions [some 2, some 3] = "int x[2][3]" ∧
      ¬ Declares (matrix.declare (some "x")) .sint "x" matrix := by
  intro matrix
  refine ⟨rfl, by decide, by decide, fun hdeclares => ?_⟩
  have hread : matrix = CType.sint.arrays [some 3, some 2] := declares_arrays_iff.1 hdeclares
  have hlength : some 2 = some 3 := (CType.array.inj hread).2
  cases hlength

end UefiTyping.CType
