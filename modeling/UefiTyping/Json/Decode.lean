import UefiTyping.Json.Encode
import UefiTyping.Json.Parser

/-!
# Values from JSON documents

A decoder is told how many more levels of arrays and objects it may open. Every
array or object it opens costs one, and a value that it passes over costs none, so
the limit bounds what is decoded and not what is written.

A record may be written as an object, or as the array of its fields in order.
-/
namespace UefiTyping.Json

/-- Reads a value, opening at most the given number of nested levels. -/
abbrev Decoder (α : Type) := Nat → Json → Option α

/-- How many levels of a document may be opened. -/
def maxDepth : Nat := 127

variable {α β : Type}

/-- The value of a whole document. -/
def Decoder.run (decode : Decoder α) (document : Json) : Option α := decode maxDepth document

/-- The value of the document that a text writes. -/
def Decoder.ofText? (decode : Decoder α) (text : String) : Option α := parse? text >>= decode.run

/-! ## Scalars -/

/-- The text of a string. -/
def text? : Json → Option String
  | .string written => (unescape? written).map String.ofList
  | _ => none

/-- The integer that a numeral writes. A fraction, an exponent or a signed zero makes
it the numeral of a real number instead. -/
def integerOf? : List Char → Option Int
  | '-' :: digits =>
    if digits.all Char.isDigit ∧ digits ≠ ['0'] then
      some (-(Nat.ofDigitChars 10 digits 0 : Int))
    else none
  | digits => if digits.all Char.isDigit then some (Nat.ofDigitChars 10 digits 0 : Int) else none

/-- The value of an integer numeral. -/
def integer? : Json → Option Int
  | .number written => integerOf? written
  | _ => none

namespace Decoder

/-- A text. -/
def text : Decoder String := fun _ document => document.text?

/-- A truth value. -/
def bool : Decoder Bool
  | _, .bool value => some value
  | _, _ => none

/-- A natural number below a limit. -/
def natural (limit : Nat) : Decoder Nat := fun _ document => do
  let value ← document.integer?
  if 0 ≤ value ∧ value < limit then some value.toNat else none

/-- An integer of 64 bits, the sign included. -/
def integer64 : Decoder Int := fun _ document => do
  let value ← document.integer?
  if Int64.minValue.toInt ≤ value ∧ value ≤ Int64.maxValue.toInt then some value else none

/-- A value, or `null` for none. -/
def option (decode : Decoder α) : Decoder (Option α)
  | _, .null => some none
  | levels, document => (decode levels document).map some

/-! ## Arrays and objects -/

/-- The items of an array. -/
def list (decode : Decoder α) : Decoder (List α)
  | levels + 1, .array items => items.mapM (decode levels)
  | _, _ => none

/-- The two items of an array of two. -/
def pair (first : Decoder α) (second : Decoder β) : Decoder (α × β)
  | levels + 1, .array [a, b] => do return (← first levels a, ← second levels b)
  | _, _ => none

/-- The members of an object, in order, with keys read by `key`. -/
def members (key : List Char → Option β) (decode : Decoder α) : Decoder (List (β × α))
  | levels + 1, .object entries =>
    entries.mapM fun entry => do return (← key entry.1, ← decode levels entry.2)
  | _, _ => none

/-- A key that is a text. -/
def textKey (written : List Char) : Option String := (unescape? written).map String.ofList

/-- A key that is the numeral of a natural number below a limit, written with no escape. -/
def naturalKey (limit : Nat) (written : List Char) : Option Nat :=
  if isNumeral written then natural limit 0 (.number written) else none

/-! ## Alternatives -/

/-- The name of an alternative and what it carries. -/
def variant? : Json → Option (String × Json)
  | .object [(key, content)] => (textKey key).map (·, content)
  | _ => none

/-! ## Records -/

/-- A field of a record: its name, other names it answers to, and whether the array
form may leave it out at the end. -/
structure Field where
  name : String
  aliases : List String := []
  optional : Bool := false

namespace Field

/-- Whether a key names the field. -/
def answersTo (field : Field) (key : String) : Bool :=
  field.name == key || field.aliases.contains key

/-- What an object gives for a field: at most one member may name it. -/
def slot? (entries : List (String × Json)) (field : Field) : Option (Option Json) :=
  match entries.filter fun entry => field.answersTo entry.1 with
  | [] => some none
  | [entry] => some (some entry.2)
  | _ => none

/-- What an array gives for the fields, item by item. -/
def slotsOfItems? : List Field → List Json → Option (List (Option Json))
  | [], [] => some []
  | [], _ :: _ => none
  | _ :: fields, item :: items => (slotsOfItems? fields items).map (some item :: ·)
  | field :: fields, [] =>
    if field.optional then (slotsOfItems? fields []).map (none :: ·) else none

end Field

/-- What a document gives for each field of a record, `none` where it is missing. -/
def slots? (fields : List Field) : Json → Option (List (Option Json))
  | .object entries => do
    let entries ← entries.mapM fun entry => do return (← textKey entry.1, entry.2)
    fields.mapM (Field.slot? entries)
  | .array items => Field.slotsOfItems? fields items
  | _ => none

/-- A record: `build` gets the levels left and what is given for each field. -/
def record (fields : List Field) (build : Nat → List (Option Json) → Option α) : Decoder α
  | levels + 1, document => slots? fields document >>= build levels
  | 0, _ => none

/-- A field that a missing value leaves at a default. -/
def orDefault (default : α) (decode : Decoder α) (levels : Nat) : Option Json → Option α
  | none => some default
  | some document => decode levels document

end Decoder
end UefiTyping.Json
