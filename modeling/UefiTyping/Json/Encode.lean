import UefiTyping.Json.Escape
import UefiTyping.Json.Basic

/-!
# Values as JSON documents

How numbers, texts, options and records are put into a document.
-/
namespace UefiTyping.Json

/-- The decimal numeral of an integer. -/
def integerNumeral : Int → List Char
  | .ofNat n => Nat.toDigits 10 n
  | .negSucc n => '-' :: Nat.toDigits 10 (n + 1)

/-- A natural number. -/
def ofNat (n : Nat) : Json := .number (Nat.toDigits 10 n)

/-- An integer. -/
def ofInt (i : Int) : Json := .number (integerNumeral i)

/-- A text. -/
def ofText (text : String) : Json := .string (escape text.toList)

/-- A value that may be absent; absence is `null`. -/
def ofOption {α : Type} (encode : α → Json) : Option α → Json
  | none => .null
  | some value => encode value

/-- A record: its fields by name, in order. -/
def ofFields (fields : List (String × Json)) : Json :=
  .object (fields.map fun field => (escape field.1.toList, field.2))

/-- One alternative of several: its name, with what it carries. -/
def ofVariant (name : String) (content : Json) : Json := ofFields [(name, content)]

end UefiTyping.Json
