/-!
# JSON documents

A document keeps its scalars and keys as they are written: a number by its
numeral, a string and a key by the characters between the quotes. So reading a
document interprets nothing, and a value that nobody asks for may hold what no
decoder would accept, such as an escape that names half a surrogate pair.

An object keeps its members in order, repeated keys included.
-/
namespace UefiTyping

/-- A JSON document, with scalars as written. -/
inductive Json
  | null
  | bool (value : Bool)
  | number (written : List Char)
  | string (written : List Char)
  | array (items : List Json)
  | object (members : List (List Char × Json))
deriving Repr, Inhabited

namespace Json

/-! ## Nesting

A scalar nests no levels; an array or object nests one more than what it holds. -/

mutual

/-- How many levels of arrays and objects a document nests. -/
def depth : Json → Nat
  | .array items => depthOfItems items + 1
  | .object members => depthOfMembers members + 1
  | _ => 0

/-- The deepest nesting among the items of an array. -/
def depthOfItems : List Json → Nat
  | [] => 0
  | item :: items => max item.depth (depthOfItems items)

/-- The deepest nesting among the members of an object. -/
def depthOfMembers : List (List Char × Json) → Nat
  | [] => 0
  | (_, value) :: members => max value.depth (depthOfMembers members)

end

end Json
end UefiTyping
