import UefiTyping.Json.Basic

/-!
# Writing JSON

Two layouts of a document. The compact one has no space at all. The indented one
gives every item and member a line of its own, two spaces deeper than what holds
it, and leaves an empty array or object on one line.
-/
namespace UefiTyping.Json

/-- A string or key between its quotes. -/
def quoted (written : List Char) : List Char := '"' :: (written ++ ['"'])

/-- The text of a literal name. -/
def boolName : Bool → List Char
  | true => ['t', 'r', 'u', 'e']
  | false => ['f', 'a', 'l', 's', 'e']

/-! ## Compact -/

mutual

/-- The compact text of a document. -/
def compact : Json → List Char
  | .null => ['n', 'u', 'l', 'l']
  | .bool value => boolName value
  | .number written => written
  | .string written => quoted written
  | .array [] => ['[', ']']
  | .array (item :: items) => '[' :: (item.compact ++ compactItems items)
  | .object [] => ['{', '}']
  | .object ((key, value) :: members) =>
    '{' :: (quoted key ++ ':' :: (value.compact ++ compactMembers members))

/-- The rest of an array after its first item. -/
def compactItems : List Json → List Char
  | [] => [']']
  | item :: items => ',' :: (item.compact ++ compactItems items)

/-- The rest of an object after its first member. -/
def compactMembers : List (List Char × Json) → List Char
  | [] => ['}']
  | (key, value) :: members =>
    ',' :: (quoted key ++ ':' :: (value.compact ++ compactMembers members))

end

/-! ## Indented -/

/-- The start of a line at a nesting level. -/
def newline (level : Nat) : List Char := '\n' :: List.replicate (2 * level) ' '

mutual

/-- The indented text of a document that stands at a nesting level. -/
def indentedAt (level : Nat) : Json → List Char
  | .null => ['n', 'u', 'l', 'l']
  | .bool value => boolName value
  | .number written => written
  | .string written => quoted written
  | .array [] => ['[', ']']
  | .array (item :: items) =>
    '[' :: (newline (level + 1) ++ item.indentedAt (level + 1) ++ indentedItems level items)
  | .object [] => ['{', '}']
  | .object ((key, value) :: members) =>
    '{' :: (newline (level + 1) ++ quoted key ++ [':', ' '] ++ value.indentedAt (level + 1)
      ++ indentedMembers level members)

/-- The rest of an array at a nesting level, after its first item. -/
def indentedItems (level : Nat) : List Json → List Char
  | [] => newline level ++ [']']
  | item :: items =>
    ',' :: (newline (level + 1) ++ item.indentedAt (level + 1) ++ indentedItems level items)

/-- The rest of an object at a nesting level, after its first member. -/
def indentedMembers (level : Nat) : List (List Char × Json) → List Char
  | [] => newline level ++ ['}']
  | (key, value) :: members =>
    ',' :: (newline (level + 1) ++ quoted key ++ [':', ' '] ++ value.indentedAt (level + 1)
      ++ indentedMembers level members)

end

/-- The indented text of a document. -/
def indented (document : Json) : String := String.ofList (document.indentedAt 0)

end UefiTyping.Json
