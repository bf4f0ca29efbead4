import UefiTyping.Json.Token

/-!
# Reading JSON

A document is read by an automaton folded over the tokens. Its state is the stack
of arrays and objects still open, innermost first, together with what may come
next. The grammar is strict: one document, no trailing comma, nothing after it.
-/
namespace UefiTyping.Json

namespace Reader

/-- An array or object whose end has not been read; what it holds so far is kept
last one first. -/
inductive Frame
  | array (items : List Json)
  | object (members : List (List Char × Json)) (key : List Char)
deriving Repr

/-- What may come next. -/
inductive State
  /-- A value must come. -/
  | value (stack : List Frame)
  /-- An array was just opened: its first item or its end. -/
  | firstItem (stack : List Frame)
  /-- An object was just opened: its first key or its end. -/
  | firstKey (stack : List Frame)
  /-- A key must come. -/
  | key (members : List (List Char × Json)) (stack : List Frame)
  /-- The colon after a key must come. -/
  | colon (members : List (List Char × Json)) (key : List Char) (stack : List Frame)
  /-- A value is complete: a comma or the end of what holds it. -/
  | complete (value : Json) (stack : List Frame)
deriving Repr

/-- A token where a value must come. -/
def startValue (stack : List Frame) : Token → Option State
  | .openArray => some (.firstItem stack)
  | .openObject => some (.firstKey stack)
  | .string written => some (.complete (.string written) stack)
  | .word written => (ofWord? written).map (.complete · stack)
  | _ => none

/-- A token after a complete value. -/
def afterValue (value : Json) : List Frame → Token → Option State
  | .array items :: stack, .comma => some (.value (.array (value :: items) :: stack))
  | .array items :: stack, .closeArray =>
    some (.complete (.array (value :: items).reverse) stack)
  | .object members key :: stack, .comma => some (.key ((key, value) :: members) stack)
  | .object members key :: stack, .closeObject =>
    some (.complete (.object ((key, value) :: members).reverse) stack)
  | _, _ => none

/-- One token. -/
def step : State → Token → Option State
  | .value stack, token => startValue stack token
  | .firstItem stack, .closeArray => some (.complete (.array []) stack)
  | .firstItem stack, token => startValue (.array [] :: stack) token
  | .firstKey stack, .closeObject => some (.complete (.object []) stack)
  | .firstKey stack, .string key => some (.colon [] key stack)
  | .key members stack, .string key => some (.colon members key stack)
  | .colon members key stack, .colon => some (.value (.object members key :: stack))
  | .complete value stack, token => afterValue value stack token
  | _, _ => none

/-- The document at the end of the tokens, when nothing is still open. -/
def finish : State → Option Json
  | .complete value [] => some value
  | _ => none

end Reader

/-- The document that a list of tokens writes. -/
def ofTokens? (tokens : List Token) : Option Json :=
  tokens.foldlM Reader.step (.value []) >>= Reader.finish

/-- The document that a text writes. -/
def parse? (text : String) : Option Json := scan text.toList >>= ofTokens?

end UefiTyping.Json
