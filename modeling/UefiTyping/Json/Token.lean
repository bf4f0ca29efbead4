import UefiTyping.Json.Basic
import UefiTyping.Text.Hex

/-!
# JSON tokens

Cutting a text into tokens is one automaton folded over the characters. It checks
all that a string may hold as written: no control character, no unknown escape,
four digits after `\u`. Every other run of characters is a word, and a word is a
literal name or a numeral.
-/
namespace UefiTyping.Json

/-- A token of a JSON text. -/
inductive Token
  | openArray
  | closeArray
  | openObject
  | closeObject
  | colon
  | comma
  | string (written : List Char)
  | word (written : List Char)
deriving DecidableEq, Repr

/-! ## Words -/

/-- The numeral without its leading digits, of which there must be one. -/
def afterDigits? (text : List Char) : Option (List Char) :=
  if (text.takeWhile Char.isDigit).isEmpty then none else some (text.dropWhile Char.isDigit)

/-- The numeral without its whole part: `0`, or digits that start with none. -/
def afterWhole? : List Char → Option (List Char)
  | '0' :: rest => some rest
  | text => afterDigits? text

/-- The numeral without its fraction, if it has one. -/
def afterFraction? : List Char → Option (List Char)
  | '.' :: rest => afterDigits? rest
  | text => some text

/-- The numeral without its exponent, if it has one. -/
def afterExponent? : List Char → Option (List Char)
  | c :: rest =>
    if c = 'e' ∨ c = 'E' then
      match rest with
      | '+' :: rest => afterDigits? rest
      | '-' :: rest => afterDigits? rest
      | rest => afterDigits? rest
    else some (c :: rest)
  | [] => some []

/-- Whether a word is a numeral of the format. -/
def isNumeral (word : List Char) : Bool :=
  let unsigned := match word with
    | '-' :: rest => rest
    | text => text
  (afterWhole? unsigned >>= afterFraction? >>= afterExponent?) == some []

/-- The scalar that a word writes. -/
def ofWord? (word : List Char) : Option Json :=
  if word = ['n', 'u', 'l', 'l'] then some .null
  else if word = ['t', 'r', 'u', 'e'] then some (.bool true)
  else if word = ['f', 'a', 'l', 's', 'e'] then some (.bool false)
  else if isNumeral word then some (.number word)
  else none

/-! ## The automaton -/

/-- Whether a character may stand between two tokens. -/
def isSpace (c : Char) : Bool := c == ' ' || c == '\t' || c == '\n' || c == '\r'

/-- The token that a punctuation mark is. -/
def Token.ofMark? (c : Char) : Option Token :=
  match c with
  | '[' => some .openArray
  | ']' => some .closeArray
  | '{' => some .openObject
  | '}' => some .closeObject
  | ':' => some .colon
  | ',' => some .comma
  | _ => none

namespace Scanner

/-- What the scanner is inside of. What was read of a word or string is kept last
character first. -/
inductive Mode
  | between
  | word (read : List Char)
  | string (read : List Char)
  | escape (read : List Char)
  | unicode (missing : Nat) (read : List Char)
deriving DecidableEq, Repr

/-- The mode, and the finished tokens, last one first. -/
abbrev State := Mode × List Token

/-- One character outside of any word or string. -/
def start (tokens : List Token) (c : Char) : State :=
  if isSpace c then (.between, tokens)
  else if c = '"' then (.string [], tokens)
  else match Token.ofMark? c with
    | some token => (.between, token :: tokens)
    | none => (.word [c], tokens)

/-- Whether a character ends the word it follows. -/
def endsWord (c : Char) : Bool := isSpace c || c == '"' || (Token.ofMark? c).isSome

/-- One character. -/
def step : State → Char → Option State
  | (.between, tokens), c => some (start tokens c)
  | (.word read, tokens), c =>
    if endsWord c then some (start (.word read.reverse :: tokens) c)
    else some (.word (c :: read), tokens)
  | (.string read, tokens), c =>
    if c = '"' then some (.between, .string read.reverse :: tokens)
    else if c = '\\' then some (.escape (c :: read), tokens)
    else if c < ' ' then none
    else some (.string (c :: read), tokens)
  | (.escape read, tokens), c =>
    if c = 'u' then some (.unicode 4 (c :: read), tokens)
    else if c ∈ ['"', '\\', '/', 'b', 'f', 'n', 'r', 't'] then some (.string (c :: read), tokens)
    else none
  | (.unicode missing read, tokens), c =>
    if (Hex.digit? c).isNone then none
    else if missing ≤ 1 then some (.string (c :: read), tokens)
    else some (.unicode (missing - 1) (c :: read), tokens)

/-- The tokens at the end of the text, which no string may be open at. -/
def finish : State → Option (List Token)
  | (.between, tokens) => some tokens.reverse
  | (.word read, tokens) => some (.word read.reverse :: tokens).reverse
  | _ => none

end Scanner

/-- The tokens of a text. -/
def scan (text : List Char) : Option (List Token) :=
  text.foldlM Scanner.step (.between, []) >>= Scanner.finish

end UefiTyping.Json
