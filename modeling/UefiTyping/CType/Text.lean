import UefiTyping.CType.Basic

/-!
# C text of a type

The declaration of a name with a type, or the type alone when there is no name.
The element of an array carries the name and the array adds its length behind, so
the dimension written last is the outermost one. A pointer is written by a star
right behind its target, wherever the name goes.
-/
namespace UefiTyping.CType

/-- A name to declare, set off by a blank. -/
def nameSuffix : Option String → String
  | none => ""
  | some name => " " ++ name

/-- The keyword text of an integer; a size C has no name for is written `int`. -/
def integerKeyword (size : Nat) (signed : Bool) : String :=
  match signed, size with
  | true, 1 => "char"
  | false, 1 => "unsigned char"
  | true, 2 => "short"
  | false, 2 => "unsigned short"
  | true, 4 => "int"
  | false, 4 => "unsigned int"
  | true, 8 => "long long"
  | false, 8 => "unsigned long long"
  | _, _ => "int"

/-- The keyword text of a floating-point number. -/
def floatKeyword (size : Nat) : String :=
  match size with
  | 4 => "float"
  | 16 => "long double"
  | _ => "double"

/-- A keyword with its tag, if there is one. -/
def taggedKeyword (keyword : String) : Option String → String
  | none => keyword
  | some tag => keyword ++ " " ++ tag

/-- The length of an array between its brackets. -/
def brackets : Option Nat → String
  | none => "[]"
  | some length => "[" ++ toString length ++ "]"

/-- The texts of a parameter list; an empty one is `void`. -/
def parameterList : List String → String
  | [] => "void"
  | params => ", ".intercalate params

mutual

/-- The declaration of a name with this type, or the type alone. -/
def declare (name : Option String) : CType → String
  | .void => "void" ++ nameSuffix name
  | .int size signed => integerKeyword size signed ++ nameSuffix name
  | .float size => floatKeyword size ++ nameSuffix name
  | .pointer target => target.declare none ++ "*" ++ nameSuffix name
  | .array element length => element.declare name ++ brackets length
  | .struct layout => taggedKeyword "struct" layout.tag ++ nameSuffix name
  | .union layout => taggedKeyword "union" layout.tag ++ nameSuffix name
  | .enum layout => taggedKeyword "enum" layout.tag ++ nameSuffix name
  | .function ⟨result, params⟩ =>
    result.declare none ++ " " ++ name.getD "" ++ "(" ++ parameterList (declareEach params) ++ ")"
  | .synonym self _ => self ++ nameSuffix name
  | .named self => self ++ nameSuffix name

/-- The declarations of the parameters of a function. -/
def declareEach : List (Declared CType) → List String
  | [] => []
  | ⟨name, type⟩ :: params => type.declare (some name) :: declareEach params

end

instance : ToString CType := ⟨declare none⟩

/-- The name a type goes by, or its text when it has none. -/
def label (type : CType) : String := type.name?.getD (type.declare none)

end UefiTyping.CType
