import UefiTyping.Function.Node

/-!
# Decompiled functions

A function as the host hands it over: its entry, its name, its local variables with
their declared types, and its body.
-/
namespace UefiTyping

/-- A local variable, or a global that the function mentions, with its declared type. -/
structure LocalVariable where
  name : String
  storage : Storage
  /-- Size of the storage in bytes. -/
  size : Nat
  type : CType
deriving Repr

/-- The stack slot at an offset, under its generated name. -/
def LocalVariable.stack (offset : Int) (type : CType) (size : Nat) : LocalVariable :=
  ⟨Storage.stackName offset, .stack offset, size, type⟩

/-- A decompiled function. -/
structure DecompiledFunction where
  /-- Entry address. -/
  address : UInt64
  name : String
  locals : List LocalVariable
  body : List Node
deriving Repr

namespace DecompiledFunction

/-- The first local of a name. -/
def local? (function : DecompiledFunction) (name : String) : Option LocalVariable :=
  function.locals.find? (·.name == name)

theorem name_of_local? {function : DecompiledFunction} {name : String} {place : LocalVariable}
    (h : function.local? name = some place) : place.name = name := by
  have hname := List.find?_some h
  exact eq_of_beq hname

theorem mem_of_local? {function : DecompiledFunction} {name : String} {place : LocalVariable}
    (h : function.local? name = some place) : place ∈ function.locals :=
  List.mem_of_find?_eq_some h

/-- The local that a variable refers to: the first of its name, else the first in its
place, so that a renamed variable is still found. -/
def localFor? (function : DecompiledFunction) (place : Variable) : Option LocalVariable :=
  function.local? place.name <|> function.locals.find? (·.storage == place.storage)

/-- Every expression of the body. -/
def walk (function : DecompiledFunction) : List Expr := Node.walkEach function.body

/-- Hands every expression of the body to a visitor. -/
def visit {σ : Type} (function : DecompiledFunction) (visitor : σ → Expr → σ) (state : σ) : σ :=
  Node.visitEach visitor state function.body

/-- Every call in the body. -/
def calls (function : DecompiledFunction) : List Expr := function.walk.filter Expr.isCall

end DecompiledFunction
end UefiTyping
