import UefiTyping.Expr.Walk

/-!
# Structured control flow

The body of a decompiled function is a list of nodes, already structured by the host.
Walking a body lists every expression in it once: conditions before the bodies they
guard, except that the condition of a do-while loop comes after its body and the update
of a for loop comes last. A visitor is handed the expressions in that order.
-/
namespace UefiTyping

/-- The number of a basic block in the host's control flow graph. -/
abbrev BlockId := UInt64

/-- One arm of a switch, with the values it is taken for. -/
structure SwitchCase (ν : Type) where
  labels : List Word
  body : List ν
deriving Repr

/-- A node of structured control flow. A missing else branch or default arm is an empty
one. -/
inductive Node
  | block (id : BlockId) (statements : List Expr)
  | ifElse (condition : Expr) (ifTrue ifFalse : List Node)
  | whileDo (condition : Expr) (body : List Node)
  | doWhile (body : List Node) (condition : Expr)
  | forLoop (start : Option Expr) (condition : Expr) (update : Option Expr) (body : List Node)
  | loop (body : List Node)
  | breakLoop
  | continueLoop
  | ret (value : Option Expr)
  | goto (target : BlockId)
  | label (id : BlockId)
  | switch (value : Expr) (cases : List (SwitchCase Node)) (default : List Node)
  | sequence (nodes : List Node)
  | statement (expr : Expr)
deriving Repr, Inhabited

namespace Node

/-- The listing of an expression that may be absent. -/
def walkOptional (e : Option Expr) : List Expr := e.elim [] Expr.walk

mutual

/-- Every expression in a node. -/
def walk : Node → List Expr
  | .block _ statements => Expr.walkEach statements
  | .ifElse condition ifTrue ifFalse => condition.walk ++ (walkEach ifTrue ++ walkEach ifFalse)
  | .whileDo condition body => condition.walk ++ walkEach body
  | .doWhile body condition => walkEach body ++ condition.walk
  | .forLoop start condition update body =>
    walkOptional start ++ (condition.walk ++ (walkEach body ++ walkOptional update))
  | .loop body => walkEach body
  | .ret value => walkOptional value
  | .switch value cases default => value.walk ++ (walkCases cases ++ walkEach default)
  | .sequence nodes => walkEach nodes
  | .statement e => e.walk
  | .breakLoop | .continueLoop | .goto _ | .label _ => []

/-- Every expression in a list of nodes, in order. -/
def walkEach : List Node → List Expr
  | [] => []
  | node :: nodes => node.walk ++ walkEach nodes

/-- Every expression in the arms of a switch, in order. -/
def walkCases : List (SwitchCase Node) → List Expr
  | [] => []
  | ⟨_, body⟩ :: cases => walkEach body ++ walkCases cases

end

/-- Nodes that follow one another are walked one after the other. -/
@[simp] theorem walkEach_append (first second : List Node) :
    walkEach (first ++ second) = walkEach first ++ walkEach second := by
  induction first with
  | nil => rfl
  | cons node nodes ih => simp [walkEach, ih]

/-! ## Visiting -/

variable {σ : Type}

/-- Hands the expressions in one that may be absent to a visitor. -/
def visitOptional (visitor : σ → Expr → σ) (state : σ) : Option Expr → σ
  | none => state
  | some e => e.visit visitor state

mutual

/-- Hands every expression in a node to a visitor. -/
def visit (visitor : σ → Expr → σ) (state : σ) : Node → σ
  | .block _ statements => statements.foldl (Expr.visit visitor) state
  | .ifElse condition ifTrue ifFalse =>
    let state := condition.visit visitor state
    let state := visitEach visitor state ifTrue
    visitEach visitor state ifFalse
  | .whileDo condition body => visitEach visitor (condition.visit visitor state) body
  | .doWhile body condition => condition.visit visitor (visitEach visitor state body)
  | .forLoop start condition update body =>
    let state := visitOptional visitor state start
    let state := condition.visit visitor state
    let state := visitEach visitor state body
    visitOptional visitor state update
  | .loop body => visitEach visitor state body
  | .ret value => visitOptional visitor state value
  | .switch value cases default =>
    let state := value.visit visitor state
    let state := visitCases visitor state cases
    visitEach visitor state default
  | .sequence nodes => visitEach visitor state nodes
  | .statement e => e.visit visitor state
  | .breakLoop | .continueLoop | .goto _ | .label _ => state

/-- Hands every expression in a list of nodes to a visitor, in order. -/
def visitEach (visitor : σ → Expr → σ) (state : σ) : List Node → σ
  | [] => state
  | node :: nodes => visitEach visitor (node.visit visitor state) nodes

/-- Hands every expression in the arms of a switch to a visitor, in order. -/
def visitCases (visitor : σ → Expr → σ) (state : σ) : List (SwitchCase Node) → σ
  | [] => state
  | ⟨_, body⟩ :: cases => visitCases visitor (visitEach visitor state body) cases

end

end Node
end UefiTyping
