import Mathlib.Data.List.Basic

/-!
# Expressions built by partial constructors

Trees of leaves, one unary and several binary combinators, evaluated bottom up
in an algebra whose constructors may refuse.  The constructions an evaluation
makes are listed in post-order, operands left to right.
-/

namespace Expression

inductive Expr (Leaf Op : Type)
  | leaf (content : Leaf)
  | unary (operand : Expr Leaf Op)
  | binary (op : Op) (left right : Expr Leaf Op)

structure Algebra (Leaf Op Value : Type) where
  leaf : Leaf → Option Value
  unary : Value → Option Value
  binary : Op → Value → Value → Option Value

inductive Construction (Leaf Op Value : Type)
  | leaf (content : Leaf)
  | unary (operand : Value)
  | binary (op : Op) (left right : Value)

variable {Leaf Op Value : Type}

def Construction.leaf? : Construction Leaf Op Value → Option Leaf
  | .leaf content => some content
  | _ => none

namespace Expr

def leaves : Expr Leaf Op → List Leaf
  | .leaf content => [content]
  | .unary operand => operand.leaves
  | .binary _ left right => left.leaves ++ right.leaves

def eval (algebra : Algebra Leaf Op Value) : Expr Leaf Op → Option Value
  | .leaf content => algebra.leaf content
  | .unary operand => (operand.eval algebra).bind algebra.unary
  | .binary op left right =>
      (left.eval algebra).bind fun l =>
        (right.eval algebra).bind fun r => algebra.binary op l r

/-- The constructor applications of a successful evaluation, in order. -/
def constructions (algebra : Algebra Leaf Op Value) :
    Expr Leaf Op → List (Construction Leaf Op Value)
  | .leaf content => [.leaf content]
  | .unary operand =>
      operand.constructions algebra ++
        (operand.eval algebra).toList.map .unary
  | .binary op left right =>
      left.constructions algebra ++ right.constructions algebra ++
        ((left.eval algebra).bind fun l =>
          (right.eval algebra).map fun r => .binary op l r).toList

theorem constructions_leaves (algebra : Algebra Leaf Op Value)
    (e : Expr Leaf Op) :
    (e.constructions algebra).filterMap Construction.leaf? = e.leaves := by
  induction e with
  | leaf content => rfl
  | unary operand ih =>
      rw [constructions, List.filterMap_append, ih, leaves]
      cases operand.eval algebra with
      | none => simp
      | some value => simp [Construction.leaf?]
  | binary op left right ihLeft ihRight =>
      rw [constructions, List.filterMap_append, List.filterMap_append,
        ihLeft, ihRight, leaves]
      cases left.eval algebra with
      | none => simp
      | some l =>
          cases right.eval algebra with
          | none => simp
          | some r => simp [Construction.leaf?]

end Expr

end Expression
