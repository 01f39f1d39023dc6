import Harvest.Source.Constant

/-!
Expressions. Only what later questions depend on is kept: the parts that a literal may be made of,
and what tells an assignment target from other expressions.
-/

namespace Harvest.Source

inductive Expr where
  | constant (value : Constant)
  | name (text : String)
  | tuple (items : List Expr)
  | list (items : List Expr)
  | set (items : List Expr)
  | dict (items : List (Option Expr × Expr))
  | starred (inner : Expr)
  | signed (negative : Bool) (inner : Expr)
  | sum (negative : Bool) (left right : Expr)
  | attribute
  | subscript
  /-- A call, with the name that is called if it is a name, and whether there are arguments. -/
  | call (function : Option String) (hasArguments : Bool)
  | formatted
  | other
deriving Repr, Inhabited

mutual

def Expr.isTarget : Expr → Bool
  | .name _ | .attribute | .subscript => true
  | .tuple items | .list items => Expr.areTargets items
  | _ => false

def Expr.areTargets : List Expr → Bool
  | [] => true
  | .starred inner :: rest => inner.isTarget && Expr.areTargets rest
  | item :: rest => item.isTarget && Expr.areTargets rest

end

end Harvest.Source
