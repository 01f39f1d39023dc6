import Harvest.Text.Blank

/-!
Expressions of templates and the engines that evaluate them. An expression is a list of
alternatives with bars between them; each may name its engine.
-/

namespace Harvest.Template

open Text

structure Expression where
  engine : String
  code : List Char
deriving DecidableEq, Repr, Inhabited

def searchedEngine : String := "python"

def isEngineTail (c : Char) : Bool := c.isLower || c.isDigit || c == '-' || c == '_'

/-- The engine named at the start of an expression, and the expression after it. A name has at
least two characters. -/
def engineName? (s : List Char) : Option (String × List Char) :=
  let s := trimLeft s
  let name := s.takeWhile isEngineTail
  match s.drop name.length with
  | ':' :: rest =>
      if name.length ≥ 2 && (name.head?.map Char.isLower).getD false then
        some (String.ofList name, trimLeft rest)
      else none
  | _ => none

def Expression.ofText (engine : String) (s : List Char) : Expression :=
  match engineName? s with
  | some (name, rest) => ⟨name, rest⟩
  | none => ⟨engine, s⟩

def alternativesFrom : Bool → List Char → List (List Char)
  | _, [] => [[]]
  | escaped, c :: cs =>
      if c = '|' ∧ escaped = false then [] :: alternativesFrom false cs
      else
        match alternativesFrom (c == '\\') cs with
        | [] => [[c]]
        | part :: parts => (c :: part) :: parts

def alternatives (s : List Char) : List (List Char) := alternativesFrom false s

/-- The alternatives of an expression, without blanks around them and with their bars plain. -/
def splitExpression (engine : String) (s : List Char) : List Expression :=
  (alternatives s).map fun part => .ofText engine (replace ['\\', '|'] ['|'] (trim part))

def searchedCodes (engine : String) (s : List Char) : List (List Char) :=
  ((splitExpression engine s).filter (·.engine = searchedEngine)).map (·.code)

end Harvest.Template
