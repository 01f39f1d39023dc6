import Harvest.Template.Reference
import Harvest.Text.Blank

/-!
Definitions: statements that bind names to expressions, with semicolons between them.
-/

namespace Harvest.Template

open Text

/-- The parts between semicolons. A doubled semicolon is a plain one, and so is the one that ends a
character reference; a blank part at the end counts for nothing. -/
def definitionParts (s : List Char) : List (List Char) :=
  let marked := replace [';', ';'] ['\x00'] (guardReferences s)
  let parts := (marked.splitOn ';').map (replace ['\x00'] [';'])
  if parts.length > 1 && (parts.getLast?.map allBlank).getD false then parts.dropLast else parts

def isVariableStart (c : Char) : Bool := c.isAlpha || c == '_'

def isVariableTail (c : Char) : Bool := c.isAlphanum || c == '_' || c == '-'

def afterVariable? : List Char → Option (List Char)
  | [] => none
  | c :: cs => if isVariableStart c then some (cs.dropWhile isVariableTail) else none

def afterVariables? : Nat → List Char → Option (List Char)
  | _, ')' :: rest => some rest
  | fuel + 1, ',' :: rest => do afterVariables? fuel (← afterVariable? (trimLeft rest))
  | _, _ => none

def afterTarget? : List Char → Option (List Char)
  | '(' :: rest => do
      let rest ← afterVariable? rest
      afterVariables? rest.length rest
  | s => afterVariable? s

def afterGap? (s : List Char) : Option (List Char) :=
  if (s.head?.map isBlank).getD false then some (trimLeft s) else none

def unscopedDefinition? (s : List Char) : Option (List Char) := do afterGap? (← afterTarget? s)

def afterScope? (s : List Char) : Option (List Char) := do
  afterGap? (← (dropStart? "global".toList s).or (dropStart? "local".toList s))

/-- The expression of a definition. A word for a scope that nothing else is named after is a
variable. -/
def definition? (s : List Char) : Option (List Char) :=
  let s := trimLeft s
  ((afterScope? s).bind unscopedDefinition?).or (unscopedDefinition? s)

def definitions (s : List Char) : Except Failure (List (List Char)) :=
  (definitionParts s).mapM fun part =>
    match definition? part with
    | some code => .ok code
    | none => .error (.badDefine (String.ofList part))

end Harvest.Template
