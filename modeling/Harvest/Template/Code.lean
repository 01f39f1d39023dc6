import Harvest.Source.Literal
import Harvest.Template.Define
import Harvest.Template.Interpolation
import Harvest.Template.Tag

/-!
The code in an attribute's value that is searched for messages.
-/

namespace Harvest.Template

open Text

inductive CodeEnd where
  | done
  | invalid (code : List Char)
  | failed (cause : Failure)
deriving DecidableEq, Repr

structure CodeSearch where
  complaint : Option (List Char) := none
  codes : List (List Char)
  ending : CodeEnd := .done
deriving DecidableEq, Repr

def CodeEnd.ofVerdict (code : List Char) : Source.Verdict → CodeEnd
  | .valid => .done
  | .invalid => .invalid code
  | .nullCharacter => .failed (.literal .nullCharacter)

def CodeSearch.ofCodes : List (List Char) → CodeSearch
  | [] => { codes := [] }
  | code :: codes =>
      match Source.verdict code with
      | .valid =>
          let rest := ofCodes codes
          { rest with codes := code :: rest.codes }
      | verdict => { codes := [], ending := .ofVerdict code verdict }

def bracketed (code : List Char) : List Char := '(' :: code ++ [')']

def afterInsertion? (s : List Char) : Option (List Char) := do
  let s := trimLeft s
  afterGap? (← (dropStart? "structure".toList s).or (dropStart? "text".toList s))

def insertedCode? (code : List Char) : Option (List Char) :=
  let code := (afterInsertion? code).getD code
  match engineName? code with
  | none => some (bracketed code)
  | some (name, _) =>
      if name = searchedEngine then (cut? ':' code).map fun (_, rest) => bracketed rest else none

def insertedCodes (engine : String) (value : List Char) : CodeSearch :=
  .ofCodes ((searchedCodes engine value).filterMap insertedCode?)

def definedCodes (engine : String) (value : List Char) : CodeSearch :=
  match definitions value with
  | .error cause => { codes := [], ending := .failed cause }
  | .ok defined => .ofCodes ((defined.flatMap (searchedCodes engine)).map bracketed)

/-- The code in the value of an attribute that repeats an element: it defines one variable, and
the others are complained about and left out. -/
def repeatedCodes (engine : String) (value : List Char) : CodeSearch :=
  match definitions value with
  | .error cause => { codes := [], ending := .failed cause }
  | .ok defined =>
      { CodeSearch.ofCodes ((defined.take 1).flatMap (searchedCodes engine)) with
        complaint := if defined.length = 1 then none else some value }

def interpolatedCodes (engine : String) (value : List Char) : CodeSearch :=
  let found := interpolations Source.verdict engine value
  { codes := found.codes, ending := .ofVerdict value found.ending }

def attributeCodes (engine : String) (name : QualifiedName) (value : List Char) : CodeSearch :=
  if name.space = .statements then
    match name.name with
    | "content" => insertedCodes engine value
    | "replace" => insertedCodes engine value
    | "define" => definedCodes engine value
    | "repeat" => repeatedCodes engine value
    | _ => { codes := [] }
  else interpolatedCodes engine value

end Harvest.Template
