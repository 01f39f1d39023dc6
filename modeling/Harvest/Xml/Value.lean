import Harvest.Xml.Scan

/-!
The values of attributes and entities: references are replaced, and white space is written as
single characters.
-/

namespace Harvest.Xml

inductive Entity where
  | text (s : List Char)
  | external
  | binary
deriving DecidableEq, Repr

/-- What a document declares for an attribute: whether its value is kept as it is or read as words,
and the value that it has where it is not given. -/
structure AttributeRule where
  name : String
  verbatim : Bool
  value : Option (List Char)
deriving DecidableEq, Repr

structure Definitions where
  entities : List (String × Entity) := []
  rules : List (String × List AttributeRule) := []
  strict : Bool := true
deriving Repr, Inhabited

def predefined? : String → Option Char
  | "lt" => some '<'
  | "gt" => some '>'
  | "amp" => some '&'
  | "quot" => some '"'
  | "apos" => some '\''
  | _ => none

/-- A fault in a value. It may stand at a place in the value, where this many of its characters are
left, or count against the whole. -/
structure ValueFault where
  fault : Fault
  left : Option Nat
deriving DecidableEq, Repr

def ValueFault.ofStop (s : List Char) : Stop → ValueFault
  | .ranOut => ⟨.invalidToken, some s.length⟩
  | .invalid left => ⟨.invalidToken, some left⟩

/-- Adds a character to a value, whose last character comes first. Where a value is read as words,
blanks at its start and after blanks are left out. -/
def addCharacter (verbatim : Bool) (value : List Char) (c : Char) : List Char :=
  if !verbatim && c == ' ' && (value.isEmpty || value.head? == some ' ') then value else c :: value

/-- The worker of `expandValue`: `skip` characters of a reference are still to be passed over,
`inner` expands the text of an entity, and `value` holds the value, last character first. -/
def expandFrom (definitions : Definitions) (verbatim : Bool) (opened : List String)
    (inner : String → List Char → List Char → Except ValueFault (List Char)) :
    Nat → List Char → List Char → Except ValueFault (List Char)
  | _, value, [] => .ok value
  | skip + 1, value, _ :: cs => expandFrom definitions verbatim opened inner skip value cs
  | 0, value, c :: cs =>
      let here := some (cs.length + 1)
      let next := fun skip value => expandFrom definitions verbatim opened inner skip value cs
      if c = '<' then .error ⟨.invalidToken, here⟩
      else if c = '\r' && cs.head? = some '\n' then next 0 value
      else if isSpace c then next 0 (addCharacter verbatim value ' ')
      else if c = '&' then
        match scanReference cs with
        | .error stop => .error (.ofStop (c :: cs) stop)
        | .ok (.character none, _) => .error ⟨.badCharacterReference, here⟩
        | .ok (.character (some x), rest) =>
            next (cs.length - rest.length) (addCharacter verbatim value x)
        | .ok (.entity name, rest) =>
            let name := String.ofList name
            let next := next (cs.length - rest.length)
            match predefined? name, definitions.entities.lookup name with
            | some x, _ => next (x :: value)
            | none, none =>
                if definitions.strict then .error ⟨.undefinedEntity, none⟩ else next value
            | none, some .binary => .error ⟨.binaryReference, here⟩
            | none, some .external => .error ⟨.externalReference, here⟩
            | none, some (.text s) =>
                if opened.contains name then .error ⟨.recursiveReference, none⟩
                else
                  match inner name s value with
                  | .ok value => next value
                  | .error trouble => .error { trouble with left := none }
      else next 0 (c :: value)

/-- The worker of `attributeValue`: `depth` bounds how deep entities are nested, and `opened` are
the names of those that are being expanded. -/
def expandValue (definitions : Definitions) (verbatim : Bool) :
    Nat → List String → List Char → List Char → Except ValueFault (List Char)
  | 0, _, _, value => .ok value
  | depth + 1, opened, s, value =>
      expandFrom definitions verbatim opened
        (fun name => expandValue definitions verbatim depth (name :: opened)) 0 value s

def attributeValue (definitions : Definitions) (verbatim : Bool) (s : List Char) :
    Except ValueFault (List Char) := do
  let value ← expandValue definitions verbatim (definitions.entities.length + 1) [] s []
  return (if !verbatim && value.head? = some ' ' then value.drop 1 else value).reverse

def entityValueFrom : Nat → List Char → Except ValueFault (List Char)
  | _, [] => .ok []
  | skip + 1, _ :: cs => entityValueFrom skip cs
  | 0, c :: cs =>
      let here := some (cs.length + 1)
      if c = '%' then
        match (do scanExact ';' (← scanName cs).2) with
        | .ok _ => .error ⟨.parameterReference, here⟩
        | .error stop => .error (.ofStop (c :: cs) stop)
      else if c = '\r' then
        if cs.head? = some '\n' then entityValueFrom 0 cs
        else (entityValueFrom 0 cs).map ('\n' :: ·)
      else if c = '&' then
        match scanReference cs with
        | .error stop => .error (.ofStop (c :: cs) stop)
        | .ok (.character none, _) => .error ⟨.badCharacterReference, here⟩
        | .ok (.character (some x), rest) =>
            (entityValueFrom (cs.length - rest.length) cs).map (x :: ·)
        | .ok (.entity _, _) => (entityValueFrom 0 cs).map (c :: ·)
      else (entityValueFrom 0 cs).map (c :: ·)

def entityValue (s : List Char) : Except ValueFault (List Char) := entityValueFrom 0 s

end Harvest.Xml
