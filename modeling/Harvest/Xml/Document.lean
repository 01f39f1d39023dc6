import Harvest.Xml.Declaration
import Harvest.Xml.Doctype
import Harvest.Xml.Encoding

/-!
Documents as sequences of events: the start and the end of each element.
-/

namespace Harvest.Xml

inductive Event where
  | start (name : String) (attributes : List (String × String)) (line : Nat)
  | stop (name : String)
deriving DecidableEq, Repr

/-! Content. -/

inductive ContentToken where
  | data
  | startTag (name : List Char) (attributes : List RawAttribute) (closed : Bool)
  | endTag (name : List Char) (left : Nat)
  | reference (r : Reference)
  | openSection
  | aside
  | declaration
deriving DecidableEq, Repr

def scanWordExact : List Char → List Char → Except Stop (List Char)
  | [], s => .ok s
  | c :: cs, s => do scanWordExact cs (← scanExact c s)

def scanMarkup (s : List Char) : Except Stop (ContentToken × List Char) :=
  match s with
  | '!' :: rest =>
      match rest with
      | '-' :: inner => (scanComment inner).map (.aside, ·)
      | '[' :: inner =>
          if inner.length < 6 then .error .ranOut
          else (scanWordExact "CDATA[".toList inner).map (.openSection, ·)
      | _ => stopAt rest
  | '?' :: rest => do
      let ((target, _), rest) ← scanInstruction rest
      return (if target = ['x', 'm', 'l'] then .declaration else .aside, rest)
  | '/' :: rest => (scanEndTag rest).map fun (name, after) => (.endTag name rest.length, after)
  | _ => do
      let (name, rest) ← scanName s
      let ((attributes, closed), rest) ← scanTagRest rest
      return (.startTag name attributes closed, rest)

def scanContent (s : List Char) : Except Stop (ContentToken × List Char) :=
  match s with
  | [] => stopAt s
  | '<' :: rest => scanMarkup rest
  | '&' :: rest => (scanReference rest).map fun (r, rest) => (.reference r, rest)
  | ']' :: ']' :: '>' :: rest => stopAt ('>' :: rest)
  | c :: rest => if isCharacter c then .ok (.data, rest) else stopAt s

def scanSection (s : List Char) : Except Trouble (List Char) :=
  match s with
  | [] => .error ⟨.unclosedSection, 0⟩
  | [']'] => .error ⟨.unclosedSection, 1⟩
  | ['\r'] => .error ⟨.unclosedSection, 1⟩
  | [']', ']'] => .error ⟨.unclosedSection, 2⟩
  | ']' :: ']' :: '>' :: rest => .ok rest
  | c :: cs =>
      if isCharacter c then scanSection cs
      else .error ((Stop.invalid s.length).trouble s)

/-! Attributes. -/

/-- The attributes of an element as they are given, and those that it has by default. `here` is
the number of characters left at the tag. -/
def givenAttributes (definitions : Definitions) (rules : List AttributeRule) (here : Nat) :
    List RawAttribute → List (String × String) → Except Trouble (List (String × String))
  | [], found => .ok found
  | a :: rest, found => do
      let name := String.ofList a.name
      if (found.lookup name).isSome then throw ⟨.duplicateAttribute, a.nameLeft⟩
      let verbatim := ((rules.find? (·.name = name)).map (·.verbatim)).getD true
      match attributeValue definitions verbatim a.value with
      | .ok value =>
          givenAttributes definitions rules here rest (found ++ [(name, String.ofList value)])
      | .error f => throw ⟨f.fault, f.left.elim here (· + a.valueLeft)⟩

def defaultAttributes (rules : List AttributeRule) (given : List (String × String)) :
    List (String × String) :=
  rules.filterMap fun r =>
    if (given.lookup r.name).isSome then none
    else r.value.map fun value => (r.name, String.ofList value)

def allAttributes (definitions : Definitions) (element : String) (here : Nat)
    (raw : List RawAttribute) : Except Trouble (List (String × String)) := do
  let rules := (definitions.rules.lookup element).getD []
  let given ← givenAttributes definitions rules here raw []
  return given ++ defaultAttributes rules given

/-! Elements. -/

structure Progress where
  place : Place
  opened : List String := []
  events : List Event := []
deriving Inhabited

def referredText (definitions : Definitions) (expanding : List String) (name : String) :
    Except Fault (Option (List Char)) :=
  match definitions.entities.lookup name with
  | none => if definitions.strict then .error .undefinedEntity else .ok none
  | some (.text s) => if expanding.contains name then .error .recursiveReference else .ok (some s)
  | some .binary => .error .binaryReference
  | some .external => .ok none

/-- What a token does. `s` is the text that the token starts, `rest` the text after it, and `inner`
reads the text of an entity. -/
def applyToken (definitions : Definitions) (expanding : List String) (floor : Nat)
    (inner : String → List Char → Progress → Except Trouble Progress)
    (s rest : List Char) (p : Progress) : ContentToken → Except Trouble (Progress × List Char)
  | .data => .ok (p, rest)
  | .aside => .ok (p, rest)
  | .declaration => .error ⟨.misplacedDeclaration, s.length⟩
  | .openSection => (scanSection rest).map (p, ·)
  | .reference (.character none) => .error ⟨.badCharacterReference, s.length⟩
  | .reference (.character (some _)) => .ok (p, rest)
  | .reference (.entity name) => do
      let name := String.ofList name
      if (predefined? name).isSome then return (p, rest)
      match referredText definitions expanding name with
      | .error fault => throw ⟨fault, s.length⟩
      | .ok none => return (p, rest)
      | .ok (some text) =>
          match inner name text p with
          | .ok p => return (p, rest)
          | .error trouble => throw ⟨trouble.fault, s.length⟩
  | .startTag name raw closed => do
      let name := String.ofList name
      let attributes ← allAttributes definitions name s.length raw
      let started := Event.start name attributes p.place.line :: p.events
      if closed then return ({ p with events := .stop name :: started }, rest)
      else return ({ p with opened := name :: p.opened, events := started }, rest)
  | .endTag name left =>
      let name := String.ofList name
      match p.opened with
      | [] => .error ⟨.asynchronousEntity, s.length⟩
      | top :: outer =>
          if p.opened.length = floor then .error ⟨.asynchronousEntity, s.length⟩
          else if top != name then .error ⟨.mismatchedTag, left⟩
          else .ok ({ p with opened := outer, events := .stop name :: p.events }, rest)

def ContentToken.isTag : ContentToken → Bool
  | .startTag _ _ _ => true
  | .endTag _ _ => true
  | _ => false

/-- The worker of `content` and `entityContent`. A document is read until its element is closed,
the text of an entity to its end; in the latter, places do not move. -/
def contentFrom (definitions : Definitions) (expanding : List String) (floor : Nat)
    (inner : String → List Char → Progress → Except Trouble Progress) (nested : Bool) :
    Nat → List Char → Progress → Except Trouble (Progress × List Char)
  | 0, s, p => .ok (p, s)
  | _, [], p =>
      if !nested then .error ⟨.noElement, 0⟩
      else if p.opened.length = floor then .ok (p, [])
      else .error ⟨.asynchronousEntity, 0⟩
  | fuel + 1, s, p => do
      if !nested && s = ['\r'] then throw ⟨.noElement, 1⟩
      match scanContent s with
      | .error stop => throw (stop.trouble s)
      | .ok (token, rest) =>
          let (p, rest) ← applyToken definitions expanding floor inner s rest p token
          let p :=
            if nested then p
            else { p with place := p.place.advance (s.take (s.length - rest.length)) }
          if !nested && token.isTag && p.opened.isEmpty then return (p, rest)
          else contentFrom definitions expanding floor inner nested fuel rest p

/-- The events in the text of an entity. `depth` bounds how deep entities are nested. -/
def entityContent (definitions : Definitions) :
    Nat → List String → String → List Char → Progress → Except Trouble Progress
  | 0, _, _, _, p => .ok p
  | depth + 1, expanding, name, s, p =>
      let expanding := name :: expanding
      (contentFrom definitions expanding p.opened.length
        (entityContent definitions depth expanding) true (s.length + 1) s p).map (·.1)

def content (definitions : Definitions) (place : Place) (s : List Char) :
    Except Trouble (List Event × List Char) :=
  (contentFrom definitions [] 0 (entityContent definitions (definitions.entities.length + 1) [])
    false (s.length + 1) s { place }).map fun (p, rest) => (p.events.reverse, rest)

/-! Documents. -/

inductive ReadFault where
  | malformed (fault : Fault) (place : Place)
  | unknownEncoding (name : String)
  | multibyteEncoding
deriving DecidableEq, Repr

def body (standalone : Bool) (place : Place) (s : List Char) : Except Trouble (List Event) := do
  let (declared, rest) ← prolog (s.length + 1) false { standalone } s
  let (events, rest) ← content declared.definitions (place.before s rest.length) rest
  epilog (rest.length + 1) rest
  return events

def located {α : Type} (place : Place) (s : List Char) : Except Trouble α → Except ReadFault α
  | .ok a => .ok a
  | .error t => .error (.malformed t.fault (place.before s t.left))

/-- The events of a document whose declaration names its encoding. `s` is the text from the
declaration on, `rest` the text after it, and `bytes` the bytes of `s`. -/
def declaredBody (current : Encoding) (place : Place) (s rest : List Char) (bytes : List UInt8)
    (d : Declaration) : Except ReadFault (List Event) :=
  let after := place.before s rest.length
  match d.encoding with
  | none => located after rest (body d.standalone after rest)
  | some (name, left) =>
      let named := fun fault => .error (.malformed fault (place.before s (left + 2 + rest.length)))
      match declaredEncoding current name with
      | .encoding e =>
          if e = current then located after rest (body d.standalone after rest)
          else
            let rest := e.decode (bytes.drop (s.length - rest.length))
            located after rest (body d.standalone after rest)
      | .conflict => named .incorrectEncoding
      | .unknown => .error (.unknownEncoding name)
      | .multibyte => .error .multibyteEncoding

def read (bytes : List UInt8) : Except ReadFault (List Event) :=
  match detect bytes with
  | .tooShort => .error (.malformed .unclosedToken {})
  | .encoding e mark =>
      let place : Place := if mark > 0 then { column := 1 } else {}
      let s := e.decode (bytes.drop mark)
      match scanToken s with
      | .ok (.declaration text, rest) =>
          match Declaration.parse text with
          | .error left =>
              .error (.malformed .badDeclaration (place.before s (left + 2 + rest.length)))
          | .ok d => declaredBody e place s rest (bytes.drop mark) d
      | _ => located place s (body false place s)

end Harvest.Xml
