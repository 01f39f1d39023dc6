import Harvest.Xml.Value

/-!
What stands before the first element: tokens, and the declarations of a document type.
-/

namespace Harvest.Xml

/-! Tokens. -/

inductive Token where
  | declaration (body : List Char)
  | instruction
  | comment
  | openDeclaration (keyword : List Char)
  | close
  | name (s : List Char) (marked : Bool)
  | word
  | pound (s : List Char)
  | literal (body : List Char)
  | percent
  | parameter
  | openBracket
  | closeBracket
  | openGroup
  | closeGroup (mark : Option Char)
  | comma
  | bar
  | openSection
  | closeSection
  | element
deriving DecidableEq, Repr

def scanLiteral (quote : Char) (s : List Char) : Except Stop (List Char × List Char) :=
  match s with
  | [] => stopAt s
  | c :: cs =>
      if c = quote then .ok ([], cs)
      else if !isCharacter c then stopAt s
      else (scanLiteral quote cs).map fun (body, rest) => (c :: body, rest)

def followedBy (follow : List Char) (token : Token) (rest : List Char) :
    Except Stop (Token × List Char) :=
  match rest with
  | [] => .ok (token, rest)
  | c :: _ => if isSpace c || follow.contains c then .ok (token, rest) else stopAt rest

def isMark (c : Char) : Bool := c == '?' || c == '*' || c == '+'

def scanWord (s : List Char) : Except Stop (Token × List Char) :=
  let word := s.takeWhile isNameChar
  let rest := s.dropWhile isNameChar
  let isName := (word.head?.map isNameStart).getD false
  match word, rest with
  | [], _ => stopAt s
  | _, c :: after =>
      if isName && isMark c then .ok (.name word true, after)
      else
        followedBy ['>', ')', ',', '|', '[', '%'] (if isName then .name word false else .word) rest
  | _, [] => .ok (if isName then .name word false else .word, [])

def scanDeclaration (s : List Char) : Except Stop (Token × List Char) :=
  match s with
  | '-' :: rest => (scanComment rest).map (.comment, ·)
  | '[' :: rest => .ok (.openSection, rest)
  | _ =>
      let keyword := s.takeWhile fun c => c.isAlpha || c == '_' || c == ':'
      let rest := s.dropWhile fun c => c.isAlpha || c == '_' || c == ':'
      match keyword, rest with
      | [], _ => stopAt s
      | _, [] => stopAt rest
      | _, ['%'] => stopAt ([] : List Char)
      | _, '%' :: c :: _ =>
          if isSpace c || c == '%' then stopAt rest else .ok (.openDeclaration keyword, rest)
      | _, c :: _ => if isSpace c then .ok (.openDeclaration keyword, rest) else stopAt rest

def scanPercent (s : List Char) : Except Stop (Token × List Char) :=
  match s with
  | [] => stopAt s
  | c :: _ =>
      if isSpace c || c == '%' then .ok (.percent, s)
      else do
        let (_, rest) ← scanName s
        return (.parameter, ← scanExact ';' rest)

def scanToken (s : List Char) : Except Stop (Token × List Char) :=
  match s with
  | [] => stopAt s
  | '"' :: rest => scanQuoted '"' rest
  | '\'' :: rest => scanQuoted '\'' rest
  | '<' :: '!' :: rest => scanDeclaration rest
  | '<' :: '?' :: rest => do
      let ((target, body), rest) ← scanInstruction rest
      return (if target = ['x', 'm', 'l'] then .declaration body else .instruction, rest)
  | '<' :: rest => do
      let _ ← scanName rest
      return (.element, s)
  | '%' :: rest => scanPercent rest
  | ',' :: rest => .ok (.comma, rest)
  | '[' :: rest => .ok (.openBracket, rest)
  | ']' :: ']' :: '>' :: rest => .ok (.closeSection, rest)
  | [']', ']'] => stopAt ([] : List Char)
  | ']' :: rest => .ok (.closeBracket, rest)
  | '(' :: rest => .ok (.openGroup, rest)
  | ')' :: c :: rest =>
      if isMark c then .ok (.closeGroup (some c), rest)
      else followedBy ['>', ',', '|', ')'] (.closeGroup none) (c :: rest)
  | [')'] => .ok (.closeGroup none, [])
  | '|' :: rest => .ok (.bar, rest)
  | '>' :: rest => .ok (.close, rest)
  | '#' :: rest => do
      let (name, rest) ← scanName rest
      followedBy [')', '>', '%', '|'] (.pound name) rest
  | _ => scanWord s
where
  scanQuoted (quote : Char) (s : List Char) : Except Stop (Token × List Char) := do
    let (body, rest) ← scanLiteral quote s
    followedBy ['>', '%', '['] (.literal body) rest

structure Lexed where
  token : Token
  left : Nat
  rest : List Char

def nextToken (s : List Char) : Except Trouble Lexed :=
  let s := skipSpace s
  match s with
  | [] => .error ⟨.noElement, 0⟩
  | _ =>
      match scanToken s with
      | .ok (token, rest) => .ok ⟨token, s.length, rest⟩
      | .error stop => .error (stop.trouble s)

def Lexed.unexpected (t : Lexed) : Trouble :=
  match t.token with
  | .parameter => ⟨.parameterReference, t.left⟩
  | .declaration _ => ⟨.misplacedDeclaration, t.left⟩
  | _ => ⟨.unexpectedToken, t.left⟩

/-! Declarations. -/

structure Declared where
  entities : List (String × Entity) := []
  rules : List (String × List AttributeRule) := []
  standalone : Bool := false
  incomplete : Bool := false
  heeding : Bool := true
deriving Inhabited

def Declared.definitions (d : Declared) : Definitions :=
  { entities := d.entities, rules := d.rules, strict := !d.incomplete || d.standalone }

structure Quoted where
  body : List Char
  left : Nat
  bodyLeft : Nat

def nextClose (s : List Char) : Except Trouble (List Char) := do
  let t ← nextToken s
  match t.token with
  | .close => return t.rest
  | _ => throw t.unexpected

def nextName (s : List Char) : Except Trouble (String × List Char) := do
  let t ← nextToken s
  match t.token with
  | .name n false => return (String.ofList n, t.rest)
  | _ => throw t.unexpected

def nextQuoted (s : List Char) : Except Trouble (Quoted × List Char) := do
  let t ← nextToken s
  match t.token with
  | .literal body => return (⟨body, t.left, t.rest.length + 1⟩, t.rest)
  | _ => throw t.unexpected

def Quoted.trouble (q : Quoted) (f : ValueFault) : Trouble :=
  ⟨f.fault, f.left.elim q.left (· + q.bodyLeft)⟩

def isPublicIdChar (c : Char) : Bool := c.isAlphanum || " \r\n-'()+,./:=?;!*#@$_%".toList.contains c

def nextPublicId (s : List Char) : Except Trouble (List Char) := do
  let (q, rest) ← nextQuoted s
  let bad := q.body.dropWhile isPublicIdChar
  if bad.isEmpty then return rest else throw ⟨.badPublicId, bad.length + q.bodyLeft⟩

def nextExternalId (isPublic : Bool) (s : List Char) : Except Trouble (List Char) := do
  let s ← if isPublic then nextPublicId s else pure s
  return (← nextQuoted s).2

/-- The text declared for an entity. Where declarations are not heeded it is not looked at. -/
def declaredText (d : Declared) (q : Quoted) : Except Trouble (List Char) :=
  if d.heeding then (entityValue q.body).mapError q.trouble else .ok []

def Declared.addEntity (d : Declared) (name : String) (e : Entity) : Declared :=
  if d.heeding && (predefined? name).isNone && (d.entities.lookup name).isNone then
    { d with entities := d.entities ++ [(name, e)] }
  else d

def entityBody (d : Declared) (s : List Char) : Except Trouble (Entity × List Char) := do
  let t ← nextToken s
  match t.token with
  | .literal body =>
      let text ← declaredText d ⟨body, t.left, t.rest.length + 1⟩
      return (.text text, ← nextClose t.rest)
  | .name word false =>
      if word = "SYSTEM".toList || word = "PUBLIC".toList then
        let rest ← nextExternalId (word = "PUBLIC".toList) t.rest
        let t ← nextToken rest
        match t.token with
        | .close => return (.external, t.rest)
        | .name word false =>
            if word = "NDATA".toList then
              let (_, rest) ← nextName t.rest
              return (.binary, ← nextClose rest)
            else throw t.unexpected
        | _ => throw t.unexpected
      else throw t.unexpected
  | _ => throw t.unexpected

def parameterBody (d : Declared) (s : List Char) : Except Trouble (List Char) := do
  let t ← nextToken s
  match t.token with
  | .literal body =>
      let _ ← declaredText d ⟨body, t.left, t.rest.length + 1⟩
      nextClose t.rest
  | .name word false =>
      if word = "SYSTEM".toList || word = "PUBLIC".toList then
        nextClose (← nextExternalId (word = "PUBLIC".toList) t.rest)
      else throw t.unexpected
  | _ => throw t.unexpected

def entityDeclaration (d : Declared) (s : List Char) : Except Trouble (Declared × List Char) := do
  let t ← nextToken s
  match t.token with
  | .percent =>
      let (_, rest) ← nextName t.rest
      return (d, ← parameterBody d rest)
  | .name name false =>
      let (e, rest) ← entityBody d t.rest
      return (d.addEntity (String.ofList name) e, rest)
  | _ => throw t.unexpected

def notationDeclaration (s : List Char) : Except Trouble (List Char) := do
  let (_, s) ← nextName s
  let t ← nextToken s
  match t.token with
  | .name word false =>
      if word = "SYSTEM".toList then nextClose (← nextQuoted t.rest).2
      else if word = "PUBLIC".toList then
        let rest ← nextPublicId t.rest
        let t ← nextToken rest
        match t.token with
        | .close => return t.rest
        | .literal _ => nextClose t.rest
        | _ => throw t.unexpected
      else throw t.unexpected
  | _ => throw t.unexpected

def enumeration (namesOnly : Bool) : Nat → List Char → Except Trouble (List Char)
  | 0, s => .error ⟨.unexpectedToken, s.length⟩
  | fuel + 1, s => do
      let t ← nextToken s
      match t.token with
      | .name _ false => pure ()
      | .word => if namesOnly then throw t.unexpected
      | _ => throw t.unexpected
      let t ← nextToken t.rest
      match t.token with
      | .closeGroup none => return t.rest
      | .bar => enumeration namesOnly fuel t.rest
      | _ => throw t.unexpected

def wordTypes : List String :=
  ["ID", "IDREF", "IDREFS", "ENTITY", "ENTITIES", "NMTOKEN", "NMTOKENS"]

def attributeType (s : List Char) : Except Trouble (Bool × List Char) := do
  let t ← nextToken s
  match t.token with
  | .openGroup => return (false, ← enumeration false t.rest.length t.rest)
  | .name word false =>
      let word := String.ofList word
      if word = "CDATA" then return (true, t.rest)
      else if wordTypes.contains word then return (false, t.rest)
      else if word = "NOTATION" then
        let t ← nextToken t.rest
        match t.token with
        | .openGroup => return (false, ← enumeration true t.rest.length t.rest)
        | _ => throw t.unexpected
      else throw t.unexpected
  | _ => throw t.unexpected

def defaultValue (d : Declared) (verbatim : Bool) (s : List Char) :
    Except Trouble (Option (List Char) × List Char) := do
  let t ← nextToken s
  let value := fun (q : Quoted) =>
    if d.heeding then (attributeValue d.definitions verbatim q.body).mapError q.trouble else .ok []
  match t.token with
  | .literal body => return (some (← value ⟨body, t.left, t.rest.length + 1⟩), t.rest)
  | .pound word =>
      if word = "IMPLIED".toList || word = "REQUIRED".toList then return (none, t.rest)
      else if word = "FIXED".toList then
        let (q, rest) ← nextQuoted t.rest
        return (some (← value q), rest)
      else throw t.unexpected
  | _ => throw t.unexpected

def Declared.addRule (d : Declared) (element : String) (r : AttributeRule) : Declared :=
  let known := (d.rules.lookup element).getD []
  if !d.heeding || (r.value.isSome && known.any (·.name = r.name)) then d
  else
    { d with
      rules := (element, known ++ [r]) :: d.rules.filter (fun (name, _) => name != element) }

def attributeRules (element : String) : Nat → Declared → List Char →
    Except Trouble (Declared × List Char)
  | 0, d, s => .ok (d, s)
  | fuel + 1, d, s => do
      let t ← nextToken s
      match t.token with
      | .close => return (d, t.rest)
      | .name name false =>
          let (verbatim, rest) ← attributeType t.rest
          let (value, rest) ← defaultValue d verbatim rest
          attributeRules element fuel (d.addRule element ⟨String.ofList name, verbatim, value⟩) rest
      | _ => throw t.unexpected

def attributeDeclaration (d : Declared) (s : List Char) :
    Except Trouble (Declared × List Char) := do
  let (element, rest) ← nextName s
  attributeRules element rest.length d rest

def mixedContent : Nat → Bool → List Char → Except Trouble (List Char)
  | 0, _, s => .error ⟨.unexpectedToken, s.length⟩
  | fuel + 1, first, s => do
      let t ← nextToken s
      match t.token with
      | .closeGroup none => if first then return t.rest else throw t.unexpected
      | .closeGroup (some '*') => return t.rest
      | .bar =>
          let (_, rest) ← nextName t.rest
          mixedContent fuel false rest
      | _ => throw t.unexpected

/-- The content of an element: groups of names with commas or bars between them, but not both in
one group. `groups` holds the separator of each open group, the innermost first, and `item` tells
that an item is to follow. -/
def groupContent : Nat → List (Option Token) → Bool → List Char → Except Trouble (List Char)
  | 0, _, _, s => .error ⟨.unexpectedToken, s.length⟩
  | _, [], _, s => .ok s
  | fuel + 1, separator :: outer, true, s => do
      let t ← nextToken s
      match t.token with
      | .openGroup => groupContent fuel (none :: separator :: outer) true t.rest
      | .name _ _ => groupContent fuel (separator :: outer) false t.rest
      | _ => throw t.unexpected
  | fuel + 1, separator :: outer, false, s => do
      let t ← nextToken s
      match t.token with
      | .closeGroup _ => groupContent fuel outer false t.rest
      | .comma =>
          if separator = some .bar then throw t.unexpected
          else groupContent fuel (some .comma :: outer) true t.rest
      | .bar =>
          if separator = some .comma then throw t.unexpected
          else groupContent fuel (some .bar :: outer) true t.rest
      | _ => throw t.unexpected

def elementDeclaration (s : List Char) : Except Trouble (List Char) := do
  let (_, s) ← nextName s
  let t ← nextToken s
  match t.token with
  | .name word false =>
      if word = "EMPTY".toList || word = "ANY".toList then nextClose t.rest else throw t.unexpected
  | .openGroup =>
      let inner ← nextToken t.rest
      match inner.token with
      | .pound word =>
          if word = "PCDATA".toList then
            nextClose (← mixedContent inner.rest.length true inner.rest)
          else throw inner.unexpected
      | _ => nextClose (← groupContent (2 * t.rest.length) [none] true t.rest)
  | _ => throw t.unexpected

/-- The declarations in the brackets of a document type, and the bracket after them. -/
def internalDeclarations : Nat → Declared → List Char → Except Trouble (Declared × List Char)
  | 0, _, s => .error ⟨.unexpectedToken, s.length⟩
  | fuel + 1, d, s => do
      let t ← nextToken s
      match t.token with
      | .closeBracket => return (d, t.rest)
      | .instruction => internalDeclarations fuel d t.rest
      | .comment => internalDeclarations fuel d t.rest
      | .parameter =>
          internalDeclarations fuel { d with incomplete := true, heeding := d.standalone } t.rest
      | .openDeclaration keyword =>
          match String.ofList keyword with
          | "ENTITY" =>
              let (d, rest) ← entityDeclaration d t.rest
              internalDeclarations fuel d rest
          | "ATTLIST" =>
              let (d, rest) ← attributeDeclaration d t.rest
              internalDeclarations fuel d rest
          | "ELEMENT" => internalDeclarations fuel d (← elementDeclaration t.rest)
          | "NOTATION" => internalDeclarations fuel d (← notationDeclaration t.rest)
          | _ => throw t.unexpected
      | _ => throw t.unexpected

def doctypeEnd (d : Declared) (t : Lexed) : Except Trouble (Declared × List Char) :=
  match t.token with
  | .close => .ok (d, t.rest)
  | .openBracket => do
      let (d, rest) ← internalDeclarations t.rest.length d t.rest
      return (d, ← nextClose rest)
  | _ => .error t.unexpected

def doctype (d : Declared) (s : List Char) : Except Trouble (Declared × List Char) := do
  let (_, s) ← nextName s
  let t ← nextToken s
  match t.token with
  | .name word false =>
      if word = "SYSTEM".toList || word = "PUBLIC".toList then
        let rest ← nextExternalId (word = "PUBLIC".toList) t.rest
        doctypeEnd { d with incomplete := true } (← nextToken rest)
      else throw t.unexpected
  | _ => doctypeEnd d t

/-- What stands before the first element, which the rest starts with. `typed` tells that there has
been a document type. -/
def prolog : Nat → Bool → Declared → List Char → Except Trouble (Declared × List Char)
  | 0, _, _, s => .error ⟨.noElement, s.length⟩
  | fuel + 1, typed, d, s => do
      let t ← nextToken s
      match t.token with
      | .instruction => prolog fuel typed d t.rest
      | .comment => prolog fuel typed d t.rest
      | .element => return (d, t.rest)
      | .openDeclaration keyword =>
          if keyword = "DOCTYPE".toList && !typed then
            let (d, rest) ← doctype d t.rest
            prolog fuel true d rest
          else throw t.unexpected
      | _ => throw t.unexpected

def epilog : Nat → List Char → Except Trouble Unit
  | 0, s => .error ⟨.junkAfterDocument, s.length⟩
  | fuel + 1, s => do
      let s := skipSpace s
      match s with
      | [] => return
      | _ =>
          let t ← nextToken s
          match t.token with
          | .instruction => epilog fuel t.rest
          | .comment => epilog fuel t.rest
          | _ => throw ⟨.junkAfterDocument, t.left⟩

end Harvest.Xml
