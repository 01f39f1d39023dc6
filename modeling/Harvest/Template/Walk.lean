import Harvest.Source.Extract
import Harvest.Template.Code
import Harvest.Template.Node
import Harvest.Template.Passage
import Harvest.Text.Line
import Harvest.Text.Lowercase

/-!
Walking through a template: what each node adds to the messages, and on which line each node
stands. What was found stays also when the walk fails.
-/

namespace Harvest.Template

open Text

/-! Attributes by their plain names. -/

structure PlainAttribute where
  value : String
  start : Nat
  stop : Nat
deriving DecidableEq, Repr, Inhabited

def textFeeds (s : String) : Nat := feeds s.toList

def plainName (name : String) : String :=
  String.ofList ((name.toList.splitOn ':').getLast?.getD [])

def plainAttributesFrom (line : Nat) (found : List (String × PlainAttribute)) :
    List Attribute → List (String × PlainAttribute)
  | [] => found
  | a :: rest =>
      let start := line + textFeeds (a.space ++ a.name ++ a.eq ++ a.quote)
      let stop := start + textFeeds (a.value ++ a.quote)
      plainAttributesFrom stop (bind (plainName a.name) ⟨a.value, start, stop⟩ found) rest

def plainAttributes (attributes : List Attribute) : List (String × PlainAttribute) :=
  plainAttributesFrom 0 [] attributes

def attributeFeeds (attributes : List Attribute) : Nat :=
  ((plainAttributes attributes).map (·.2.stop)).foldl max 0

def Tag.nameFeeds (tag : Tag) : Nat := textFeeds (tag.opening ++ tag.name)

def Tag.restFeeds (tag : Tag) : Nat :=
  attributeFeeds tag.attributes + textFeeds (tag.suffix.getD "")

/-! The state of a walk. -/

structure Scope where
  domain : Option String := none
  context : Option String := none
  comment : Option String := none
deriving DecidableEq, Repr, Inhabited

def Scope.enter (outer : Scope) (tag : Tag) : Scope :=
  let own := fun name => present? (tag.get? .internationalization name)
  { domain := (own "domain").or outer.domain
    context := (own "context").or outer.context
    comment := (own "comment").or outer.comment }

inductive Origin where
  | attribute
  | code
  | passage
deriving DecidableEq, Repr, Inhabited

/-- A message that has been found; one of a passage inside another lacks the line that tells the
text of the latter, until that text is known. -/
structure Draft where
  origin : Origin
  message : Message
  inSentence : Bool := false
deriving DecidableEq, Repr, Inhabited

def Draft.finish (sentence : String) (d : Draft) : Draft :=
  if d.inSentence then
    let line := Passage.sentenceLine sentence
    let comment := if d.message.comment.isEmpty then line else d.message.comment ++ "\n" ++ line
    { d with message := { d.message with comment }, inSentence := false }
  else d

/-- An open element: its scope, the passage that it is, if any, and the messages found since it was
opened. -/
structure Frame where
  scope : Scope := {}
  passage : Option Passage := none
  name : Option String := none
  drafts : List Draft := []
deriving DecidableEq, Repr, Inhabited

def Frame.finished (f : Frame) : List Draft :=
  match f.passage with
  | some p => f.drafts.map (Draft.finish p.fullText)
  | none => f.drafts

structure WalkState where
  session : Session := {}
  line : Int := 1
  frame : Frame := {}
  outer : List Frame := []
deriving Inhabited

def WalkState.drafts (s : WalkState) : List Draft :=
  (s.frame :: s.outer).reverse.flatMap Frame.finished

def WalkState.messages (s : WalkState) : List Message := s.drafts.map (·.message)

/-- Walking, which may fail; what was found until then stays. -/
abbrev Walk := ExceptT Failure (StateM WalkState)

structure Walker where
  options : Options := {}
  file : String := "f"
  engine : String

namespace Walk

def job {α : Type} (j : Job α) : Walk α := do
  let s ← get
  let (outcome, session) := (ExceptT.run j).run s.session
  set { s with session }
  match outcome with
  | .ok a => return a
  | .error cause => throw cause

def advance (lines : Nat) : Walk Unit := modify fun s => { s with line := s.line + lines }

def addDraft (d : Draft) : Walk Unit :=
  modify fun s => { s with frame := { s.frame with drafts := s.frame.drafts ++ [d] } }

def changePassage (f : Passage → Passage) : Walk Unit :=
  modify fun s => { s with frame := { s.frame with passage := s.frame.passage.map f } }

end Walk

namespace Walker

def includes (g : Walker) (domain : Option String) : Bool :=
  g.options.domain.isNone || g.options.domain == domain

def abort {α : Type} (g : Walker) (what : List Char) : Walk α := do
  let line := (← get).line
  Walk.job (Job.say
    s!"Aborting due to Python syntax error in {g.file}[{line}]: {String.ofList what}")
  throw (.exit 1)

def addCode (g : Walker) (code : List Char) : Walk Unit := do
  let line := (← get).line
  let found ← Walk.job (Source.extractText g.options g.file line code)
  found.forM fun m => Walk.addDraft { origin := .code, message := m.shift line }

def endSearch (g : Walker) : CodeEnd → Walk Unit
  | .done => pure ()
  | .invalid code => g.abort code
  | .failed cause => throw cause

def runSearch (g : Walker) (found : CodeSearch) (use : List Char → Walk Unit) : Walk Unit := do
  match found.complaint with
  | some what => do
      let line := (← get).line
      Walk.job (Job.say
        s!"Aborting due to syntax error in {g.file}[{line}]: {String.ofList what}")
  | none => pure ()
  found.codes.forM use
  g.endSearch found.ending

def addAttributeCode (g : Walker) (name : QualifiedName) (value : String)
    (use : List Char → Walk Unit := g.addCode) : Walk Unit := do
  let value ← (liftM (decodeReferences value.toList) : Walk (List Char))
  g.runSearch (attributeCodes g.engine name value) use

/-- The message of an attribute that is to be translated, given by its plain name or by its plain
name and the name that stands for the text. -/
def attributeMessage? (g : Walker) (scope : Scope) (line : Int)
    (plain : List (String × PlainAttribute)) (entry : List Char) : Option Message :=
  let found := fun (name : List Char) => plain.lookup (String.ofList name)
  let message := fun (a : PlainAttribute) text comment =>
    { context := scope.context, text := some text, comment,
      location := ⟨g.file, line + a.start⟩ : Message }
  if entry.contains ' ' then
    match Text.words entry with
    | [name, id] =>
        (found name).map fun a => message a (String.ofList id) ("Default: " ++ a.value)
    | _ => none
  else (found entry).map fun a => message a a.value (scope.comment.getD "")

def attributeMessages (g : Walker) (scope : Scope) (line : Int) (tag : Tag) : List Message :=
  match present? (tag.get? .internationalization "attributes") with
  | some entries =>
      if g.includes scope.domain then
        ((entries.toList.splitOn ';').map trim).filterMap
          (g.attributeMessage? scope line (plainAttributes tag.attributes))
      else []
  | none => []

def passage? (g : Walker) (scope : Scope) (line : Int) (tag : Tag) : Option Passage :=
  (tag.get? .internationalization "translate").map fun id =>
    { domain := scope.domain, context := scope.context, id, comment := scope.comment,
      location := ⟨g.file, line⟩ }

/-- Opens an element: its place in the passage around it, and the messages of its attributes. -/
def openElement (g : Walker) (tag : Tag) (use : List Char → Walk Unit := g.addCode) :
    Walk Unit := do
  Walk.advance tag.nameFeeds
  let name := tag.get? .internationalization "name"
  Walk.changePassage (·.addElement name)
  let s ← get
  let scope := s.frame.scope.enter tag
  let inside := s.line + tag.restFeeds
  set { s with
    frame := { scope, passage := g.passage? scope inside tag, name }
    outer := s.frame :: s.outer }
  (g.attributeMessages scope s.line tag).forM fun m =>
    Walk.addDraft { origin := .attribute, message := m }
  tag.qualified.forM fun (name, value) => g.addAttributeCode name value use
  modify fun s => { s with line := inside }

def passageDraft? (g : Walker) (f : Frame) (inSentence : Bool) : Option Draft :=
  match f.passage with
  | some p =>
      if !p.isIgnored && (present? p.domain).isSome && g.includes f.scope.domain then
        some { origin := .passage, message := p.message none, inSentence }
      else none
  | none => none

def leave (g : Walker) (inner outer : Frame) : Frame :=
  { outer with
    drafts := outer.drafts ++ inner.finished ++ (g.passageDraft? inner outer.passage.isSome).toList
    passage := outer.passage.map fun p =>
      match inner.passage, present? inner.name with
      | some part, some name => { p with parts := bind name part.fullText p.parts }
      | _, _ => p }

def closeElement (g : Walker) (stop : Option Tag) : Walk Unit := do
  match stop with
  | some tag => Walk.advance (tag.nameFeeds + tag.restFeeds)
  | none => pure ()
  modify fun s =>
    match s.outer with
    | [] => s
    | f :: outer => { s with frame := g.leave s.frame f, outer }

def hasMark : List Char → Bool
  | [] => false
  | '_' :: '(' :: cs => (cs.takeWhile (· != '\n')).contains ')' || hasMark cs
  | _ :: cs => hasMark cs

def isCodeFailure : Failure → Bool
  | .literal .notExpression => true
  | .literal .indented => true
  | .badDedent => true
  | _ => false

def addLine (g : Walker) (line : List Char) (use : List Char → Walk Unit := g.addCode) :
    Walk Unit := do
  let line ← (liftM (decodeReferences line) : Walk (List Char))
  let found := interpolations Source.verdict g.engine line
  (found.codes.filter hasMark).forM fun code =>
    tryCatch (use code) fun cause => if isCodeFailure cause then g.abort line else throw cause
  match found.ending with
  | .valid => pure ()
  | .invalid => g.abort line
  | .nullCharacter => throw (.literal .nullCharacter)

def addText (g : Walker) (s : String) (use : List Char → Walk Unit := g.addCode) : Walk Unit := do
  if g.includes (← get).frame.scope.domain then
    (lines s.toList).forM fun line => g.addLine line use
    Walk.changePassage (·.addText s.toList)
  Walk.advance (textFeeds s)

def addDeclaration (g : Walker) (s : String) : Walk Unit := do
  if !"<!doctype".toList.isPrefixOf (lower s.toList) then
    let line := (← get).line
    Walk.job (Job.warn s!"{g.file}:{line}\n    Warning: Node type 'default', possible bad markup")
  Walk.advance (textFeeds s)

def unknownWarning (g : Walker) (kind : String) : String :=
  s!"Warning: Unknown node type '{kind}' in {g.file}, linenumbers might be off. " ++
    "Please report this warning."

mutual

/-- Visits a node. What is done with the code in it is up to `use`: as a rule its messages are
added. -/
def visit (g : Walker) (node : Node) (use : List Char → Walk Unit := g.addCode) : Walk Unit :=
  match node with
  | .element start stop children => do
      g.openElement start use
      g.visitAll children use
      g.closeElement stop
  | .startTag tag => do
      g.openElement tag use
      g.closeElement none
  | .text s => g.addText s use
  | .comment s => Walk.advance (textFeeds s)
  | .characterData s => Walk.advance (textFeeds s)
  | .instruction s => Walk.advance (textFeeds s)
  | .declaration s => g.addDeclaration s
  | .unknown kind => Walk.job (Job.warn (g.unknownWarning kind))

def visitAll (g : Walker) (nodes : List Node) (use : List Char → Walk Unit := g.addCode) :
    Walk Unit :=
  match nodes with
  | [] => pure ()
  | node :: rest => do
      g.visit node use
      g.visitAll rest use

end

end Walker

end Harvest.Template
