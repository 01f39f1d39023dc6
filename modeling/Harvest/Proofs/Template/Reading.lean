import Harvest.Proofs.Template.Written
import Harvest.Proofs.Text.Words

/-!
# The messages of a template, told from its tree

Each element of a template stands in a place: inside other elements, and after a part of the text.
From the element and its place alone one can tell the messages that it gives: one for each attribute
that is to be translated, before those of the elements inside it, and one for its content, after
those.
-/

namespace Harvest.Template

open Text

/-! ## Elements and their places -/

/-- An element: its start tag, and what is inside it. -/
structure Element where
  tag : Tag
  children : List Node

/-- A start tag that is never closed is an element with nothing inside. -/
def Node.element? : Node → Option Element
  | .element start _ children => some ⟨start, children⟩
  | .startTag tag => some ⟨tag, []⟩
  | _ => none

namespace Element

/-- What an element says about translation under some name; an empty text says nothing. -/
def says? (e : Element) (name : String) : Option String :=
  present? (e.tag.get? .internationalization name)

/-- The name that stands for the content of an element that is to be translated; it is empty if the
content stands for itself. -/
def id? (e : Element) : Option String := e.tag.get? .internationalization "translate"

end Element

structure Spot where
  element : Element
  around : List Element
  before : List Char

/-- An element and the elements around it, the innermost first. -/
def Spot.path (spot : Spot) : List Element := spot.element :: spot.around

mutual

/-- What the elements of a node give, where `entering` is given before what is inside an element and
`leaving` after it. The node stands inside the elements `around` and after the text `before`. -/
def Node.collect {α : Type} (entering leaving : Spot → List α) (around : List Element)
    (before : List Char) : Node → List α
  | .element start _ children =>
      entering ⟨⟨start, children⟩, around, before⟩ ++
        Node.collectAll entering leaving (⟨start, children⟩ :: around) (before ++ start.written)
          children ++
        leaving ⟨⟨start, children⟩, around, before⟩
  | .startTag tag =>
      entering ⟨⟨tag, []⟩, around, before⟩ ++ leaving ⟨⟨tag, []⟩, around, before⟩
  | .text _ => []
  | .comment _ => []
  | .characterData _ => []
  | .instruction _ => []
  | .declaration _ => []
  | .unknown _ => []

def Node.collectAll {α : Type} (entering leaving : Spot → List α) (around : List Element)
    (before : List Char) : List Node → List α
  | [] => []
  | node :: rest =>
      Node.collect entering leaving around before node ++
        Node.collectAll entering leaving around (before ++ node.written) rest

end

def Node.preorder (node : Node) : List Spot :=
  node.collect (fun spot => [spot]) (fun _ => []) [] []

def Node.postorder (node : Node) : List Spot :=
  node.collect (fun _ => []) (fun spot => [spot]) [] []

mutual

theorem Node.flatMap_collect {α β : Type} (f : α → List β) (entering leaving : Spot → List α)
    (around : List Element) (before : List Char) (node : Node) :
    (node.collect entering leaving around before).flatMap f =
      node.collect (fun spot => (entering spot).flatMap f) (fun spot => (leaving spot).flatMap f)
        around before := by
  match node with
  | .element start stop children =>
    rw [Node.collect, List.flatMap_append, List.flatMap_append, Node.flatMap_collectAll]
    rfl
  | .startTag tag =>
    rw [Node.collect, List.flatMap_append]
    rfl
  | .text _ | .comment _ | .characterData _ | .instruction _ | .declaration _ | .unknown _ => rfl

theorem Node.flatMap_collectAll {α β : Type} (f : α → List β) (entering leaving : Spot → List α)
    (around : List Element) (before : List Char) (nodes : List Node) :
    (Node.collectAll entering leaving around before nodes).flatMap f =
      Node.collectAll (fun spot => (entering spot).flatMap f) (fun spot => (leaving spot).flatMap f)
        around before nodes := by
  match nodes with
  | [] => rfl
  | node :: rest =>
    rw [Node.collectAll, List.flatMap_append, Node.flatMap_collect, Node.flatMap_collectAll]
    rfl

end

/-! ## Texts -/

def Element.mark (e : Element) : List Char :=
  match e.says? "name" with
  | some name => "$\x7b".toList ++ name.toList ++ "\x7d".toList
  | none => "<dynamic element>".toList

/-- What a node shows in the text of the element around it, if anything. Texts are shown if they are
`read`. -/
def Node.shown? (read : Bool) (node : Node) : Option (List Char) :=
  match node with
  | .text s => if read then some s.toList else none
  | _ => node.element?.map Element.mark

def Element.content (read : Bool) (e : Element) : List Char :=
  (e.children.filterMap (Node.shown? read)).flatten

def Element.text (read : Bool) (e : Element) : String :=
  String.ofList (join [' '] (words (e.content read)))

def withoutRunsFrom : Bool → List Char → List Char
  | _, [] => []
  | true, c :: cs => withoutRunsFrom (c != '\x7d') cs
  | false, '$' :: '\x7b' :: cs =>
      if cs.contains '\x7d' then withoutRunsFrom true cs
      else '$' :: '\x7b' :: withoutRunsFrom false cs
  | false, c :: cs => c :: withoutRunsFrom false cs

/-- A text without its runs from a dollar sign and an opening brace to the next closing brace. -/
def withoutRuns (s : List Char) : List Char := withoutRunsFrom false s

/-! ## Messages -/

/-- What is known where the reading of a template starts. -/
structure Outset where
  asked : Option String → Bool
  file : String
  line : Int
  scope : Scope
  sentence : Option String := none

namespace Outset

/-- The scope inside of elements: the innermost one that says something counts. -/
def scopeAt (o : Outset) (path : List Element) : Scope :=
  { domain := (path.findSome? (·.says? "domain")).or o.scope.domain
    context := (path.findSome? (·.says? "context")).or o.scope.context
    comment := (path.findSome? (·.says? "comment")).or o.scope.comment }

def asks (o : Outset) (path : List Element) : Bool := o.asked (o.scopeAt path).domain

def text (o : Outset) (e : Element) (around : List Element) : String :=
  e.text (o.asks (e :: around))

/-- The name and the text of an element that is translated on its own and has a name in the text
around it. -/
def partOf? (o : Outset) (path : List Element) (e : Element) : Option (String × String) :=
  if e.id?.isSome then (e.says? "name").map (·, o.text e path) else none

def part? (o : Outset) (path : List Element) (node : Node) : Option (String × String) :=
  node.element?.bind (o.partOf? path)

/-- The text of the passage right around an element, if there is one. -/
def sentence? (o : Outset) : List Element → Option String
  | [] => o.sentence
  | e :: around => if e.id?.isSome then some (o.text e around) else none

/-- Is there something to translate in the content of an element? -/
def offers (o : Outset) (spot : Spot) : Bool :=
  !allBlank (withoutRuns (o.text spot.element spot.around).toList) &&
    (present? (o.scopeAt spot.path).domain).isSome && o.asks spot.path

def commentLines (o : Outset) (id : String) (spot : Spot) : List String :=
  let text := o.text spot.element spot.around
  let parts := Assoc.latest (spot.element.children.filterMap (o.part? spot.path))
  (present? (o.scopeAt spot.path).comment).toList ++
    (if id.isEmpty || text.isEmpty then [] else ["Default: " ++ text]) ++
    parts.map (fun (name, text) =>
      "Canonical text for $\x7b" ++ name ++ "\x7d is: \"" ++ text ++ "\"") ++
    ((o.sentence? spot.around).map fun text => "Used in sentence: \"" ++ text ++ "\"").toList

/-- The message for the content of an element, on the line on which its start tag ends. -/
def contentMessage (o : Outset) (id : String) (spot : Spot) : Message :=
  { context := (o.scopeAt spot.path).context
    text := some (if id.isEmpty then o.text spot.element spot.around else id)
    comment := "\n".intercalate (o.commentLines id spot)
    location := ⟨o.file, o.line + feeds (spot.before ++ spot.element.tag.written)⟩ }

def contentMessage? (o : Outset) (spot : Spot) : Option Message :=
  spot.element.id?.bind fun id => if o.offers spot then some (o.contentMessage id spot) else none

/-- The message that an entry asks for: it has the plain name of an attribute, and maybe a name that
stands for the text. The message is on the line on which the attribute's value starts. -/
def attributeMessage? (o : Outset) (spot : Spot) (entry : List Char) : Option Message :=
  let tag := spot.element.tag
  let scope := o.scopeAt spot.path
  let message := fun (name : List Char) (text comment : Attribute → String) =>
    (lastNamed? (String.ofList name) tag.attributes).map fun (earlier, a) =>
      { context := scope.context, text := some (text a), comment := comment a,
        location := ⟨o.file,
          o.line + feeds (spot.before ++ tag.lead ++ writtenAttributes earlier ++ a.lead)⟩ :
            Message }
  if entry.contains ' ' then
    match words entry with
    | [name, id] => message name (fun _ => String.ofList id) ("Default: " ++ ·.value)
    | _ => none
  else message entry (·.value) fun _ => scope.comment.getD ""

def attributeMessages (o : Outset) (spot : Spot) : List Message :=
  if o.asks spot.path then
    (spot.element.says? "attributes").toList.flatMap fun entries =>
      ((entries.toList.splitOn ';').map trim).filterMap (o.attributeMessage? spot)
  else []

end Outset

end Harvest.Template
