import Harvest.Template.Tag
import Harvest.Text.Word

/-!
Templates as trees. An end tag closes the innermost open tag with its name; tags that are still
open inside it are leaves beside what follows them.
-/

namespace Harvest.Template

open Text

inductive Node where
  | element (start : Tag) (stop : Option Tag) (children : List Node)
  | startTag (tag : Tag)
  | text (s : String)
  | comment (s : String)
  | characterData (s : String)
  | instruction (s : String)
  | declaration (s : String)
  | unknown (kind : String)
deriving Repr, Inhabited

/-! Trees from pieces. -/

structure OpenTag where
  tag : Tag
  nodes : List Node

structure Builder where
  opened : List OpenTag := []
  nodes : List Node := []
  /-- The prefixes of the start tags that no end tag has answered yet, the last one first. -/
  prefixes : List Prefixes := [.builtin]

def Builder.known (b : Builder) : Prefixes := b.prefixes.headD .builtin

def Builder.add (b : Builder) (node : Node) : Builder :=
  match b.opened with
  | [] => { b with nodes := node :: b.nodes }
  | top :: outer => { b with opened := { top with nodes := node :: top.nodes } :: outer }

def OpenTag.leaves (t : OpenTag) : List Node := t.nodes ++ [.startTag t.tag]

/-- The children of the innermost open tag named `name`, last one first, with the tag and the tags
around it. `inner` are the nodes inside of the tags passed over. -/
def closeTag? (name : String) (inner : List Node) :
    List OpenTag → Option (List Node × Tag × List OpenTag)
  | [] => none
  | top :: outer =>
      if top.tag.name = name then some (inner ++ top.nodes, top.tag, outer)
      else closeTag? name (inner ++ top.leaves) outer

def Builder.close (b : Builder) (s : List Char) : Except Failure Builder := do
  let (stop, _) ← Tag.parse b.known s
  match closeTag? stop.name [] b.opened with
  | none => throw (.unexpectedEndTag (String.ofList s))
  | some (children, start, outer) =>
      let b := { b with opened := outer, prefixes := b.prefixes.drop 1 }
      return b.add (.element start stop children.reverse)

def Builder.open (b : Builder) (s : List Char) : Except Failure Builder := do
  let (tag, known) ← Tag.parse b.known s
  return { b with opened := ⟨tag, []⟩ :: b.opened, prefixes := known :: b.prefixes }

def Builder.addEmpty (b : Builder) (s : List Char) : Except Failure Builder := do
  let (tag, _) ← Tag.parse b.known s
  return b.add (.element tag none [])

def hasLooseHyphens : List Char → Bool
  | [] => false
  | c :: cs =>
      (['-', '-'].isPrefixOf (c :: cs) &&
          ((cs.drop 1).dropWhile (· == '-')).head? != some '>') || hasLooseHyphens cs

def instructionText? (s : List Char) : Option (List Char) :=
  let body := s.drop 2
  let name := runLength isWord body
  if name = 0 then none
  else (untilSize? ['?', '>'] (body.drop name)).map fun n => (body.drop name).take (n - 2)

/-- The node of a piece that starts with an exclamation or question mark after its bracket. -/
def declarationNode (s : List Char) : Except Failure Node :=
  let text := String.ofList s
  if "<!--".toList.isPrefixOf s then
    if hasLooseHyphens (s.drop 4) then .error .hyphensInComment else .ok (.comment text)
  else if "<![CDATA[".toList.isPrefixOf s then .ok (.characterData text)
  else if ['<', '?'].isPrefixOf s then
    .ok ((instructionText? s).elim (.declaration text) fun t => .instruction (String.ofList t))
  else .ok (.declaration text)

def Builder.step (b : Builder) (s : List Char) : Except Failure Builder :=
  match s with
  | '<' :: rest =>
      if "?xml".toList.isPrefixOf rest then b.addEmpty s
      else
        match rest with
        | '!' :: _ => return b.add (← declarationNode s)
        | '?' :: _ => return b.add (← declarationNode s)
        | '/' :: _ => b.close s
        | _ =>
            if endsWith ['/', '>'] s then b.addEmpty s
            else if endsWith ['>'] s then b.open s
            else .ok (b.add (.declaration (String.ofList s)))
  | _ => .ok (b.add (.text (String.ofList s)))

def Builder.finish (b : Builder) : List Node :=
  (b.opened.flatMap OpenTag.leaves ++ b.nodes).reverse

def Node.parse (s : List Char) : Except Failure (List Node) := do
  return ((← (pieces s).foldlM Builder.step {}).finish)

end Harvest.Template
