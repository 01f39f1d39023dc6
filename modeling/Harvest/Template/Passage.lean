import Harvest.Message
import Harvest.Template.Tag
import Harvest.Text.Blank

/-!
Passages: elements whose content is one text to be translated. The elements inside a passage are
shown as placeholders.
-/

namespace Harvest.Template

open Text

structure Passage where
  domain : Option String := none
  context : Option String := none
  id : String := ""
  comment : Option String := none
  location : Location
  pieces : List (List Char) := []
  parts : List (String × String) := []
deriving DecidableEq, Repr, Inhabited

def present? (s : Option String) : Option String := s.filter (!·.isEmpty)

def placeholder (name : Option String) : List Char :=
  match present? name with
  | some name => ['$', '\x7b'] ++ name.toList ++ ['\x7d']
  | none => "<dynamic element>".toList

namespace Passage

def addText (p : Passage) (s : List Char) : Passage := { p with pieces := p.pieces ++ [s] }

def addElement (p : Passage) (name : Option String) : Passage := p.addText (placeholder name)

def words (p : Passage) : List Char := collapse (trim p.pieces.flatten)

def fullText (p : Passage) : String := String.ofList p.words

end Passage

/-- Is a text made of blanks and interpolations only? `inside` tells that the text starts within
an interpolation. -/
def isDynamic : Bool → List Char → Bool
  | inside, [] => !inside
  | true, c :: cs => isDynamic (c != '\x7d') cs
  | false, '$' :: '\x7b' :: cs => isDynamic true cs
  | false, c :: cs => isBlank c && isDynamic false cs

namespace Passage

def isIgnored (p : Passage) : Bool := isDynamic false p.words

def partLine (part : String × String) : String :=
  "Canonical text for $\x7b" ++ part.1 ++ "\x7d is: \"" ++ part.2 ++ "\""

def sentenceLine (sentence : String) : String := "Used in sentence: \"" ++ sentence ++ "\""

def idAndText (p : Passage) : String × Option String :=
  if p.id.isEmpty then (p.fullText, none) else (p.id, present? p.fullText)

def commentLines (p : Passage) (sentence : Option String) : List String :=
  (present? p.comment).toList ++ (p.idAndText.2.map ("Default: " ++ ·)).toList ++
    p.parts.map partLine ++ (sentence.map sentenceLine).toList

def message (p : Passage) (sentence : Option String) : Message :=
  { context := p.context
    text := some p.idAndText.1
    comment := "\n".intercalate (p.commentLines sentence)
    location := p.location }

end Passage

end Harvest.Template
