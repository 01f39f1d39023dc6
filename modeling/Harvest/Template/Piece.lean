import Harvest.Text.Basic
import Harvest.Text.Blank

/-!
Pieces of markup: a template is cut into runs of text, tags, comments and declarations. Every
character belongs to one piece. Markup that is not finished is a short piece, and what follows it
is text.

A function whose name ends in `Size` gives the number of characters that its form takes at the
start of a text; one that ends in `Size?` gives `none` where its form is not found.
-/

namespace Harvest.Template

open Text

def isTagBlank (c : Char) : Bool := c == ' ' || c == '\n' || c == '\t' || c == '\r'

def isNameStart (c : Char) : Bool :=
  c.isAlpha || c == '_' || c == ':' || c == '@' || c.toNat > 0x7F

def isNameTail (c : Char) : Bool :=
  c.isAlphanum || c == '_' || c == ':' || c == '.' || c == '-' || c.toNat > 0x7F

def blankSize (s : List Char) : Nat := runLength isTagBlank s

def nameSize? : List Char → Option Nat
  | [] => none
  | c :: cs => if isNameStart c then some (runLength isNameTail cs + 1) else none

def untilSize? (stop : List Char) : List Char → Option Nat
  | [] => none
  | c :: cs =>
      if stop.isPrefixOf (c :: cs) then some stop.length else (untilSize? stop cs).map (· + 1)

def thenSize? (first second : List Char → Option Nat) (s : List Char) : Option Nat := do
  let n ← first s
  return n + (← second (s.drop n))

def optionalSize (form : List Char → Option Nat) (s : List Char) : Nat := (form s).getD 0

def exactSize? (w s : List Char) : Option Nat := if w.isPrefixOf s then some w.length else none

def manySizeFrom (form : List Char → Option Nat) : Nat → List Char → Nat
  | 0, _ => 0
  | fuel + 1, s =>
      match form s with
      | some (n + 1) => n + 1 + manySizeFrom form fuel (s.drop (n + 1))
      | _ => 0

def manySize (form : List Char → Option Nat) (s : List Char) : Nat := manySizeFrom form s.length s

def quoteSize? : List Char → Option Nat
  | '"' :: rest => (untilSize? ['"'] rest).map (· + 1)
  | '\'' :: rest => (untilSize? ['\''] rest).map (· + 1)
  | _ => none

def gapSize? (s : List Char) : Option Nat :=
  match blankSize s with
  | 0 => none
  | n => some n

/-! Comments, sections and instructions. -/

def commentSize? (s : List Char) : Option Nat :=
  (untilSize? ['-', '-'] s).map fun n => n + optionalSize (exactSize? ['>']) (s.drop n)

def instructionEndSize? (s : List Char) : Option Nat :=
  match s with
  | '?' :: '>' :: _ => some 2
  | c :: rest => if isTagBlank c then (untilSize? ['?', '>'] rest).map (· + 1) else none
  | [] => none

def instructionSize? (s : List Char) : Option Nat :=
  (nameSize? s).map fun n => n + optionalSize instructionEndSize? (s.drop n)

/-! Document types. -/

def doctypeWordSize? (s : List Char) : Option Nat :=
  thenSize? gapSize? (fun s => (nameSize? s).or (quoteSize? s)) s

def declarationStepSize? (s : List Char) : Option Nat :=
  let n := runLength (fun c => c != ']' && c != '"' && c != '\'' && c != '>' && c != '<') s
  if n = 0 then quoteSize? s else some n

def declarationSize? : List Char → Option Nat
  | '!' :: '-' :: '-' :: rest =>
      (thenSize? (untilSize? ['-', '-']) (exactSize? ['>']) rest).map (· + 3)
  | '!' :: c :: rest =>
      if c = '-' then none
      else
        let n := manySize declarationStepSize? rest
        (exactSize? ['>'] (rest.drop n)).map (· + n + 2)
  | '?' :: rest => (thenSize? nameSize? instructionEndSize? rest).map (· + 1)
  | _ => none

def doctypeItemSize? : List Char → Option Nat
  | '<' :: rest => (declarationSize? rest).map (· + 1)
  | '%' :: rest => (thenSize? nameSize? (exactSize? [';']) rest).map (· + 1)
  | s => gapSize? s

def internalPartSize? : List Char → Option Nat
  | '[' :: rest =>
      let n := manySize doctypeItemSize? rest
      (exactSize? [']'] (rest.drop n)).map fun close =>
        n + close + 1 + blankSize (rest.drop (n + close))
  | _ => none

def doctypeSize? (s : List Char) : Option Nat := do
  let name ← thenSize? gapSize? nameSize? s
  let words := name + manySize doctypeWordSize? (s.drop name)
  let blanks := words + blankSize (s.drop words)
  let inner := blanks + optionalSize internalPartSize? (s.drop blanks)
  return inner + optionalSize (exactSize? ['>']) (s.drop inner)

/-! Tags. -/

def endTagSize? (s : List Char) : Option Nat :=
  (nameSize? s).map fun n =>
    let blanks := n + blankSize (s.drop n)
    blanks + optionalSize (exactSize? ['>']) (s.drop blanks)

def isBareValue (c : Char) : Bool :=
  !(isBlank c || c == '=' || c == '<' || c == '>' || c == '\x60')

def isLooseValue (c : Char) : Bool := !(c == '"' || c == '\'' || c == '>' || c == '/')

def valueSize? (s : List Char) : Option Nat :=
  match quoteSize? s, runLength isBareValue s, runLength isLooseValue s with
  | some n, _, _ => some n
  | none, n + 1, _ => some (n + 1)
  | none, 0, n + 1 => some (n + 1)
  | none, 0, 0 => none

/-- What follows an attribute's name of `n` characters. An equals sign that nothing follows is no
part of the attribute, and takes the last character of the name with it; blanks after it are its
value. -/
def assignmentSize? (n : Nat) (s : List Char) : Option Nat :=
  let before := blankSize s
  match s.drop before with
  | '=' :: rest =>
      let after := blankSize rest
      match valueSize? (rest.drop after) with
      | some value => some (n + before + 1 + after + value)
      | none => if after > 0 then some (n + before + 1 + after) else if n > 1 then
        some (n - 1) else none
  | _ => some n

def attributeSize? (s : List Char) : Option Nat := do
  let gap ← gapSize? s
  let name ← nameSize? (s.drop gap)
  return gap + (← assignmentSize? name (s.drop (gap + name)))

def tagEndSize : List Char → Nat
  | '/' :: '>' :: _ => 2
  | '>' :: _ => 1
  | _ => 0

def startTagSize? (s : List Char) : Option Nat :=
  (nameSize? s).map fun n =>
    let attributes := n + manySize attributeSize? (s.drop n)
    let blanks := attributes + blankSize (s.drop attributes)
    blanks + tagEndSize (s.drop blanks)

/-! Pieces. -/

def bangSize (s : List Char) : Nat :=
  match dropStart? ['-', '-'] s, dropStart? "[CDATA[".toList s, dropStart? "DOCTYPE".toList s with
  | some rest, _, _ => 2 + optionalSize commentSize? rest
  | none, some rest, _ => 7 + optionalSize (untilSize? [']', ']', '>']) rest
  | none, none, some rest => 7 + optionalSize doctypeSize? rest
  | none, none, none => 0

def markupSize : List Char → Nat
  | '!' :: rest => 1 + bangSize rest
  | '?' :: rest => 1 + optionalSize instructionSize? rest
  | '/' :: rest => 1 + optionalSize endTagSize? rest
  | s => optionalSize startTagSize? s

def pieces : List Char → List (List Char)
  | [] => []
  | c :: cs =>
      let n := if c = '<' then markupSize cs else runLength (· != '<') cs
      (c :: cs.take n) :: pieces (cs.drop n)
termination_by s => s.length
decreasing_by rw [List.length_drop, List.length_cons]; omega

end Harvest.Template
