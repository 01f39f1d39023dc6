import Harvest.Text.Blank
import Harvest.Text.Digit
import Harvest.Text.Word

/-!
Filling lines with text. A text is cut into chunks, between which a line may end, and each line
takes as many chunks as fit.
-/

namespace Harvest.Text

/-! Chunks. -/

def isFillBlank (c : Char) : Bool :=
  c == ' ' || c == '\t' || c == '\n' || c == '\x0b' || c == '\x0c' || c == '\r'

def isWordLetter (c : Char) : Bool := isWord c && !isDigit c

def isWordPunctuation (c : Char) : Bool := isWord c || "!\"'&.,?".toList.contains c

def expandTabsFrom : Nat → List Char → List Char
  | _, [] => []
  | column, c :: cs =>
      if c = '\t' then
        let width := 8 - column % 8
        List.replicate width ' ' ++ expandTabsFrom (column + width) cs
      else if c = '\n' || c = '\r' then c :: expandTabsFrom 0 cs
      else c :: expandTabsFrom (column + 1) cs

def expandTabs (s : List Char) : List Char := expandTabsFrom 0 s

def plainBlanks (s : List Char) : List Char := mapClass isFillBlank ' ' (expandTabs s)

/-- Does the text start with a dash, which is at least two hyphens before a word? -/
def startsDash (s : List Char) : Bool :=
  let hyphens := s.takeWhile (· == '-')
  hyphens.length ≥ 2 && (((s.drop hyphens.length).head?).map isWord).getD false

/-- May a line end after a hyphen? `before` is the text before it, last character first, and
`after` the text after it. There must be two letters, or a letter, a hyphen and a letter, on either
side. -/
def breaksAtHyphen (before after : List Char) : Bool :=
  (match before with
    | a :: '-' :: b :: _ => isWordLetter a && isWordLetter b
    | a :: b :: _ => isWordLetter a && isWordLetter b
    | _ => false) &&
  (match after with
    | a :: '-' :: b :: _ => isWordLetter a && isWordLetter b
    | a :: b :: _ => isWordLetter a && isWordLetter b
    | _ => false)

def allowsDash (before : List Char) : Bool := (before.head?.map isWordPunctuation).getD false

def wordRestSize (before : List Char) : List Char → Nat
  | [] => 0
  | c :: cs =>
      if c = '-' && breaksAtHyphen before cs then 1
      else if isFillBlank c then 0
      else if allowsDash before && startsDash (c :: cs) then 0
      else wordRestSize (c :: before) cs + 1

def chunkExtra (before : List Char) (c : Char) (cs : List Char) : Nat :=
  if isFillBlank c then (cs.takeWhile isFillBlank).length
  else if allowsDash before && startsDash (c :: cs) then (cs.takeWhile (· == '-')).length
  else wordRestSize (c :: before) cs

def chunksFrom (before : List Char) : List Char → List (List Char)
  | [] => []
  | c :: cs =>
      let n := chunkExtra before c cs
      (c :: cs.take n) :: chunksFrom ((cs.take n).reverse ++ c :: before) (cs.drop n)
termination_by s => s.length
decreasing_by rw [List.length_drop, List.length_cons]; omega

/-- The chunks of a text: runs of blanks, dashes, and words cut at their hyphens. -/
def chunks (s : List Char) : List (List Char) := chunksFrom [] s

/-! Lines. -/

structure Filling where
  width : Int
  first : List Char := []
  other : List Char := []
  trimmed : Bool := true
  cutting : Bool := false
deriving DecidableEq, Repr

def fitting (space : Int) : List (List Char) → List (List Char) × List (List Char)
  | [] => ([], [])
  | chunk :: rest =>
      if (chunk.length : Int) ≤ space then
        let (line, left) := fitting (space - chunk.length) rest
        (chunk :: line, left)
      else ([], chunk :: rest)

/-- Where a chunk is cut that has only `space` characters left: after its last hyphen there, if
more than hyphens stands before that. -/
def cutPlace (space : Nat) (chunk : List Char) : Nat :=
  let part := chunk.take space
  let before := (part.reverse.dropWhile (· != '-')).drop 1
  if before.any (· != '-') then before.length + 1 else space

/-- A line and the chunks after it, once a chunk is met that fits in no line. -/
def placeLong (f : Filling) (space : Int) (line : List (List Char)) (chunk : List Char)
    (rest : List (List Char)) : List (List Char) × List (List Char) :=
  if f.cutting then
    let left := if space < 1 then 1 else (space - (line.flatten.length : Int)).toNat
    let n := cutPlace left chunk
    (line ++ [chunk.take n], chunk.drop n :: rest)
  else if line.isEmpty then ([chunk], rest)
  else (line, chunk :: rest)

def nextLine (f : Filling) (space : Int) (chunks : List (List Char)) :
    List (List Char) × List (List Char) :=
  match fitting space chunks with
  | (line, chunk :: rest) =>
      if (chunk.length : Int) > space then placeLong f space line chunk rest
      else (line, chunk :: rest)
  | (line, []) => (line, [])

def endLine (f : Filling) (line : List (List Char)) : List (List Char) :=
  if f.trimmed && (line.getLast?.map allBlank).getD false then line.dropLast else line

def fillFrom (f : Filling) : Nat → Bool → List (List Char) → List (List Char)
  | 0, _, _ => []
  | _, _, [] => []
  | fuel + 1, started, chunk :: rest =>
      let indent := if started then f.other else f.first
      let chunks := if f.trimmed && started && allBlank chunk then rest else chunk :: rest
      let (line, left) := nextLine f (f.width - (indent.length : Int)) chunks
      let line := endLine f line
      if line.isEmpty then fillFrom f fuel started left
      else (indent ++ line.flatten) :: fillFrom f fuel true left

def Filling.lines (f : Filling) (s : List Char) : List (List Char) :=
  let chunks := chunks (plainBlanks s)
  fillFrom f (2 * (s.length + chunks.flatten.length) + 2) false chunks

end Harvest.Text
