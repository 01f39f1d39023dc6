import Harvest.Text.Basic

/-!
Lines: where a text breaks, how many line feeds it holds, and how line ends are unified.
-/

namespace Harvest.Text

/-- Characters that end a line: line feed, vertical tab, form feed, carriage return, three
information separators, next line, and the line and paragraph separators. -/
def isLineEnd (c : Char) : Bool :=
  let n := c.toNat
  (10 ≤ n && n ≤ 13) || (0x1C ≤ n && n ≤ 0x1E) || n == 0x85 || n == 0x2028 || n == 0x2029

def brokenLinesFrom : List Char → List Char → List (List Char × List Char)
  | line, [] => if line.isEmpty then [] else [(line.reverse, [])]
  | line, '\r' :: '\n' :: cs => (line.reverse, ['\r', '\n']) :: brokenLinesFrom [] cs
  | line, c :: cs =>
      if isLineEnd c then (line.reverse, [c]) :: brokenLinesFrom [] cs
      else brokenLinesFrom (c :: line) cs

/-- The lines of a text, each with the characters that end it. The last line has no end, and is
left out when it is empty. A carriage return and the line feed after it are one end. -/
def brokenLines (s : List Char) : List (List Char × List Char) := brokenLinesFrom [] s

def lines (s : List Char) : List (List Char) := (brokenLines s).map (·.1)

def fullLines (s : List Char) : List (List Char) :=
  (brokenLines s).map fun (line, stop) => line ++ stop

def feedLinesFrom : List Char → List Char → List (List Char)
  | line, [] => if line.isEmpty then [] else [line.reverse]
  | line, c :: cs =>
      if c = '\n' then (c :: line).reverse :: feedLinesFrom [] cs
      else feedLinesFrom (c :: line) cs

/-- The lines of a text with their ends, where a line feed alone ends a line. -/
def feedLines (s : List Char) : List (List Char) := feedLinesFrom [] s

def feeds (s : List Char) : Nat := s.count '\n'

/-- The text with a carriage return, alone or before a line feed, read as a line feed. -/
def unifyLineEnds : List Char → List Char
  | [] => []
  | '\r' :: '\n' :: cs => '\n' :: unifyLineEnds cs
  | '\r' :: cs => '\n' :: unifyLineEnds cs
  | c :: cs => c :: unifyLineEnds cs

end Harvest.Text
