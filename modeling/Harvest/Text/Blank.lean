import Harvest.Text.Basic

/-!
White space: the class of blank characters, and texts without, between and around it.
-/

namespace Harvest.Text

/-- White space of all scripts, the four information separators included. -/
def isBlank (c : Char) : Bool :=
  let n := c.toNat
  (9 ≤ n && n ≤ 13) || (0x1C ≤ n && n ≤ 0x20) || n == 0x85 || n == 0xA0 || n == 0x1680 ||
    (0x2000 ≤ n && n ≤ 0x200A) || n == 0x2028 || n == 0x2029 || n == 0x202F || n == 0x205F ||
    n == 0x3000

def trimLeft (s : List Char) : List Char := s.dropWhile isBlank

def trimRightOf (p : Char → Bool) (s : List Char) : List Char := (s.reverse.dropWhile p).reverse

def trimRight (s : List Char) : List Char := trimRightOf isBlank s

def trim (s : List Char) : List Char := trimRight (trimLeft s)

def collapseFrom : Bool → List Char → List Char
  | _, [] => []
  | inRun, c :: cs =>
      if isBlank c then
        if inRun then collapseFrom true cs else ' ' :: collapseFrom true cs
      else c :: collapseFrom false cs

def collapse (s : List Char) : List Char := collapseFrom false s

def wordsFrom : List Char → List Char → List (List Char)
  | word, [] => if word.isEmpty then [] else [word.reverse]
  | word, c :: cs =>
      if isBlank c then
        if word.isEmpty then wordsFrom [] cs else word.reverse :: wordsFrom [] cs
      else wordsFrom (c :: word) cs

def words (s : List Char) : List (List Char) := wordsFrom [] s

def allBlank (s : List Char) : Bool := s.all isBlank

end Harvest.Text
