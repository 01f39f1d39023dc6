/-!
How alike two texts are: the share of characters in blocks that they have in common.
-/

namespace Harvest.Text

def commonStart : List Char → List Char → Nat
  | a :: as, b :: bs => if a = b then commonStart as bs + 1 else 0
  | _, _ => 0

structure CommonBlock where
  first : Nat
  second : Nat
  length : Nat
deriving DecidableEq, Repr, Inhabited

def CommonBlock.longer (a b : CommonBlock) : CommonBlock := if a.length < b.length then b else a

def blockAt (a : List Char) (i j : Nat) : List Char → CommonBlock
  | [] => ⟨i, j, 0⟩
  | b :: bs => CommonBlock.longer ⟨i, j, commonStart a (b :: bs)⟩ (blockAt a i (j + 1) bs)

def longestBlock (i : Nat) (b : List Char) : List Char → CommonBlock
  | [] => ⟨i, 0, 0⟩
  | c :: cs => (blockAt (c :: cs) i 0 b).longer (longestBlock (i + 1) b cs)

/-- The worker of `commonCount`: `fuel` bounds the number of blocks behind one another. -/
def commonCountFrom : Nat → List Char → List Char → Nat
  | 0, _, _ => 0
  | fuel + 1, a, b =>
      let block := longestBlock 0 b a
      if block.length = 0 then 0
      else
        commonCountFrom fuel (a.take block.first) (b.take block.second) + block.length +
          commonCountFrom fuel (a.drop (block.first + block.length))
            (b.drop (block.second + block.length))

/-- The number of characters in common blocks: the longest block, and those on either side of it. -/
def commonCount (a b : List Char) : Nat := commonCountFrom a.length a b

structure Likeness where
  common : Nat
  total : Nat
deriving DecidableEq, Repr, Inhabited

def Likeness.of (a b : List Char) : Likeness := ⟨2 * commonCount a b, a.length + b.length⟩

def Likeness.isClose (l : Likeness) : Bool := 3 * l.total ≤ 5 * l.common

def Likeness.lt (a b : Likeness) : Bool := a.common * b.total < b.common * a.total

/-- The three choices that are most like a word, among those that are close to it. Of two that are
equally like, the later in order comes first. -/
def closest (word : String) (choices : List String) : List String :=
  let scored := choices.map fun choice => (Likeness.of choice.toList word.toList, choice)
  let close := scored.filter (·.1.isClose)
  let before := fun (a b : Likeness × String) =>
    b.1.lt a.1 || (!a.1.lt b.1 && b.2 ≤ a.2)
  ((close.mergeSort before).take 3).map (·.2)

end Harvest.Text
