/-!
Packed texts. A packed text is a number, written with many digits. The numbers of an interval are
shared out among the letters that a text may start with, the share of each letter among those that
may follow it, and so on. The share of a letter is the larger, the more often it has followed the
same letters before.
-/

namespace Harvest.Text

/-! What is known of letters that follow others. -/

/-- What is known when the latest letters are known: the letters that have followed them, with their
weights, and what is known when one more letter before them is. -/
inductive Memory where
  | seen (followers : List (Nat × Nat)) (earlier : List (Nat × Memory))

namespace Memory

def fade (weight : Nat) : Nat := if weight > 1 then weight * 3 / 4 else weight

/-- The weights after a letter has come: it gains, and all others lose. -/
def weigh (letter : Nat) : List (Nat × Nat) → List (Nat × Nat)
  | [] => [(letter, 8)]
  | (other, weight) :: rest =>
      if other = letter then
        (letter, min 120 (weight + 8)) :: rest.map fun (other, weight) => (other, fade weight)
      else (other, fade weight) :: weigh letter rest

def change (latest : Nat) (f : List (Nat × Nat) → List (Nat × Memory) → Memory) :
    List (Nat × Memory) → List (Nat × Memory)
  | [] => [(latest, f [] [])]
  | (letter, .seen followers earlier) :: rest =>
      if letter = latest then (letter, f followers earlier) :: rest
      else (letter, .seen followers earlier) :: change latest f rest

/-- Takes note of a letter that has come after others, the latest of which is given first. -/
def learn (letter : Nat) : List Nat → List (Nat × Memory) → List (Nat × Memory)
  | [], known => known
  | latest :: past, known =>
      change latest
        (fun followers earlier => .seen (weigh letter followers) (learn letter past earlier)) known

/-- Adds to the shares of letters what they get for having followed the same letters before. Each
factor tells how much a match of its length counts. -/
def addShares : List Nat → List Nat → List (Nat × Memory) → Array Nat → Array Nat
  | factor :: factors, latest :: past, known, shares =>
      match known.lookup latest with
      | some (.seen followers earlier) =>
          addShares factors past earlier (followers.foldl
            (fun shares (letter, weight) => shares.modify letter (· + factor * weight)) shares)
      | none => shares
  | _, _, _, shares => shares

end Memory

/-! Numbers in intervals. -/

def packedDigits : List Char :=
  "!$%&()*+,-.0123456789:;<=>?@ABCDEFGHIJKLMNOPQRSTUVWXYZ^_abcdefghijklmnopqrstuvwxyz|~".toList

def packedBase : Nat := packedDigits.length

def leastInterval : Nat := Nat.pow packedBase 5

/-- A number in an interval: the size of the interval, how far the number is from its start, and the
digits that are still to be read. -/
structure Packed where
  size : Nat
  offset : Nat
  digits : List Nat

def Packed.refill (size offset : Nat) : List Nat → Packed
  | [] => ⟨size, offset, []⟩
  | digit :: digits =>
      if size < leastInterval then refill (size * packedBase) (offset * packedBase + digit) digits
      else ⟨size, offset, digit :: digits⟩

def shareAt (number letter start : Nat) : List Nat → Nat × Nat × Nat
  | [] => (letter, start, 0)
  | share :: shares =>
      if number < start + share then (letter, start, share)
      else shareAt number (letter + 1) (start + share) shares

def unpackFrom (letters : Nat) : Nat → Packed → List (Nat × Memory) → List Nat → List Nat
  | 0, _, _, past => past
  | count + 1, packed, known, past =>
      let shares := (Memory.addShares [10, 10, 10, 20, 40, 160] past known
        (Array.replicate letters 1)).toList
      let unit := packed.size / shares.sum
      let (letter, start, share) := shareAt (packed.offset / unit) 0 0 shares
      unpackFrom letters count
        (.refill (unit * share) (packed.offset - unit * start) packed.digits)
        (Memory.learn letter (past.take 6) known) (letter :: past)

def unpack (alphabet : List Char) (count : Nat) (digits : List Char) : List Char :=
  let packed := Packed.refill 1 0 (digits.map (packedDigits.idxOf ·))
  (unpackFrom alphabet.length count packed [] []).reverse.map (alphabet.getD · ' ')

end Harvest.Text
