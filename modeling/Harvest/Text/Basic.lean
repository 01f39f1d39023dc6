/-!
Operations on texts held as lists of characters: cutting, replacing and joining.
-/

namespace Harvest.Text

def cut? (sep : Char) : List Char → Option (List Char × List Char)
  | [] => none
  | c :: cs =>
      if c = sep then some ([], cs)
      else (cut? sep cs).map fun (before, after) => (c :: before, after)

/-- The number of characters of the class `p` with which a text starts. -/
def runLength (p : Char → Bool) (s : List Char) : Nat := (s.takeWhile p).length

def join (sep : List Char) (parts : List (List Char)) : List Char := sep.intercalate parts

def dropStart? (start : List Char) (s : List Char) : Option (List Char) := start.isPrefixOf? s

def endsWith (tail s : List Char) : Bool := tail.isSuffixOf s

def contains (part : List Char) : List Char → Bool
  | [] => part.isEmpty
  | c :: cs => part.isPrefixOf (c :: cs) || contains part cs

def replaceFrom (old new : List Char) : Nat → List Char → List Char
  | _, [] => []
  | 0, c :: cs =>
      if old.isPrefixOf (c :: cs) then new ++ replaceFrom old new (old.length - 1) cs
      else c :: replaceFrom old new 0 cs
  | skip + 1, _ :: cs => replaceFrom old new skip cs

/-- Every occurrence of `old`, taken from left to right without overlap, replaced by `new`.
`old` is not empty. -/
def replace (old new s : List Char) : List Char := replaceFrom old new 0 s

def mapClass (p : Char → Bool) (c : Char) (s : List Char) : List Char :=
  s.map fun x => if p x then c else x

def padded (width n : Nat) : String :=
  let digits := Nat.toDigits 10 n
  String.ofList (List.replicate (width - digits.length) '0' ++ digits)

def padRight (width : Nat) (s : String) : String :=
  s ++ String.ofList (List.replicate (width - s.length) ' ')

def padLeft (width : Nat) (s : String) : String :=
  String.ofList (List.replicate (width - s.length) ' ') ++ s

def hex (width n : Nat) : String :=
  let digits := Nat.toDigits 16 n
  String.ofList (List.replicate (width - digits.length) '0' ++ digits)

end Harvest.Text
