import Harvest.Source.Lexeme
import Harvest.Text.Integer

/-!
Constants of the source language: numbers and strings, and how they are written.
-/

namespace Harvest.Source

/-- The value of a literal. Of numbers other than whole ones only the kind matters. -/
inductive Constant where
  | text (value : String)
  | bytes (value : List UInt8)
  | integer (value : Int)
  | float
  | complex
  | boolean
  | none
  | ellipsis
deriving DecidableEq, Repr, Inhabited

def hexValue? (c : Char) : Option Nat :=
  if c.isDigit then some (c.toNat - 48)
  else if 'a' ≤ c && c ≤ 'f' then some (c.toNat - 87)
  else if 'A' ≤ c && c ≤ 'F' then some (c.toNat - 55)
  else none

def digitsValue (base : Nat) (digits : List Char) : Nat :=
  Text.ofDigits base (digits.filterMap hexValue?)

/-- The value of a number literal; there is none if it has more decimal digits than are read, unless
all of them are zeros. -/
def Constant.ofNumber? (literal : List Char) : Option Constant :=
  match literal with
  | '0' :: c :: rest =>
      if c == 'x' || c == 'X' then some (.integer (digitsValue 16 rest))
      else if c == 'o' || c == 'O' then some (.integer (digitsValue 8 rest))
      else if c == 'b' || c == 'B' then some (.integer (digitsValue 2 rest))
      else decimal literal
  | _ => decimal literal
where
  decimal (literal : List Char) : Option Constant :=
    if literal.any fun c => c == 'j' || c == 'J' then some .complex
    else if literal.any fun c => c == '.' || c == 'e' || c == 'E' then some .float
    else
      let digits := literal.filter Char.isDigit
      if digits.length > Text.maxDigits && digits.any (· != '0') then Option.none
      else some (.integer (digitsValue 10 digits))

def hexDigits? (n : Nat) (s : List Char) : Option Nat :=
  let digits := s.take n
  if digits.length = n && digits.all isHexDigit then some (digitsValue 16 digits) else none

/-- The character with this code; a code that belongs to no character is shown as the replacement
character. -/
def charOfCode (n : Nat) : Char := if n.isValidChar then Char.ofNat n else '�'

def letterEscape? (c : Char) : Option Char :=
  match c with
  | '\\' => some '\\'
  | '\'' => some '\''
  | '"' => some '"'
  | 'a' => some '\x07'
  | 'b' => some '\x08'
  | 'f' => some '\x0c'
  | 'n' => some '\n'
  | 'r' => some '\r'
  | 't' => some '\t'
  | 'v' => some '\x0b'
  | _ => none

def octalDigits (s : List Char) : List Char := (s.take 3).takeWhile isOctalDigit

/-- What an escape stands for, given what follows the backslash: the characters, and how many
characters after the first it takes up. `names` looks up characters by their Unicode name. An escape
that is not known stands for itself, backslash included. -/
def escape? (names : String → Option Char) (c : Char) (rest : List Char) :
    Option (List Char × Nat) :=
  match letterEscape? c with
  | some e => some ([e], 0)
  | none =>
      if c = '\n' then some ([], 0)
      else if isOctalDigit c then
        let digits := octalDigits (c :: rest)
        some ([charOfCode (digitsValue 8 digits)], digits.length - 1)
      else if c = 'x' then (hexDigits? 2 rest).map fun n => ([charOfCode n], 2)
      else if c = 'u' then (hexDigits? 4 rest).map fun n => ([charOfCode n], 4)
      else if c = 'U' then
        (hexDigits? 8 rest).bind fun n =>
          if n ≤ 0x10FFFF then some ([charOfCode n], 8) else none
      else if c = 'N' then
        match rest with
        | '\x7b' :: rest' =>
            let name := rest'.takeWhile (· != '\x7d')
            if name.length < rest'.length then
              (names (String.ofList name)).map fun found => ([found], name.length + 2)
            else none
        | _ => none
      else some (['\\', c], 0)

/-- Replaces the escapes of a text, of which `skip` characters belong to the escape before. -/
def unescapeFrom (names : String → Option Char) : Nat → List Char → Option (List Char)
  | _, [] => some []
  | skip + 1, _ :: cs => unescapeFrom names skip cs
  | 0, c :: cs =>
      if c = '\\' then
        match cs with
        | [] => some ['\\']
        | e :: rest =>
            match escape? names e rest with
            | some (chars, n) => (unescapeFrom names (n + 1) (e :: rest)).map (chars ++ ·)
            | none => none
      else (unescapeFrom names 0 cs).map (c :: ·)

def unescape (names : String → Option Char) (body : List Char) : Option (List Char) :=
  unescapeFrom names 0 body

def byteEscape? (c : Char) (rest : List Char) : Option (List Nat × Nat) :=
  match letterEscape? c with
  | some e => some ([e.toNat], 0)
  | none =>
      if c = '\n' then some ([], 0)
      else if isOctalDigit c then
        let digits := octalDigits (c :: rest)
        some ([digitsValue 8 digits], digits.length - 1)
      else if c = 'x' then (hexDigits? 2 rest).map fun n => ([n], 2)
      else some (['\\'.toNat, c.toNat], 0)

/-- Replaces the escapes of a byte string, of which `skip` characters belong to the escape
before. -/
def unescapeBytesFrom : Nat → List Char → Option (List UInt8)
  | _, [] => some []
  | skip + 1, _ :: cs => unescapeBytesFrom skip cs
  | 0, c :: cs =>
      if c = '\\' then
        match cs with
        | [] => none
        | e :: rest =>
            match byteEscape? e rest with
            | some (codes, n) =>
                (unescapeBytesFrom (n + 1) (e :: rest)).map (codes.map Nat.toUInt8 ++ ·)
            | none => none
      else (unescapeBytesFrom 0 cs).map (c.toNat.toUInt8 :: ·)

def unescapeBytes (body : List Char) : Option (List UInt8) := unescapeBytesFrom 0 body

structure StringParts where
  mark : List Char
  body : List Char
deriving Repr

def StringParts.ofLiteral (literal : List Char) : StringParts :=
  let mark := literal.takeWhile fun c => !isQuote c
  let quoted := literal.drop mark.length
  let size :=
    match quoted with
    | q :: q' :: q'' :: _ => if q == q' && q == q'' && quoted.length ≥ 6 then 3 else 1
    | _ => 1
  { mark := mark.map Char.toLower
    body := (quoted.drop size).take (quoted.length - 2 * size) }

end Harvest.Source
