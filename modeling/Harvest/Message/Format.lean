import Harvest.Text.Digit
import Harvest.Text.Word

/-!
Format flags: a text with `printf` conversions is marked `c-format`, and one with a replacement
field in braces `python-format`, unless a flag of the same kind has been given already.
-/

namespace Harvest.Message

def dropAmount (s : List Char) : List Char :=
  match s with
  | '*' :: rest => rest
  | _ => s.dropWhile Text.isDigit

def dropPrecision (s : List Char) : List Char :=
  match s with
  | '.' :: '*' :: rest => rest
  | '.' :: c :: rest => if Text.isDigit c then rest.dropWhile Text.isDigit else s
  | _ => s

def dropLength (s : List Char) : List Char :=
  match s with
  | 'h' :: 'h' :: rest => rest
  | 'h' :: rest => rest
  | 'l' :: 'l' :: rest => rest
  | 'l' :: rest => rest
  | 'j' :: rest => rest
  | 'z' :: rest => rest
  | 't' :: rest => rest
  | 'L' :: rest => rest
  | _ => s

def dropConversionFlag (s : List Char) : List Char :=
  match s with
  | c :: rest => if "+#0-".toList.contains c then rest else s
  | [] => s

def conversionSpecifiers : List Char := "diuoxXfFeEgGaAcspn%".toList

/-- Does a conversion follow the percent sign: flag, width, precision, length and specifier, all
but the last optional? -/
def isConversion (afterPercent : List Char) : Bool :=
  match dropLength (dropPrecision (dropAmount (dropConversionFlag afterPercent))) with
  | c :: _ => conversionSpecifiers.contains c
  | [] => false

def percentTails : List Char → List (List Char)
  | [] => []
  | '%' :: rest =>
      if rest.head? = some '%' then percentTails rest else rest :: percentTails rest
  | _ :: rest => percentTails rest

def isPercentFormat (s : List Char) : Bool :=
  let tails := percentTails s
  !tails.isEmpty && tails.all isConversion

def dropFieldAccess (s : List Char) : List Char :=
  match s with
  | '.' :: c :: rest => if c == '_' || c.isLower then rest.dropWhile Text.isWord else s
  | '[' :: c :: rest =>
      if Text.isDigit c then
        match rest.dropWhile Text.isDigit with
        | ']' :: rest' => rest'
        | _ => s
      else s
  | _ => s

/-- The name of a replacement field; only one that starts with an ASCII letter or an underscore may
have an attribute or index. -/
def dropFieldName (s : List Char) : List Char :=
  match s with
  | c :: _ =>
      let rest := s.dropWhile Text.isWord
      if c.isAlpha || c == '_' then dropFieldAccess rest else rest
  | [] => s

def dropFieldConversion (s : List Char) : List Char :=
  match s with
  | '!' :: 'r' :: rest => rest
  | '!' :: 's' :: rest => rest
  | _ => s

def dropOne (p : Char → Bool) (s : List Char) : List Char :=
  match s with
  | c :: rest => if p c then rest else s
  | [] => s

def dropPointWord (s : List Char) : List Char :=
  match s with
  | '.' :: c :: rest => if Text.isWord c then rest.dropWhile Text.isWord else s
  | _ => s

/-- The format of a replacement field after its colon: a point, an alignment, a sign, a word, a
comma, a point with a word, and a type, all optional. -/
def dropFieldFormat (s : List Char) : List Char :=
  match s with
  | ':' :: rest =>
      let rest := dropOne (· == '.') rest
      let rest := dropOne ("<>=^".toList.contains ·) rest
      let rest := dropOne ("+ -".toList.contains ·) rest
      let rest := rest.dropWhile Text.isWord
      let rest := dropOne (· == ',') rest
      let rest := dropPointWord rest
      dropOne ("bcdeEfFgGnosxX%".toList.contains ·) rest
  | _ => s

def isField (afterBrace : List Char) : Bool :=
  (dropFieldFormat (dropFieldConversion (dropFieldName afterBrace))).head? == some '\x7d'

def isBraceFormat : List Char → Bool
  | [] => false
  | c :: rest => (c == '\x7b' && isField rest) || isBraceFormat rest

def withPercentFlag (text : String) (flags : List String) : List String :=
  if flags.contains "no-c-format" || flags.contains "c-format" then flags
  else if isPercentFormat text.toList then flags ++ ["c-format"]
  else flags

def withBraceFlag (text : String) (flags : List String) : List String :=
  if flags.contains "no-python-format" || flags.contains "python-format" then flags
  else if isBraceFormat text.toList then flags ++ ["python-format"]
  else flags

/-- The flags with the format flags added. A message without a text has none to look at, which is
a fault (`none`) unless the flags given already decide both kinds. -/
def withFormatFlags (text : Option String) (flags : List String) : Option (List String) :=
  match text with
  | some t => some (withBraceFlag t (withPercentFlag t flags))
  | none =>
      if (flags.contains "no-c-format" || flags.contains "c-format") &&
          (flags.contains "no-python-format" || flags.contains "python-format") then some flags
      else none

end Harvest.Message
