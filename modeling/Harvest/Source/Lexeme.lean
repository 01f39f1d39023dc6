import Harvest.Source.Token
import Harvest.Text.Basic
import Harvest.Text.Identifier
import Harvest.Text.Word

/-!
Lexemes: what stands at a position within one line of a source. Each function gives the number of
characters that the lexeme takes up.
-/

namespace Harvest.Source

def digitsLength (p : Char → Bool) : List Char → Nat
  | '_' :: c :: cs => if p c then digitsLength p cs + 2 else 0
  | c :: cs => if p c then digitsLength p cs + 1 else 0
  | [] => 0

def isHexDigit (c : Char) : Bool := c.isDigit || ('a' ≤ c && c ≤ 'f') || ('A' ≤ c && c ≤ 'F')

def isOctalDigit (c : Char) : Bool := '0' ≤ c && c ≤ '7'

def isBinaryDigit (c : Char) : Bool := c == '0' || c == '1'

def decimalLength? (s : List Char) : Option Nat :=
  match s with
  | c :: cs => if c.isDigit then some (digitsLength Char.isDigit cs + 1) else none
  | [] => none

def exponentLength? (s : List Char) : Option Nat :=
  match s with
  | e :: cs =>
      if e == 'e' || e == 'E' then
        match cs with
        | '+' :: ds => (decimalLength? ds).map (· + 2)
        | '-' :: ds => (decimalLength? ds).map (· + 2)
        | _ => (decimalLength? cs).map (· + 1)
      else none
  | [] => none

def withExponent (s : List Char) (n : Nat) : Nat := n + (exponentLength? (s.drop n)).getD 0

def floatLength? (s : List Char) : Option Nat :=
  match decimalLength? s with
  | some n =>
      match s.drop n with
      | '.' :: rest => some (withExponent s (n + 1 + (decimalLength? rest).getD 0))
      | rest => (exponentLength? rest).map (n + ·)
  | none =>
      match s with
      | '.' :: rest => (decimalLength? rest).map fun n => withExponent s (n + 1)
      | _ => none

def markedLength? (p : Char → Bool) (s : List Char) : Option Nat :=
  match digitsLength p s with
  | 0 => none
  | n => some (n + 2)

def integerLength? (s : List Char) : Option Nat :=
  let marked :=
    match s with
    | '0' :: c :: rest =>
        if c == 'x' || c == 'X' then markedLength? isHexDigit rest
        else if c == 'b' || c == 'B' then markedLength? isBinaryDigit rest
        else if c == 'o' || c == 'O' then markedLength? isOctalDigit rest
        else none
    | _ => none
  match marked with
  | some n => some n
  | none =>
      match s with
      | '0' :: rest => some (digitsLength (· == '0') rest + 1)
      | _ => decimalLength? s

def isImaginaryAt (s : List Char) (n : Nat) : Bool :=
  match s.drop n with
  | c :: _ => c == 'j' || c == 'J'
  | [] => false

def numberLength? (s : List Char) : Option Nat :=
  let imaginary (length? : Option Nat) : Option Nat :=
    length?.bind fun n => if isImaginaryAt s n then some (n + 1) else none
  (imaginary (decimalLength? s)).or ((imaginary (floatLength? s)).or
    ((floatLength? s).or (integerLength? s)))

def operators : List String :=
  ["**=", "//=", ">>=", "<<=", "...", "!=", "%=", "&=", "**", "*=", "+=", "-=", "->", "//", "/=",
   ":=", "<<", "<=", "==", ">=", ">>", "@=", "^=", "|=", "%", "&", "(", ")", "*",
     "+", ",", "-", ".",
   "/", ":", ";", "<", "=", ">", "@", "[", "]", "^", "\x7b", "|", "\x7d", "~"]

def operatorLength? (s : List Char) : Option Nat :=
  (operators.find? fun op => op.toList.isPrefixOf s).map String.length

def stringMarks : List String := ["", "b", "r", "u", "f", "br", "rb", "fr", "rf"]

def isQuote (c : Char) : Bool := c == '\'' || c == '"'

def stringMark? (s : List Char) : Option (List Char) :=
  let mark := (s.takeWhile fun c => !isQuote c).take 3
  match s.drop mark.length with
  | c :: _ =>
      if isQuote c && stringMarks.contains (String.ofList (mark.map Char.toLower)) then some mark
      else none
  | [] => none

structure Closing where
  quote : Char
  triple : Bool
deriving DecidableEq, Repr

def tripleCloseLength? (quote : Char) : List Char → Option Nat
  | [] => none
  | '\\' :: c :: cs =>
      if c = '\n' then none else (tripleCloseLength? quote cs).map (· + 2)
  | c :: cs =>
      if c = '\\' then none
      else if c = quote && (cs.take 2 == [quote, quote]) then some 3
      else (tripleCloseLength? quote cs).map (· + 1)

def singleCloseLength? (quote : Char) : List Char → Option Nat
  | [] => none
  | '\\' :: c :: cs =>
      if c = '\n' then none else (singleCloseLength? quote cs).map (· + 2)
  | c :: cs =>
      if c = '\\' then none
      else if c = quote then some 1
      else (singleCloseLength? quote cs).map (· + 1)

def Closing.length? (closing : Closing) (s : List Char) : Option Nat :=
  if closing.triple then tripleCloseLength? closing.quote s
  else singleCloseLength? closing.quote s

def endsContinued (line : List Char) : Bool :=
  ['\\', '\n'].isSuffixOf line || ['\\', '\r', '\n'].isSuffixOf line

/-- How a string with single quotes goes on after its opening quote: it is closed within the line,
or the line ends in a continuation mark. -/
inductive StringTail where
  | closed (length : Nat)
  | continued

def stringTail? (quote : Char) : List Char → Option StringTail
  | [] => none
  | '\\' :: cs =>
      match cs with
      | [] => none
      | ['\n'] => some .continued
      | ['\r', '\n'] => some .continued
      | '\n' :: _ => none
      | _ :: rest =>
          (stringTail? quote rest).map fun
            | .closed n => .closed (n + 2)
            | .continued => .continued
  | c :: cs =>
      if c = '\n' then none
      else if c = quote then some (.closed 1)
      else
        (stringTail? quote cs).map fun
          | .closed n => .closed (n + 1)
          | .continued => .continued

inductive Lexeme where
  | token (kind : TokenKind) (length : Nat)
  | lineEnd (length : Nat)
  | continuation
  | openString (closing : Closing)

def stringLexeme? (s : List Char) : Option Lexeme :=
  match stringMark? s with
  | none => none
  | some mark =>
      match s.drop mark.length with
      | quote :: rest =>
          if rest.take 2 == [quote, quote] then
            match tripleCloseLength? quote (rest.drop 2) with
            | some n => some (.token .string (mark.length + 3 + n))
            | none => some (.openString ⟨quote, true⟩)
          else
            match stringTail? quote rest with
            | some (.closed n) => some (.token .string (mark.length + 1 + n))
            | some .continued => some (.openString ⟨quote, false⟩)
            | none => none
      | [] => none

/-- A run of word characters: a name, or an operator token if its first character cannot start a
name. -/
def wordLexeme? (s : List Char) : Option Lexeme :=
  match Text.runLength Text.isWord s with
  | 0 => none
  | n =>
      some (.token (if (s.head?.map Text.isIdentifierStart).getD false then .name else .operator) n)

def lexeme? (s : List Char) : Option Lexeme :=
  match s with
  | '\\' :: '\n' :: _ => some .continuation
  | '\\' :: '\r' :: '\n' :: _ => some .continuation
  | '#' :: cs => some (.token .comment (Text.runLength (fun c => c != '\r' && c != '\n') cs + 1))
  | '\n' :: _ => some (.lineEnd 1)
  | '\r' :: '\n' :: _ => some (.lineEnd 2)
  | _ =>
      match numberLength? s with
      | some n => some (.token .number n)
      | none =>
          match operatorLength? s with
          | some n => some (.token .operator n)
          | none => (stringLexeme? s).or (wordLexeme? s)

end Harvest.Source
