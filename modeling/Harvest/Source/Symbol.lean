import Harvest.Source.Constant
import Harvest.Text.Line

/-!
Symbols: the input of the expression grammar. Unlike the tokens of a source, which are read as far
as they go, the symbols of an expression are all in order or there are none.
-/

namespace Harvest.Source

inductive Symbol where
  | name (text : String)
  | keyword (text : String)
  | number (value : Constant)
  | string (literal : List Char)
  | operator (text : String)
  | newline
deriving DecidableEq, Repr, Inhabited

def reservedNames : List String :=
  ["False", "None", "True", "and", "as", "assert", "async", "await", "break", "class", "continue",
   "def", "del", "elif", "else", "except", "finally", "for", "from", "global", "if", "import", "in",
   "is", "lambda", "nonlocal", "not", "or", "pass", "raise", "return", "try", "while", "with",
   "yield"]

def isNameChar (c : Char) : Bool := c.isAlphanum || c == '_' || c.toNat ≥ 128

def startsWithWord (word : String) (s : List Char) : Bool :=
  match word.toList.isPrefixOf? s with
  | some rest => !(rest.head?.map isNameChar).getD false
  | none => false

/-- May a number end before `s`? A name may not follow it directly, except for the keywords that can
come after a number. -/
def isNumberEnd (s : List Char) : Bool :=
  match s with
  | [] => true
  | c :: rest =>
      !isNameChar c ||
        (["and", "else", "for", "or", "not"].any fun word => startsWithWord word s) ||
        (c == 'i' && (rest.head?.map fun d => d == 'f' || d == 'n' || d == 's').getD false)

def strictExponent? (s : List Char) : Option Nat :=
  match s with
  | e :: rest =>
      if e == 'e' || e == 'E' then
        match rest with
        | sign :: digits =>
            if sign == '+' || sign == '-' then (decimalLength? digits).map (· + 2)
            else some (((decimalLength? rest).map (· + 1)).getD 0)
        | [] => some 0
      else some 0
  | [] => some 0

/-- A number in decimal digits: its length. A leading zero is allowed only before zeros, or where a
point, an exponent or the imaginary mark follows. -/
def strictDecimal? (s : List Char) : Option Nat :=
  let whole := (decimalLength? s).getD 0
  let fraction :=
    match s.drop whole with
    | '.' :: rest => 1 + (decimalLength? rest).getD 0
    | _ => 0
  match strictExponent? (s.drop (whole + fraction)) with
  | none => none
  | some exponent =>
      let length := whole + fraction + exponent
      let imaginary := if isImaginaryAt s length then 1 else 0
      let leadingZero :=
        s.head? == some '0' && (s.take whole).any fun c => c.isDigit && c != '0'
      if leadingZero && fraction + exponent + imaginary == 0 then none
      else some (length + imaginary)

def strictNumber? (s : List Char) : Option Nat :=
  let length? :=
    match s with
    | '0' :: c :: rest =>
        if c == 'x' || c == 'X' then markedLength? isHexDigit rest
        else if c == 'o' || c == 'O' then markedLength? isOctalDigit rest
        else if c == 'b' || c == 'B' then markedLength? isBinaryDigit rest
        else strictDecimal? s
    | _ => strictDecimal? s
  length?.bind fun n => if isNumberEnd (s.drop n) then some n else none

/-- The length up to the closing quotes of a string. A backslash takes the next character along; a
string in single quotes may not hold a line end. -/
def closeLength? (closing : Closing) : List Char → Option Nat
  | [] => none
  | '\\' :: _ :: cs => (closeLength? closing cs).map (· + 2)
  | c :: cs =>
      if c = closing.quote then
        if !closing.triple then some 1
        else if cs.take 2 == [c, c] then some 3
        else (closeLength? closing cs).map (· + 1)
      else if c = '\n' && !closing.triple then none
      else (closeLength? closing cs).map (· + 1)

/-- The length of the string literal whose letters `mark` stand at the start of `s`. -/
def strictString? (mark s : List Char) : Option Nat :=
  match s.drop mark.length with
  | quote :: rest =>
      if rest.take 2 == [quote, quote] then
        (closeLength? ⟨quote, true⟩ (rest.drop 2)).map (· + mark.length + 3)
      else (closeLength? ⟨quote, false⟩ rest).map (· + mark.length + 1)
  | [] => none

def nameSymbol? (word : List Char) : Option Symbol :=
  match word with
  | c :: cs =>
      if Text.isIdentifierStart c && cs.all Text.isIdentifierTail then
        let text := String.ofList word
        some (if reservedNames.contains text then .keyword text else .name text)
      else none
  | [] => none

/-- Where the text of a line starts: the column it is indented to, and the rest. A line that is
continued at its very start keeps the column of the first mark unless that is zero. -/
def lineStart? (column first : Nat) : List Char → Option (Nat × List Char)
  | ' ' :: cs => lineStart? (column + 1) first cs
  | '\t' :: cs => lineStart? ((column / 8 + 1) * 8) first cs
  | '\x0c' :: cs => lineStart? 0 first cs
  | '\\' :: '\n' :: c :: cs => lineStart? column (if first = 0 then column else first) (c :: cs)
  | '\\' :: _ => none
  | s => some (if first = 0 then column else first, s)

def closingBracket? (c : Char) : Option Char :=
  match c with
  | '(' => some ')'
  | '[' => some ']'
  | '\x7b' => some '\x7d'
  | _ => none

def maxBrackets : Nat := 200

def bracketsAfter? (brackets : List Char) (c : Char) : Option (List Char) :=
  match closingBracket? c with
  | some close => if brackets.length < maxBrackets then some (close :: brackets) else none
  | none =>
      if ")]\x7d".toList.contains c then
        match brackets with
        | close :: outer => if c = close then some outer else none
        | [] => none
      else some brackets

def symbol? (c : Char) (cs : List Char) : Option (Symbol × Nat) :=
  let s := c :: cs
  match stringMark? s with
  | some mark => (strictString? mark s).map fun n => (.string (s.take n), n)
  | none =>
      if c.isDigit || (c == '.' && (cs.head?.map Char.isDigit).getD false) then
        (strictNumber? s).bind fun n =>
          (Constant.ofNumber? (s.take n)).map fun value => (.number value, n)
      else if isNameChar c then
        let word := s.takeWhile isNameChar
        (nameSymbol? word).map fun symbol => (symbol, word.length)
      else
        (operators.find? fun op => op.toList.isPrefixOf s).map fun op => (.operator op, op.length)

inductive Place where
  | lineStart
  | emptyLine
  | within
deriving DecidableEq, Repr

structure Symbols where
  symbols : List Symbol := []
  indented : Bool := false
deriving DecidableEq, Repr, Inhabited

def Symbols.cons (symbol : Symbol) (rest : Symbols) : Symbols :=
  { rest with symbols := symbol :: rest.symbols }

/-- The worker of `symbols?`: reads with at most `fuel` steps; `brackets` are to be closed. -/
def symbolsFrom : Nat → Place → List Char → List Char → Option Symbols
  | 0, _, _, _ => none
  | fuel + 1, .lineStart, brackets, s =>
      match lineStart? 0 0 s with
      | none => none
      | some (column, rest) =>
          if (rest.head?.map fun c => c == '#' || c == '\n').getD false then
            symbolsFrom fuel .emptyLine brackets rest
          else if brackets.isEmpty && column > 0 then some { indented := true }
          else symbolsFrom fuel .within brackets rest
  | fuel + 1, place, brackets, s =>
      match s with
      | [] => if brackets.isEmpty then some {} else none
      | c :: cs =>
          if c = ' ' || c = '\t' || c = '\x0c' then symbolsFrom fuel place brackets cs
          else if c = '#' then symbolsFrom fuel place brackets (cs.dropWhile (· != '\n'))
          else if c = '\n' then
            let rest := symbolsFrom fuel .lineStart brackets cs
            if place = .emptyLine || !brackets.isEmpty then rest
            else rest.map (Symbols.cons .newline)
          else if c = '\\' then
            match cs with
            | '\n' :: d :: rest => symbolsFrom fuel place brackets (d :: rest)
            | _ => none
          else
            match symbol? c cs with
            | none => none
            | some (symbol, n) =>
                let brackets? :=
                  match symbol with
                  | .operator _ => bracketsAfter? brackets c
                  | _ => some brackets
                match brackets? with
                | none => none
                | some brackets =>
                    (symbolsFrom fuel place brackets (cs.drop (n - 1))).map (Symbols.cons symbol)

/-- The symbols of a text up to its end or a line that is indented. An unknown character, a string
or bracket that is not closed, and a malformed number leave none. -/
def leadingSymbols? (s : List Char) : Option Symbols :=
  let s := Text.unifyLineEnds s
  symbolsFrom (2 * s.length + 2) .lineStart [] s

def symbols? (s : List Char) : Option (List Symbol) :=
  (leadingSymbols? s).bind fun found => if found.indented then none else some found.symbols

end Harvest.Source
