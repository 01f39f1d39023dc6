import Harvest.Source.Formatted
import Harvest.Source.Grammar
import Harvest.Text.CharacterName

/-!
Which texts are expressions, and what value a text has that is made of literals only.
-/

namespace Harvest.Source

/-- The parts of string literals that stand next to each other, all of one kind, as one expression.
`expression` tests the expressions in formatted strings. -/
def joinStrings (expression : List Char → Bool) (literals : List (List Char)) : Option Expr :=
  let parts := literals.map StringParts.ofLiteral
  let isRaw (p : StringParts) := p.mark.contains 'r'
  let text? (p : StringParts) : Option (List Char) :=
    if isRaw p then some p.body else unescape Text.characterNamed? p.body
  if parts.all (·.mark.contains 'b') then
    let bytes? (p : StringParts) : Option (List UInt8) :=
      if p.body.any (·.toNat ≥ 128) then none
      else if isRaw p then some (p.body.map (·.toNat.toUInt8))
      else unescapeBytes p.body
    (parts.mapM bytes?).map fun all => .constant (.bytes all.flatten)
  else if parts.any (·.mark.contains 'b') then none
  else
    let isFormatted (p : StringParts) := p.mark.contains 'f'
    let isValid (p : StringParts) : Bool :=
      if isFormatted p then
        Formatted.isWellFormed
          { raw := isRaw p, expression
            text := fun s => isRaw p || (unescape Text.characterNamed? s).isSome }
          p.body
      else (text? p).isSome
    if parts.any isFormatted then
      if parts.all isValid then some .formatted else none
    else (parts.mapM text?).map fun all => .constant (.text (String.ofList all.flatten))

/-- Is the text, in parentheses, an expression that may stand in a formatted string? `depth` bounds
how deep formatted strings are nested. -/
def isFieldExpression : Nat → List Char → Bool
  | 0, _ => false
  | depth + 1, s =>
      match symbols? ('(' :: s ++ [')']) with
      | some symbols =>
          (Grammar.read (joinStrings (isFieldExpression depth)) .starExpressions symbols).isSome
      | none => false

/-- The expression that symbols are. Nothing but line ends may follow it; `depth` bounds how deep
formatted strings are nested. -/
def expressionOf? (depth : Nat) (symbols : List Symbol) : Option Expr :=
  match Grammar.read (joinStrings (isFieldExpression depth)) .expressions symbols with
  | some (e, rest) => if rest.all (· == .newline) then some e else none
  | none => none

def expression? (s : List Char) : Option Expr := (symbols? s).bind (expressionOf? s.length)

/-- Is a line that is indented the first thing in a text that is out of order? -/
def isIndented (s : List Char) : Bool :=
  match leadingSymbols? s with
  | some { symbols, indented := true } =>
      symbols.isEmpty || (expressionOf? s.length symbols).isSome
  | _ => false

def isExpression (s : List Char) : Bool := (expression? s).isSome

/-- What is found when a text is looked at as an expression. A text with a null character is not
looked at. -/
inductive Verdict where
  | valid
  | invalid
  | nullCharacter
deriving DecidableEq, Repr, Inhabited

def verdict (s : List Char) : Verdict :=
  if s.contains '\x00' then .nullCharacter
  else if isExpression s then .valid
  else .invalid

/-- A value made of literals. Of a dictionary only its kind matters, as of sets. -/
inductive Value where
  | constant (value : Constant)
  | tuple (items : List Value)
  | list
  | set
  | dict
deriving Repr, Inhabited

mutual

def Value.isHashable : Value → Bool
  | .constant _ => true
  | .tuple items => Value.areHashable items
  | .list | .set | .dict => false

def Value.areHashable : List Value → Bool
  | [] => true
  | v :: vs => v.isHashable && Value.areHashable vs

end

inductive LiteralFault where
  | notExpression
  | indented
  | notLiteral
  | unpacked
  | unhashable
  | nullCharacter
deriving DecidableEq, Repr

def number? : Expr → Option Constant
  | .constant c =>
      match c with
      | .integer _ | .float | .complex => some c
      | _ => none
  | _ => none

def negate : Constant → Constant
  | .integer n => .integer (-n)
  | c => c

def signedNumber? : Expr → Option Constant
  | .signed negative e => (number? e).map fun c => if negative then negate c else c
  | e => number? e

def complexSum? (left right : Expr) : Option Constant :=
  match signedNumber? left, number? right with
  | some (.integer _), some .complex => some .complex
  | some .float, some .complex => some .complex
  | _, _ => none

mutual

def Expr.value : Expr → Except LiteralFault Value
  | .constant c => .ok (.constant c)
  | .tuple items => (Expr.values items).map .tuple
  | .list items => (Expr.values items).map fun _ => .list
  | .set items => (Expr.members items).map fun _ => .set
  | .dict items => (Expr.entries items).map fun _ => .dict
  | .call (some "set") false => .ok .set
  | .sum _ left right =>
      match complexSum? left right with
      | some c => .ok (.constant c)
      | none => .error .notLiteral
  | e =>
      match signedNumber? e with
      | some c => .ok (.constant c)
      | none => .error .notLiteral

def Expr.values : List Expr → Except LiteralFault (List Value)
  | [] => .ok []
  | e :: es => do
      let v ← e.value
      let vs ← Expr.values es
      return v :: vs

def Expr.members : List Expr → Except LiteralFault Unit
  | [] => .ok ()
  | e :: es => do
      let v ← e.value
      if v.isHashable then Expr.members es else throw .unhashable

def Expr.entries : List (Option Expr × Expr) → Except LiteralFault Unit
  | [] => .ok ()
  | (none, _) :: _ => .error .unpacked
  | (some key, e) :: rest => do
      let k ← key.value
      let _ ← e.value
      if k.isHashable then Expr.entries rest else throw .unhashable

end

def evaluate (s : List Char) : Except LiteralFault Value :=
  let s := s.dropWhile fun c => c == ' ' || c == '\t'
  if s.contains '\x00' then .error .nullCharacter
  else
    match expression? s with
    | some e => e.value
    | none => .error (if isIndented s then .indented else .notExpression)

end Harvest.Source
