import Harvest.Source.Expression
import Harvest.Source.Symbol

/-!
The grammar of expressions. Each rule reads symbols from the front of a list and gives the
expression with the symbols that are left. Rules refer to one another through `Rules`, and `parse`
ties the knot: every reference costs one unit of fuel, and `fuelFor` gives more than any input can
use.
-/

namespace Harvest.Source.Grammar

inductive Rule where
  | expressions
  | expressionItems
  | expression
  | starExpressions
  | named
  | starNamed
  | disjunction
  | conjunction
  | inversion
  | comparison
  | binary (level : Nat)
  | binaryTail (level : Nat) (left : Expr)
  | factor
  | power
  | primary
  | trailers (base : Expr)
  | atom
  | starNamedItems (close : String)
  | pairs
  | clauses
  | conditions
  | targets
  | arguments (stage : Nat)
  | slices
  | parameters (stage : Nat)

abbrev Result := Option (Expr × List Symbol)

abbrev Rules := Rule → List Symbol → Result

abbrev Strings := List (List Char) → Option Expr

def operator? (text : String) (s : List Symbol) : Option (List Symbol) :=
  match s with
  | .operator op :: rest => if op == text then some rest else none
  | _ => none

def keyword? (text : String) (s : List Symbol) : Option (List Symbol) :=
  match s with
  | .keyword word :: rest => if word == text then some rest else none
  | _ => none

def atOperator (text : String) (s : List Symbol) : Bool := (operator? text s).isSome

def atFor (s : List Symbol) : Bool := (keyword? "for" s).isSome || (keyword? "async" s).isSome

def itemsOf : Expr → List Expr
  | .tuple items => items
  | e => [e]

def consItem (item : Expr) : Result → Result
  | some (items, rest) => some (.tuple (item :: itemsOf items), rest)
  | none => none

def starred (rules : Rules) (plain : Rule) (s : List Symbol) : Result :=
  match operator? "*" s with
  | some rest => (rules (.binary 0) rest).map fun (e, rest) => (.starred e, rest)
  | none => rules plain s

def expression (rules : Rules) (s : List Symbol) : Result :=
  match keyword? "lambda" s with
  | some rest => do
      let (_, rest) ← rules (.parameters 0) rest
      let rest ← operator? ":" rest
      let (_, rest) ← rules .expression rest
      return (.other, rest)
  | none => do
      let (e, rest) ← rules .disjunction s
      let conditional : Result := do
        let (_, rest) ← rules .disjunction (← keyword? "if" rest)
        let (_, rest) ← rules .expression (← keyword? "else" rest)
        return (.other, rest)
      return conditional.getD (e, rest)

def expressions (rules : Rules) (s : List Symbol) : Result := do
  let (e, rest) ← rules .expression s
  match operator? "," rest with
  | none => return (e, rest)
  | some rest => consItem e (rules .expressionItems rest)

def expressionItems (rules : Rules) (s : List Symbol) : Result :=
  match rules .expression s with
  | none => some (.tuple [], s)
  | some (e, rest) =>
      match operator? "," rest with
      | none => some (.tuple [e], rest)
      | some rest => consItem e (rules .expressionItems rest)

def starExpressions (rules : Rules) (s : List Symbol) : Result := do
  let (e, rest) ← starred rules .expression s
  match operator? "," rest with
  | none => return (e, rest)
  | some rest => return (.other, ((rules .starExpressions rest).map (·.2)).getD rest)

def named (rules : Rules) (s : List Symbol) : Result :=
  match s with
  | .name _ :: .operator ":=" :: rest => do
      let (_, rest) ← rules .expression rest
      return (.other, rest)
  | _ => do
      let (e, rest) ← rules .expression s
      if atOperator ":=" rest then none else return (e, rest)

def starNamed (rules : Rules) (s : List Symbol) : Result := starred rules .named s

def disjunction (rules : Rules) (s : List Symbol) : Result := do
  let (e, rest) ← rules .conjunction s
  match keyword? "or" rest with
  | some rest => do
      let (_, rest) ← rules .disjunction rest
      return (.other, rest)
  | none => return (e, rest)

def conjunction (rules : Rules) (s : List Symbol) : Result := do
  let (e, rest) ← rules .inversion s
  match keyword? "and" rest with
  | some rest => do
      let (_, rest) ← rules .conjunction rest
      return (.other, rest)
  | none => return (e, rest)

def inversion (rules : Rules) (s : List Symbol) : Result :=
  match keyword? "not" s with
  | some rest => do
      let (_, rest) ← rules .inversion rest
      return (.other, rest)
  | none => rules .comparison s

def comparisonOperator? (s : List Symbol) : Option (List Symbol) :=
  match s with
  | .operator op :: rest =>
      if ["==", "!=", "<=", "<", ">=", ">"].contains op then some rest else none
  | .keyword "not" :: .keyword "in" :: rest => some rest
  | .keyword "in" :: rest => some rest
  | .keyword "is" :: .keyword "not" :: rest => some rest
  | .keyword "is" :: rest => some rest
  | _ => none

def comparison (rules : Rules) (s : List Symbol) : Result := do
  let (e, rest) ← rules (.binary 0) s
  match comparisonOperator? rest with
  | some rest => do
      let (_, rest) ← rules .comparison rest
      return (.other, rest)
  | none => return (e, rest)

def binaryLevels : List (List String) :=
  [["|"], ["^"], ["&"], ["<<", ">>"], ["+", "-"], ["*", "/", "//", "%", "@"]]

def binary (rules : Rules) (level : Nat) (s : List Symbol) : Result :=
  if level < binaryLevels.length then do
    let (e, rest) ← rules (.binary (level + 1)) s
    rules (.binaryTail level e) rest
  else rules .factor s

def binaryTail (rules : Rules) (level : Nat) (left : Expr) (s : List Symbol) : Result :=
  match s with
  | .operator op :: rest =>
      if (binaryLevels.getD level []).contains op then do
        let (right, rest) ← rules (.binary (level + 1)) rest
        let e := if op == "+" then .sum false left right
          else if op == "-" then .sum true left right
          else .other
        rules (.binaryTail level e) rest
      else return (left, s)
  | _ => return (left, s)

def factor (rules : Rules) (s : List Symbol) : Result :=
  match s with
  | .operator "+" :: rest => do
      let (e, rest) ← rules .factor rest
      return (.signed false e, rest)
  | .operator "-" :: rest => do
      let (e, rest) ← rules .factor rest
      return (.signed true e, rest)
  | .operator "~" :: rest => do
      let (_, rest) ← rules .factor rest
      return (.other, rest)
  | _ => rules .power s

def awaited (rules : Rules) (s : List Symbol) : Result :=
  match keyword? "await" s with
  | some rest => (rules .primary rest).map fun (_, rest) => (.other, rest)
  | none => rules .primary s

def power (rules : Rules) (s : List Symbol) : Result := do
  let (e, rest) ← awaited rules s
  match operator? "**" rest with
  | some rest => do
      let (_, rest) ← rules .factor rest
      return (.other, rest)
  | none => return (e, rest)

def primary (rules : Rules) (s : List Symbol) : Result := do
  let (e, rest) ← rules .atom s
  rules (.trailers e) rest

def nameOf? : Expr → Option String
  | .name text => some text
  | _ => none

def trailers (rules : Rules) (base : Expr) (s : List Symbol) : Result :=
  match s with
  | .operator "." :: .name _ :: rest => rules (.trailers .attribute) rest
  | .operator "(" :: .operator ")" :: rest =>
      rules (.trailers (.call (nameOf? base) false)) rest
  | .operator "(" :: rest => do
      let (_, rest) ← rules (.arguments 0) rest
      rules (.trailers (.call (nameOf? base) true)) (← operator? ")" rest)
  | .operator "[" :: rest => do
      let (_, rest) ← rules .slices rest
      rules (.trailers .subscript) (← operator? "]" rest)
  | _ => return (base, s)

def parenthesized (rules : Rules) (s : List Symbol) : Result :=
  match s with
  | .operator ")" :: rest => return (.tuple [], rest)
  | .keyword "yield" :: rest => do
      match keyword? "from" rest with
      | some rest =>
          let (_, rest) ← rules .expression rest
          return (.other, ← operator? ")" rest)
      | none =>
          let rest := ((rules .starExpressions rest).map (·.2)).getD rest
          return (.other, ← operator? ")" rest)
  | _ => do
      let (e, rest) ← rules .starNamed s
      let isStarred := match e with | .starred _ => true | _ => false
      if atFor rest && !isStarred then
        let (_, rest) ← rules .clauses rest
        return (.other, ← operator? ")" rest)
      else
        match operator? "," rest with
        | some rest => do
            let (items, rest) ← rules (.starNamedItems ")") rest
            return (.tuple (e :: itemsOf items), ← operator? ")" rest)
        | none => if isStarred then none else return (e, ← operator? ")" rest)

def bracketed (rules : Rules) (s : List Symbol) : Result :=
  match s with
  | .operator "]" :: rest => return (.list [], rest)
  | _ => do
      let (e, rest) ← rules .starNamed s
      let isStarred := match e with | .starred _ => true | _ => false
      if atFor rest && !isStarred then
        let (_, rest) ← rules .clauses rest
        return (.other, ← operator? "]" rest)
      else
        match operator? "," rest with
        | some rest => do
            let (items, rest) ← rules (.starNamedItems "]") rest
            return (.list (e :: itemsOf items), ← operator? "]" rest)
        | none => return (.list [e], ← operator? "]" rest)

/-- The pairs of a dictionary from a list of expressions: a starred one has no key, and any other is
followed by its value. -/
def pairsOf : List Expr → List (Option Expr × Expr)
  | .starred e :: rest => (none, e) :: pairsOf rest
  | key :: value :: rest => (some key, value) :: pairsOf rest
  | _ => []

def braced (rules : Rules) (s : List Symbol) : Result :=
  match s with
  | .operator "\x7d" :: rest => return (.dict [], rest)
  | .operator "**" :: _ => do
      let (items, rest) ← rules .pairs s
      return (.dict (pairsOf (itemsOf items)), ← operator? "\x7d" rest)
  | _ => do
      let (e, rest) ← rules .starNamed s
      let isStarred := match e with | .starred _ => true | _ => false
      match operator? ":" rest with
      | some rest => do
          if isStarred || (match s with | .name _ :: .operator ":=" :: _ => true | _ => false) then
            none
          else
            let (value, rest) ← rules .expression rest
            if atFor rest then
              let (_, rest) ← rules .clauses rest
              return (.other, ← operator? "\x7d" rest)
            else
              match operator? "," rest with
              | some rest => do
                  let (items, rest) ← rules .pairs rest
                  return (.dict (pairsOf (e :: value :: itemsOf items)), ← operator? "\x7d" rest)
              | none => return (.dict [(some e, value)], ← operator? "\x7d" rest)
      | none =>
          if atFor rest && !isStarred then
            let (_, rest) ← rules .clauses rest
            return (.other, ← operator? "\x7d" rest)
          else
            match operator? "," rest with
            | some rest => do
                let (items, rest) ← rules (.starNamedItems "\x7d") rest
                return (.set (e :: itemsOf items), ← operator? "\x7d" rest)
            | none => return (.set [e], ← operator? "\x7d" rest)

def stringRun : List Symbol → List (List Char) × List Symbol
  | .string literal :: rest =>
      let (literals, rest) := stringRun rest
      (literal :: literals, rest)
  | s => ([], s)

def atom (strings : Strings) (rules : Rules) (s : List Symbol) : Result :=
  match s with
  | .name text :: rest => return (.name text, rest)
  | .number value :: rest => return (.constant value, rest)
  | .string _ :: _ => do
      let (literals, rest) := stringRun s
      return (← strings literals, rest)
  | .keyword "True" :: rest => return (.constant .boolean, rest)
  | .keyword "False" :: rest => return (.constant .boolean, rest)
  | .keyword "None" :: rest => return (.constant .none, rest)
  | .operator "..." :: rest => return (.constant .ellipsis, rest)
  | .operator "(" :: rest => parenthesized rules rest
  | .operator "[" :: rest => bracketed rules rest
  | .operator "\x7b" :: rest => braced rules rest
  | _ => none

def starNamedItems (rules : Rules) (close : String) (s : List Symbol) : Result :=
  if atOperator close s then return (.tuple [], s)
  else do
    let (e, rest) ← rules .starNamed s
    match operator? "," rest with
    | some rest => consItem e (rules (.starNamedItems close) rest)
    | none => return (.tuple [e], rest)

/-- A key with its value, or two stars before a dictionary; both as the items that `pairsOf`
takes. -/
def pair (rules : Rules) (s : List Symbol) : Option (List Expr × List Symbol) :=
  match operator? "**" s with
  | some rest => (rules (.binary 0) rest).map fun (e, rest) => ([.starred e], rest)
  | none => do
      let (key, rest) ← rules .expression s
      let (value, rest) ← rules .expression (← operator? ":" rest)
      return ([key, value], rest)

def pairs (rules : Rules) (s : List Symbol) : Result :=
  if atOperator "\x7d" s then return (.tuple [], s)
  else do
    let (items, rest) ← pair rules s
    match operator? "," rest with
    | some rest => do
        let (more, rest) ← rules .pairs rest
        return (.tuple (items ++ itemsOf more), rest)
    | none => return (.tuple items, rest)

def clauses (rules : Rules) (s : List Symbol) : Result := do
  let s := (keyword? "async" s).getD s
  let (_, rest) ← rules .targets (← keyword? "for" s)
  let (_, rest) ← rules .disjunction (← keyword? "in" rest)
  let (_, rest) ← rules .conditions rest
  if atFor rest then rules .clauses rest else return (.other, rest)

def conditions (rules : Rules) (s : List Symbol) : Result :=
  match keyword? "if" s with
  | some rest => do
      let (_, rest) ← rules .disjunction rest
      rules .conditions rest
  | none => return (.other, s)

def targets (rules : Rules) (s : List Symbol) : Result := do
  let s := (operator? "*" s).getD s
  let (e, rest) ← rules .primary s
  if !e.isTarget then none
  else
    match operator? "," rest with
    | some rest =>
        if (keyword? "in" rest).isSome then return (.other, rest) else rules .targets rest
    | none => return (.other, rest)

/-- The arguments of a call, up to the closing bracket. At stage 0 arguments of all forms may come,
at stage 1 no more by position, and at stage 2 only named arguments and dictionaries. One argument
alone may be a comprehension. -/
def arguments (rules : Rules) (stage : Nat) (s : List Symbol) : Result :=
  let more (stage : Nat) (rest : List Symbol) : Result :=
    match operator? "," rest with
    | some rest =>
        if atOperator ")" rest then return (.other, rest) else rules (.arguments (stage + 3)) rest
    | none => return (.other, rest)
  let first := stage < 3
  let stage := stage % 3
  match s with
  | .operator "**" :: rest => do
      let (_, rest) ← rules .expression rest
      more 2 rest
  | .operator "*" :: rest =>
      if stage = 2 then none
      else do
        let (_, rest) ← rules .expression rest
        more stage rest
  | .name _ :: .operator "=" :: rest => do
      let (_, rest) ← rules .expression rest
      more (max stage 1) rest
  | _ =>
      if stage > 0 then none
      else do
        let (_, rest) ← rules .named s
        if atOperator "=" rest then none
        else if first && atFor rest then rules .clauses rest
        else more 0 rest

def slice (rules : Rules) (s : List Symbol) : Result := do
  let bound (s : List Symbol) : Option (List Symbol) :=
    if atOperator ":" s || atOperator "," s || atOperator "]" s then some s
    else (rules .expression s).map (·.2)
  let range (s : List Symbol) : Result := do
    let rest ← bound (← operator? ":" s)
    match operator? ":" rest with
    | some rest => return (.other, ← bound rest)
    | none => return (.other, rest)
  if atOperator ":" s then range s
  else
    match s with
    | .name _ :: .operator ":=" :: _ => rules .named s
    | _ =>
        let (_, rest) ← rules .expression s
        if atOperator ":" rest then range rest
        else if atOperator ":=" rest then none
        else return (.other, rest)

def slices (rules : Rules) (s : List Symbol) : Result := do
  let (_, rest) ← (operator? "*" s).elim (slice rules s) (rules .expression)
  match operator? "," rest with
  | some rest => if atOperator "]" rest then return (.other, rest) else rules .slices rest
  | none => return (.other, rest)

def parameterEnd? (s : List Symbol) : Option (List Symbol) :=
  match operator? "," s with
  | some rest => some rest
  | none => if atOperator ":" s then some s else none

/-- The parameters of `lambda`, up to the colon. Stages: 0 nothing read yet, 1 parameters without
default read, 2 with default; 3 and 4 the same after the slash; 5 after the star; 6 after a star
alone, where a name must come. -/
def parameters (rules : Rules) (stage : Nat) (s : List Symbol) : Result :=
  match s with
  | .operator ":" :: _ => if stage = 6 then none else return (.other, s)
  | .operator "/" :: rest =>
      if stage = 1 then do rules (.parameters 3) (← parameterEnd? rest)
      else if stage = 2 then do rules (.parameters 4) (← parameterEnd? rest)
      else none
  | .operator "*" :: rest =>
      if stage ≥ 5 then none
      else
        match rest with
        | .operator "," :: rest => rules (.parameters 6) rest
        | .name _ :: rest => do rules (.parameters 5) (← parameterEnd? rest)
        | _ => none
  | .operator "**" :: rest =>
      if stage = 6 then none
      else
        match rest with
        | .name _ :: rest => do
            let rest ← parameterEnd? rest
            if atOperator ":" rest then return (.other, rest) else none
        | _ => none
  | .name _ :: rest =>
      match operator? "=" rest with
      | some rest => do
          let (_, rest) ← rules .expression rest
          let stage := if stage ≥ 5 then 5 else if stage ≥ 3 then 4 else 2
          rules (.parameters stage) (← parameterEnd? rest)
      | none =>
          if stage = 2 || stage = 4 then none
          else do
            let stage := if stage ≥ 5 then 5 else if stage = 3 then 3 else 1
            rules (.parameters stage) (← parameterEnd? rest)
  | _ => none

def body (strings : Strings) (rules : Rules) : Rule → List Symbol → Result
  | .expressions => expressions rules
  | .expressionItems => expressionItems rules
  | .expression => expression rules
  | .starExpressions => starExpressions rules
  | .named => named rules
  | .starNamed => starNamed rules
  | .disjunction => disjunction rules
  | .conjunction => conjunction rules
  | .inversion => inversion rules
  | .comparison => comparison rules
  | .binary level => binary rules level
  | .binaryTail level left => binaryTail rules level left
  | .factor => factor rules
  | .power => power rules
  | .primary => primary rules
  | .trailers base => trailers rules base
  | .atom => atom strings rules
  | .starNamedItems close => starNamedItems rules close
  | .pairs => pairs rules
  | .clauses => clauses rules
  | .conditions => conditions rules
  | .targets => targets rules
  | .arguments stage => arguments rules stage
  | .slices => slices rules
  | .parameters stage => parameters rules stage

def parse (strings : Strings) : Nat → Rules
  | 0 => fun _ _ => none
  | fuel + 1 => body strings (parse strings fuel)

/-- Between two symbols no more than thirty rules refer to one another. -/
def fuelFor (s : List Symbol) : Nat := 30 * (s.length + 2)

def read (strings : Strings) (rule : Rule) (s : List Symbol) : Result :=
  parse strings (fuelFor s) rule s

end Harvest.Source.Grammar
