import Harvest.Source.Constant

/-!
Formatted strings: string literals with expressions in braces. What is asked of one is whether it is
well formed, given a test for the expressions in it.
-/

namespace Harvest.Source.Formatted

inductive Stop where
  | doubled
  | brace
deriving DecidableEq, Repr

/-- The plain text up to the next brace, which is not part of it, and what follows. Inside a format
(`nested`) braces are not doubled; elsewhere a closing brace alone is an error. The braces of a
named character are part of the text. -/
def piece? (raw nested : Bool) : Nat → List Char → Option (List Char × Stop × List Char)
  | _, [] => some ([], .brace, [])
  | skip + 1, c :: cs => (piece? raw nested skip cs).map fun (text, stop) => (c :: text, stop)
  | 0, c :: cs =>
      let text? (skip : Nat) :=
        (piece? raw nested skip cs).map fun (text, stop) => (c :: text, stop)
      if c == '\\' && !raw then
        match cs with
        | 'N' :: '\x7b' :: rest =>
            let name := rest.takeWhile (· != '\x7d')
            if name.length < rest.length then text? (name.length + 3) else none
        | 'N' :: _ => none
        | d :: _ => if d == '\x7b' || d == '\x7d' then text? 0 else text? 1
        | [] => text? 0
      else if c == '\x7b' || c == '\x7d' then
        if nested then some ([], .brace, c :: cs)
        else if cs.head? == some c then some ([c], .doubled, cs.drop 1)
        else if c == '\x7d' then none
        else some ([], .brace, c :: cs)
      else text? 0

/-- The text of an expression up to what ends it: a closing brace, a conversion, a format or an
equals sign outside all brackets and strings. `opened` are the brackets to be closed, and `quote`
tells the string that is open. -/
def fieldText? : Nat → Option (Char × Bool) → List Char → List Char → Option (List Char × List Char)
  | _, _, _, [] => none
  | skip + 1, quote, opened, c :: cs =>
      (fieldText? skip quote opened cs).map fun (text, rest) => (c :: text, rest)
  | 0, quote, opened, c :: cs =>
      let go (skip : Nat) (quote : Option (Char × Bool)) (opened : List Char) :=
        (fieldText? skip quote opened cs).map fun (text, rest) => (c :: text, rest)
      let tripled := cs.take 2 == [c, c]
      if c == '\\' then none
      else
        match quote with
        | some (q, triple) =>
            if c != q then go 0 quote opened
            else if !triple then go 0 none opened
            else if tripled then go 2 none opened
            else go 0 quote opened
        | none =>
            if isQuote c then
              if tripled then go 2 (some (c, true)) opened else go 0 (some (c, false)) opened
            else if c == '(' || c == '[' || c == '\x7b' then
              if opened.length < 200 then go 0 none (c :: opened) else none
            else if c == '#' then none
            else if opened.isEmpty && "!:\x7d=<>".toList.contains c then
              if "!=<>".toList.contains c && cs.head? == some '=' then go 1 none opened
              else if c == '<' || c == '>' then go 0 none opened
              else some ([], c :: cs)
            else if c == ')' || c == ']' || c == '\x7d' then
              match opened with
              | o :: outer =>
                  if (o == '(' && c == ')') || (o == '[' && c == ']') ||
                    (o == '\x7b' && c == '\x7d')
                  then go 0 none outer
                  else none
              | [] => none
            else go 0 none opened

def isFieldBlank (c : Char) : Bool := c == ' ' || (9 ≤ c.toNat && c.toNat ≤ 13)

structure Tests where
  raw : Bool
  text : List Char → Bool
  expression : List Char → Bool

mutual

/-- Reads plain texts and fields. At level 0 all of it must be used up; in a format, which is at
level 1 or 2, the rest starts with the closing brace. -/
def rest? (tests : Tests) : Nat → Nat → List Char → Option (List Char)
  | 0, _, _ => none
  | fuel + 1, level, s =>
      match piece? tests.raw (level > 0) 0 s with
      | none => none
      | some (text, stop, rest) =>
          if !tests.text text then none
          else
            match stop, rest with
            | .doubled, rest => rest? tests fuel level rest
            | .brace, '\x7b' :: rest =>
                if level ≥ 2 then none
                else
                  match field? tests fuel level rest with
                  | some rest => rest? tests fuel level rest
                  | none => none
            | .brace, [] => if level = 0 then some [] else none
            | .brace, rest => if level = 0 then none else some rest

def field? (tests : Tests) : Nat → Nat → List Char → Option (List Char)
  | 0, _, _ => none
  | fuel + 1, level, s =>
      match fieldText? 0 none [] s with
      | none => none
      | some (text, rest) =>
          if text.all (fun c => c == ' ' || c == '\t' || c == '\n' || c == '\x0c') then none
          else if !tests.expression text then none
          else
            let rest :=
              match rest with
              | '=' :: rest => rest.dropWhile isFieldBlank
              | _ => rest
            let converted :=
              match rest with
              | '!' :: c :: rest => if c == 's' || c == 'r' || c == 'a' then some rest else none
              | '!' :: [] => none
              | _ => some rest
            match converted with
            | some (':' :: format) =>
                match rest? tests fuel (level + 1) format with
                | some ('\x7d' :: rest) => some rest
                | _ => none
            | some ('\x7d' :: rest) => some rest
            | _ => none

end

def isWellFormed (tests : Tests) (body : List Char) : Bool :=
  (rest? tests (2 * body.length + 2) 0 body).isSome

end Harvest.Source.Formatted
