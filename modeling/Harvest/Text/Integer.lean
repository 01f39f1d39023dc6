import Harvest.Text.Blank
import Harvest.Text.Digit
import Harvest.Text.Quoted

/-!
Whole numbers written in decimal digits, and the two ways in which a text fails to be one.
-/

namespace Harvest.Text

inductive IntegerFault where
  | malformed (base : Nat) (text : String)
  | tooLong (digits : Nat)
deriving DecidableEq, Repr

def maxDigits : Nat := 4300

def IntegerFault.message : IntegerFault → String
  | .malformed base text =>
      s!"invalid literal for int() with base {base}: " ++
        String.ofList ((quoted text).toList.take 200)
  | .tooLong digits =>
      s!"Exceeds the limit ({maxDigits} digits) for integer string conversion: value has " ++
        s!"{digits} digits; use sys.set_int_max_str_digits() to increase the limit"

def isNumberBlank (c : Char) : Bool := isBlank c && !(0x1C ≤ c.toNat && c.toNat ≤ 0x1F)

def digitTail : List Char → List Nat × List Char
  | [] => ([], [])
  | '_' :: c :: cs =>
      match digitValue? c with
      | none => ([], '_' :: c :: cs)
      | some d =>
          let (ds, rest) := digitTail cs
          (d :: ds, rest)
  | c :: cs =>
      match digitValue? c with
      | none => ([], c :: cs)
      | some d =>
          let (ds, rest) := digitTail cs
          (d :: ds, rest)

def digitRun (s : List Char) : List Nat × List Char :=
  if s.head? = some '_' then ([], s) else digitTail s

def ofDigits (base : Nat) (digits : List Nat) : Nat := digits.foldl (fun n d => n * base + d) 0

/-- Reads a whole number: blanks around it, a sign, and digits of any script with single
underscores between them. -/
def integer? (text : String) : Except IntegerFault Int :=
  let bad := .error (.malformed 10 text)
  let s := trimRightOf isNumberBlank (text.toList.dropWhile isNumberBlank)
  let (negative, s) :=
    match s with
    | '-' :: rest => (true, rest)
    | '+' :: rest => (false, rest)
    | _ => (false, s)
  match digitRun s with
  | ([], _) => bad
  | (digits, rest) =>
      if rest.head? = some '_' then bad
      else if digits.length > maxDigits then .error (.tooLong digits.length)
      else if !rest.isEmpty then bad
      else
        let n := ofDigits 10 digits
        .ok (if negative then -(n : Int) else n)

end Harvest.Text
