import Harvest.Failure
import Harvest.Template.Entity
import Harvest.Text.Integer
import Harvest.Text.Word

/-!
Character references such as `&lt;`, `&#65;` and `&#x41;`.
-/

namespace Harvest.Template

open Text

structure Reference where
  numeric : Bool
  hexadecimal : Bool
  body : List Char
deriving DecidableEq, Repr

def referenceBody? (s : List Char) : Option (List Char) :=
  let body := s.takeWhile isWord
  if !body.isEmpty && body.length ≤ 8 && (s.drop body.length).head? = some ';' then some body
  else none

/-- What follows the number sign: the letter `x` is a mark if a body is left without it. -/
def unmarkedReference? (numeric : Bool) (s : List Char) : Option Reference :=
  let plain := (referenceBody? s).map (⟨numeric, false, ·⟩)
  match s with
  | 'x' :: rest => ((referenceBody? rest).map (⟨numeric, true, ·⟩)).or plain
  | _ => plain

def reference? : List Char → Option Reference
  | '#' :: rest => unmarkedReference? true rest
  | s => unmarkedReference? false s

def Reference.size (r : Reference) : Nat :=
  r.numeric.toNat + r.hexadecimal.toNat + r.body.length + 1

def hexValue? (c : Char) : Option Nat :=
  match digitValue? c with
  | some d => some d
  | none =>
      let n := c.toLower.toNat
      if 97 ≤ n && n ≤ 102 then some (n - 87) else none

def hexDigits? : List Char → Option (List Nat)
  | [] => some []
  | '_' :: c :: cs => do return (← hexValue? c) :: (← hexDigits? cs)
  | c :: cs => do return (← hexValue? c) :: (← hexDigits? cs)

def Reference.code (r : Reference) : Except Failure Int :=
  let body := String.ofList r.body
  if r.hexadecimal then
    match hexDigits? r.body with
    | some digits => .ok (ofDigits 16 digits)
    | none => .error (.badReference (.malformed 16 ("0x" ++ body)))
  else (integer? body).mapError .badReference

def maxCode : Int := 0x7FFFFFFF

def Reference.resolve (r : Reference) : Except Failure (Option Char) :=
  if r.numeric then do
    let code ← r.code
    if code > maxCode then throw .referenceSize
    else if code > 0x10FFFF then throw .referenceRange
    else return some (Source.charOfCode code.toNat)
  else return entity? (String.ofList r.body)

def decodeFrom : Nat → List Char → Except Failure (List Char)
  | _, [] => .ok []
  | skip + 1, _ :: cs => decodeFrom skip cs
  | 0, c :: cs => do
      match if c = '&' then reference? cs else none with
      | none => return c :: (← decodeFrom 0 cs)
      | some r =>
          match ← r.resolve with
          | some found => return found :: (← decodeFrom r.size cs)
          | none => return c :: (cs.take r.size ++ (← decodeFrom r.size cs))

def decodeReferences (s : List Char) : Except Failure (List Char) := decodeFrom 0 s

def guardFrom : Nat → List Char → List Char
  | _, [] => []
  | 1, c :: cs => c :: ';' :: guardFrom 0 cs
  | skip + 2, c :: cs => c :: guardFrom (skip + 1) cs
  | 0, c :: cs =>
      c :: guardFrom (((if c = '&' then reference? cs else none).map Reference.size).getD 0) cs

def guardReferences (s : List Char) : List Char := guardFrom 0 s

end Harvest.Template
