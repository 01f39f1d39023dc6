import Harvest.Xml.Fault
import Harvest.Xml.Name

/-!
Scanning the parts of a document that are the same everywhere: names, references, comments,
instructions and tags.

A scan gives what it has read and the rest of the text. Three marks that no document holds stand
for what cannot be decoded: bytes that are no character, a character that is cut off by the end of
the document, and half of a two-byte unit at the end.
-/

namespace Harvest.Xml

def badMark : Char := '\x00'

def cutMark : Char := Char.ofNat 0xFFFF

def oddMark : Char := Char.ofNat 0xFFFE

inductive Stop where
  | invalid (left : Nat)
  | ranOut
deriving DecidableEq, Repr

def stopAt {α : Type} (s : List Char) : Except Stop α :=
  match s with
  | [] => .error .ranOut
  | _ => .error (.invalid s.length)

/-- The trouble that a scan of the text `s` has met. A character that is cut off counts against the
whole token. -/
def Stop.trouble (s : List Char) : Stop → Trouble
  | .ranOut => ⟨.unclosedToken, s.length⟩
  | .invalid left =>
      match (s.drop (s.length - left)).head? with
      | some c =>
          if c = cutMark then ⟨.partialCharacter, s.length⟩
          else if c = oddMark then ⟨.unclosedToken, s.length⟩
          else ⟨.invalidToken, left⟩
      | none => ⟨.invalidToken, left⟩

def skipSpace (s : List Char) : List Char := s.dropWhile isSpace

def scanName (s : List Char) : Except Stop (List Char × List Char) :=
  match s with
  | c :: cs =>
      if isNameStart c then .ok (c :: cs.takeWhile isNameChar, cs.dropWhile isNameChar)
      else stopAt s
  | [] => stopAt s

def scanExact (c : Char) (s : List Char) : Except Stop (List Char) :=
  match s with
  | x :: rest => if x = c then .ok rest else stopAt s
  | [] => stopAt s

/-! References. -/

inductive Reference where
  | entity (name : List Char)
  | character (c : Option Char)
deriving DecidableEq, Repr

def characterNumbered? (n : Nat) : Option Char :=
  if n.isValidChar && isCharacter (Char.ofNat n) then some (Char.ofNat n) else none

def digitOf (c : Char) : Nat :=
  if c.isDigit then c.toNat - 48 else c.toLower.toNat - 87

def isHexDigit (c : Char) : Bool :=
  c.isDigit || ('a' ≤ c && c ≤ 'f') || ('A' ≤ c && c ≤ 'F')

def scanNumber (base : Nat) (isDigit : Char → Bool) (s : List Char) :
    Except Stop (Nat × List Char) := do
  let digits := s.takeWhile isDigit
  if digits.isEmpty then stopAt s
  else
    let rest ← scanExact ';' (s.dropWhile isDigit)
    return (digits.foldl (fun n c => n * base + digitOf c) 0, rest)

def scanReference (s : List Char) : Except Stop (Reference × List Char) :=
  match s with
  | '#' :: 'x' :: rest =>
      (scanNumber 16 isHexDigit rest).map fun (n, rest) => (.character (characterNumbered? n), rest)
  | '#' :: rest =>
      (scanNumber 10 Char.isDigit rest).map fun (n, rest) =>
        (.character (characterNumbered? n), rest)
  | _ => do
      let (name, rest) ← scanName s
      return (.entity name, ← scanExact ';' rest)

/-! Comments and instructions. -/

def scanCommentBody (s : List Char) : Except Stop (List Char) :=
  match s with
  | '-' :: '-' :: rest => scanExact '>' rest
  | c :: cs => if isCharacter c then scanCommentBody cs else stopAt s
  | [] => stopAt s

def scanComment (s : List Char) : Except Stop (List Char) := do
  scanCommentBody (← scanExact '-' s)

def scanInstructionBody (s : List Char) : Except Stop (List Char × List Char) :=
  match s with
  | '?' :: '>' :: rest => .ok ([], rest)
  | c :: cs =>
      if isCharacter c then (scanInstructionBody cs).map fun (body, rest) => (c :: body, rest)
      else stopAt s
  | [] => stopAt s

/-- An instruction after its question mark: its target and what follows the target. The target
`xml` is the declaration of the document, and is not written in any other way. -/
def scanInstruction (s : List Char) : Except Stop ((List Char × List Char) × List Char) := do
  let (target, rest) ← scanName s
  let reserved := target.map Char.toLower == ['x', 'm', 'l'] && target != ['x', 'm', 'l']
  match rest with
  | '?' :: after =>
      if reserved then stopAt rest
      else return ((target, []), ← scanExact '>' after)
  | c :: _ =>
      if !isSpace c || reserved then stopAt rest
      else
        let (body, rest) ← scanInstructionBody rest
        return ((target, body), rest)
  | [] => stopAt rest

/-! Tags. -/

structure RawAttribute where
  name : List Char
  nameLeft : Nat
  value : List Char
  valueLeft : Nat
deriving DecidableEq, Repr

def scanValue (quote : Char) (s : List Char) : Except Stop (List Char × List Char) :=
  match s with
  | [] => stopAt s
  | c :: cs =>
      if c = quote then .ok ([], cs)
      else if c = '<' || !isCharacter c then stopAt s
      else do
        if c = '&' then let _ ← scanReference cs
        let (value, rest) ← scanValue quote cs
        return (c :: value, rest)

def scanAttribute (s : List Char) : Except Stop (RawAttribute × List Char) := do
  let (name, rest) ← scanName s
  let rest := skipSpace (← scanExact '=' (skipSpace rest))
  match rest with
  | quote :: inner =>
      if quote = '"' || quote = '\'' then
        let (value, rest) ← scanValue quote inner
        return (⟨name, s.length, value, rest.length + 1⟩, rest)
      else stopAt rest
  | [] => stopAt rest

def scanTagEnd (s : List Char) : Except Stop (Bool × List Char) :=
  match s with
  | '/' :: rest => (scanExact '>' rest).map (true, ·)
  | _ => (scanExact '>' s).map (false, ·)

def scanTagRestFrom : Nat → List Char → Except Stop ((List RawAttribute × Bool) × List Char)
  | 0, s => stopAt s
  | fuel + 1, s =>
      let inner := skipSpace s
      match inner with
      | [] => stopAt inner
      | c :: _ =>
          if isNameStart c && inner.length < s.length then do
            let (a, rest) ← scanAttribute inner
            let ((more, closed), rest) ← scanTagRestFrom fuel rest
            return ((a :: more, closed), rest)
          else (scanTagEnd inner).map fun (closed, rest) => (([], closed), rest)

def scanTagRest (s : List Char) : Except Stop ((List RawAttribute × Bool) × List Char) :=
  scanTagRestFrom (s.length + 1) s

def scanEndTag (s : List Char) : Except Stop (List Char × List Char) := do
  let (name, rest) ← scanName s
  return (name, ← scanExact '>' (skipSpace rest))

end Harvest.Xml
