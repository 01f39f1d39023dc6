import Harvest.Xml.Scan

/-!
The declaration at the start of a document: its version, its encoding, and whether it needs nothing
from outside. A fault is given by the number of characters of the declaration that are left.
-/

namespace Harvest.Xml

structure Entry where
  name : List Char
  nameLeft : Nat
  value : List Char
  valueLeft : Nat
deriving DecidableEq, Repr

def isEntryValue (c : Char) : Bool := c.isAlphanum || c == '.' || c == '-' || c == '_'

def entryQuote (s : List Char) : Except Nat (Char × List Char) :=
  match skipSpace s with
  | '=' :: rest =>
      match skipSpace rest with
      | c :: inner =>
          if c = '"' || c = '\'' then .ok (c, inner) else .error (inner.length + 1)
      | [] => .error 0
  | other => .error other.length

def nextEntry (s : List Char) : Except Nat (Option (Entry × List Char)) :=
  let start := skipSpace s
  match s, start with
  | [], _ => .ok none
  | _, [] => .ok none
  | _, _ => do
      if start.length = s.length then throw s.length
      let ends := fun (c : Char) => c == '=' || isSpace c || c.toNat ≥ 0x80
      let name := start.takeWhile (!ends ·)
      let rest := start.dropWhile (!ends ·)
      match rest with
      | [] => throw 0
      | c :: _ =>
          if c.toNat ≥ 0x80 then throw rest.length
          let (quote, inner) ← entryQuote rest
          if name.isEmpty then throw rest.length
          let value := inner.takeWhile isEntryValue
          match inner.dropWhile isEntryValue with
          | [] => throw 0
          | stop :: after =>
              if stop = quote then return some (⟨name, start.length, value, inner.length⟩, after)
              else throw (after.length + 1)

structure Declaration where
  encoding : Option (String × Nat) := none
  standalone : Bool := false
deriving DecidableEq, Repr

def standaloneEntry (d : Declaration) (e : Entry) (rest : List Char) : Except Nat Declaration := do
  if e.name != "standalone".toList then throw e.nameLeft
  let standalone ←
    if e.value = "yes".toList then pure true
    else if e.value = "no".toList then pure false
    else throw e.valueLeft
  let rest := skipSpace rest
  if rest.isEmpty then return { d with standalone } else throw rest.length

def laterEntries (s : List Char) : Except Nat Declaration := do
  match ← nextEntry s with
  | none => return {}
  | some (e, rest) =>
      if e.name = "encoding".toList then
        if !((e.value.head?.map Char.isAlpha).getD false) then throw e.valueLeft
        let d : Declaration := { encoding := some (String.ofList e.value, e.valueLeft) }
        match ← nextEntry rest with
        | none => return d
        | some (e, rest) => standaloneEntry d e rest
      else standaloneEntry {} e rest

def Declaration.parse (s : List Char) : Except Nat Declaration := do
  match ← nextEntry s with
  | none => throw (skipSpace s).length
  | some (e, rest) => if e.name = "version".toList then laterEntries rest else throw e.nameLeft

end Harvest.Xml
