import Harvest.Text.Identifier
import Harvest.Text.Quoted

/-!
Classes as records of names: their attributes and their slots, and the class that is made of another
under a different metaclass.
-/

namespace Harvest

structure ClassRecord where
  name : String
  attributes : List String := []
  slots : Option (List String) := none
deriving DecidableEq, Repr, Inhabited

namespace ClassRecord

inductive Fault where
  | badSlot
  | repeatedSlot
  | slotIsAttribute (name : String)
  | noSuchName (name : String)
deriving DecidableEq, Repr

def Fault.message? : Fault → Option String
  | .badSlot => none
  | .repeatedSlot => none
  | .slotIsAttribute name =>
      some (Text.quoted name ++ " in __slots__ conflicts with class variable")
  | .noSuchName name => some (Text.quoted name)

def isSpecial (slot : String) : Bool := slot == "__dict__" || slot == "__weakref__"

def isIdentifier (s : String) : Bool :=
  match s.toList with
  | [] => false
  | c :: cs => Text.isIdentifierStart c && cs.all Text.isIdentifierTail

def isPrivate (name : String) : Bool := name.startsWith "__" && !name.endsWith "__"

/-- The name under which a class keeps a slot. A private name is put behind the name of the class,
unless that is made of underscores only. -/
def keptName (c : ClassRecord) (slot : String) : String :=
  let owner := c.name.toList.dropWhile (· == '_')
  if isPrivate slot && !owner.isEmpty then String.ofList ('_' :: owner) ++ slot else slot

def checkSlots (before : List String) : List String → Except Fault Unit
  | [] => .ok ()
  | slot :: slots =>
      if !isIdentifier slot then .error .badSlot
      else if isSpecial slot && before.contains slot then .error .repeatedSlot
      else checkSlots (slot :: before) slots

def slotNames (c : ClassRecord) : List String :=
  ((c.slots.getD []).filter (!isSpecial ·)).map c.keptName

def names (c : ClassRecord) : List String := c.attributes ++ c.slotNames

def check (c : ClassRecord) : Except Fault Unit := do
  checkSlots [] (c.slots.getD [])
  match c.slotNames.find? c.attributes.contains with
  | some name => .error (.slotIsAttribute name)
  | none => .ok ()

/-- Takes slots out of names, one after the other. A name that is there twice counts once. -/
def takeOut (names : List String) : List String → Except Fault (List String)
  | [] => .ok names
  | slot :: slots =>
      if names.contains slot then takeOut (names.filter (· != slot)) slots
      else .error (.noSuchName slot)

/-- The class that is made anew of the names of another. Its slots are taken out first, by the names
they were declared with, since they will be made again. -/
def remake (c : ClassRecord) : Except Fault ClassRecord := do
  c.check
  let attributes ← takeOut c.names (c.slots.getD [])
  let new := { c with attributes }
  new.check
  return new

def publicNames (c : ClassRecord) : List String :=
  ((c.names.eraseDups).filter (!·.startsWith "__")).mergeSort (· ≤ ·)

def isOpen (c : ClassRecord) : Bool := c.slots.isNone

end ClassRecord

end Harvest
