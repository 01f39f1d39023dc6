import Harvest.Template.Passage

/-!
Passages that refer to each other: each may have a passage around it and passages inside it, which
are known by their numbers. Texts are looked up when a message is asked for.
-/

namespace Harvest.Template

structure LinkedPassage where
  passage : Passage
  parent : Option Nat := none
  children : List (String × Nat) := []
deriving DecidableEq, Repr, Inhabited

abbrev PassageSet := List LinkedPassage

namespace PassageSet

def change (s : PassageSet) (i : Nat) (f : LinkedPassage → LinkedPassage) : PassageSet :=
  s.modify i f

def addText (s : PassageSet) (i : Nat) (text : List Char) : PassageSet :=
  s.change i fun l => { l with passage := l.passage.addText text }

def addElement (s : PassageSet) (i : Nat) (name : Option String) : PassageSet :=
  s.change i fun l => { l with passage := l.passage.addElement name }

def addChild (s : PassageSet) (i : Nat) (name : Option String) (child : Nat) : PassageSet :=
  match present? name with
  | some name => s.change i fun l => { l with children := bind name child l.children }
  | none => s

def setParent (s : PassageSet) (i parent : Nat) : PassageSet :=
  s.change i fun l => { l with parent := some parent }

def isIgnored (s : PassageSet) (i : Nat) : Bool := (s[i]?.map (·.passage.isIgnored)).getD true

def fullText (s : PassageSet) (i : Nat) : String := (s[i]?.map (·.passage.fullText)).getD ""

def message? (s : PassageSet) (i : Nat) : Option (Message × PassageSet) :=
  s[i]?.map fun l =>
    let parts := l.children.map fun (name, child) => (name, s.fullText child)
    let m := { l.passage with parts }.message (l.parent.map s.fullText)
    (m, s.change i fun l => { l with passage := { l.passage with id := l.passage.idAndText.1 } })

end PassageSet

end Harvest.Template
