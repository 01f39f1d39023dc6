import Harvest.Message
import Harvest.Text.Blank
import Harvest.Text.Integer

/-!
Entries of a catalog: a text to be translated with all that is known about it, and its
translations.
-/

namespace Harvest.Catalog

structure Occurrence where
  file : String
  line : String
deriving DecidableEq, Repr, Inhabited

structure Entry where
  text : Option String
  context : Option String := none
  plural : String := ""
  translation : String := ""
  forms : List (Int × String) := []
  obsolete : Bool := false
  flags : List String := []
  comments : List String := []
  translatorComments : List String := []
  occurrences : List Occurrence := []
deriving DecidableEq, Repr, Inhabited

abbrev Key := Option String × Option String

namespace Entry

def key (e : Entry) : Key := (e.text, e.context)

def comment (e : Entry) : String := "\n".intercalate e.comments

def translatorComment (e : Entry) : String := "\n".intercalate e.translatorComments

end Entry

def addNew {α : Type} [BEq α] (xs : List α) (x : α) : List α :=
  if xs.contains x then xs else xs ++ [x]

def distinct {α : Type} [BEq α] (xs : List α) : List α := xs.foldl addNew []

def Occurrence.ofLocation (l : Location) : Occurrence := ⟨l.file, toString l.line⟩

namespace Entry

def ofMessage (m : Message) : Entry :=
  match m.plural with
  | some plural =>
      if plural.isEmpty then { text := m.text, context := m.context }
      else { text := m.text, context := m.context, plural, forms := [(0, ""), (1, "")] }
  | none => { text := m.text, context := m.context }

def update (e : Entry) (m : Message) (located : Bool) : Entry :=
  { e with
    occurrences :=
      if located then e.occurrences ++ [.ofLocation m.location] else e.occurrences
    flags := m.flags.foldl addNew e.flags
    comments := addNew e.comments m.comment
    translatorComments := addNew e.translatorComments m.translatorComment }

def stripLines (e : Entry) : Entry :=
  { e with occurrences := (distinct (e.occurrences.map (·.file))).map (⟨·, ""⟩) }

end Entry

/-! Comparison. -/

def Occurrence.le (a b : Occurrence) : Bool :=
  a.file < b.file || (a.file = b.file && a.line ≤ b.line)

def sortedOccurrences (e : Entry) : List Occurrence := e.occurrences.mergeSort Occurrence.le

def orZero (s : String) : String := if s.isEmpty then "0" else s

inductive Comparison where
  | same
  | different
  | impossible
deriving DecidableEq, Repr

/-- Compares all but flags and comments. Plural forms, and entries without a text, cannot be
compared; this shows if nothing before them differs. -/
def Entry.compareContent (a b : Entry) : Comparison :=
  if a.obsolete != b.obsolete then .different
  else if sortedOccurrences a != sortedOccurrences b then .different
  else if orZero (a.context.getD "") != orZero (b.context.getD "") then .different
  else if orZero a.plural != orZero b.plural then .different
  else if !a.forms.isEmpty || !b.forms.isEmpty then .impossible
  else
    match a.text, b.text with
    | some s, some t =>
        if s != t then .different
        else if a.translation != b.translation then .different
        else .same
    | _, _ => .impossible

def sameText (a b : String) : Bool := Text.collapse a.toList == Text.collapse b.toList

def Entry.compare (a b : Entry) : Comparison :=
  match a.compareContent b with
  | .same =>
      if sameText a.comment b.comment && sameText a.translatorComment b.translatorComment then
        .same
      else .different
  | other => other

/-! Order. -/

def Entry.places (e : Entry) : Except Text.IntegerFault (List (String × Int)) := do
  let places ← e.occurrences.mapM fun o => return (o.file, ← Text.integer? o.line)
  return places.mergeSort fun a b => a.1 < b.1 || (a.1 = b.1 && a.2 ≤ b.2)

def placesLe : List (String × Int) → List (String × Int) → Bool
  | [], _ => true
  | _ :: _, [] => false
  | a :: as, b :: bs =>
      if a = b then placesLe as bs else a.1 < b.1 || (a.1 = b.1 && a.2 < b.2)

def sortByPlace {α : Type} (entry : α → Entry) (items : List α) :
    Except Text.IntegerFault (List α) := do
  let keyed ← items.mapM fun a => return (← (entry a).places, a)
  return (keyed.mergeSort fun a b => placesLe a.1 b.1).map (·.2)

/-- Items in the order of their entries' texts; where texts are equal the order stays. Several
entries cannot be sorted if one of them has no text. -/
def sortByText? {α : Type} (entry : α → Entry) (items : List α) : Option (List α) :=
  if items.length > 1 && items.any fun a => (entry a).text.isNone then none
  else some (items.mergeSort fun a b => ((entry a).text.getD "") ≤ ((entry b).text.getD ""))

end Harvest.Catalog
