import Harvest.Assoc
import Harvest.Catalog.Render
import Harvest.Moment

/-!
Catalogs: the entries for the messages of a package, and what is said about the whole.
-/

namespace Harvest

namespace Catalog

structure Header where
  holder : Option String := none
  package : Option String := some "PACKAGE"
  version : Option String := some "1.0"
  bugsAddress : Option String := none
  created : Moment
deriving DecidableEq, Repr, Inhabited

end Catalog

structure Catalog where
  header : Catalog.Header
  width : Int := 79
  entries : List Catalog.Entry := []
deriving DecidableEq, Repr, Inhabited

namespace Catalog

/-! Entries. -/

def live (entries : List Entry) : List Entry := entries.filter (!·.obsolete)

/-- The position of the entry for a text, if it is clear. Of several without a context the last one
is taken; of several in one context, none. -/
def position? (entries : List Entry) (key : Key) : Option Nat :=
  let matching := fun (e : Entry) => !e.obsolete && e.key == key
  let first := entries.findIdx? matching
  let last := entries.length - 1 - (entries.reverse.findIdx? matching).getD 0
  match first with
  | none => none
  | some i => if i = last then some i else if (key.2.getD "").isEmpty then some last else none

def addMessage (located : Bool) (entries : List Entry) (m : Message) : List Entry :=
  match position? entries (m.text, m.context) with
  | some i => entries.modify i (·.update m located)
  | none => entries ++ [(Entry.ofMessage m).update m located]

def addMessages (located : Bool) (entries : List Entry) (ms : List Message) : List Entry :=
  ms.foldl (addMessage located) entries

/-! Comparison. -/

/-- The last entry in use for each text, in the order in which the texts first appear. -/
def summaryOf {α : Type} (entry : α → Entry) (items : List α) : List (Key × α) :=
  (items.filter fun a => !(entry a).obsolete).foldl
    (fun found a => Assoc.bind (entry a).key a found) []

def summary (entries : List Entry) : List (Key × Entry) := summaryOf id entries

def compareSummaries (b : List (Key × Entry)) : List (Key × Entry) → Comparison
  | [] => .same
  | (key, e) :: rest =>
      match b.lookup key with
      | none => .different
      | some other =>
          match e.compare other with
          | .same => compareSummaries b rest
          | outcome => outcome

def compareEntries (a b : List Entry) : Comparison :=
  let a := summary a
  let b := summary b
  if a.length = b.length then compareSummaries b a else .different

/-! The written form. -/

def Header.titleLines (h : Header) : List String :=
  let year := toString h.created.year
  let holder := (h.holder.filter (!·.isEmpty)).map fun holder => s!"Copyright (C) {year} {holder}"
  ["SOME DESCRIPTIVE TITLE"] ++ holder.toList ++
    ["This file is distributed under the same license as the " ++ h.package.getD "None" ++
        " package.",
      s!"FIRST AUTHOR <EMAIL@ADDRESS>, {year}."]

def Header.project (h : Header) : String :=
  " ".intercalate (([h.package, h.version].filterMap id).filter (!·.isEmpty))

def Header.fields (h : Header) : List (String × String) :=
  [("Project-Id-Version", h.project)] ++
    ((h.bugsAddress.filter (!·.isEmpty)).map (("Report-Msgid-Bugs-To", ·))).toList ++
    [("POT-Creation-Date", h.created.stamp), ("PO-Revision-Date", "YEAR-MO-DA HO:MI+ZONE"),
      ("Last-Translator", "FULL NAME <EMAIL@ADDRESS>"), ("Language-Team", "LANGUAGE <LL@li.org>"),
      ("Language", ""), ("MIME-Version", "1.0"), ("Content-Type", "text/plain; charset=UTF-8"),
      ("Content-Transfer-Encoding", "8bit"), ("Generated-By", "Lingua 4.14.0")]

def Header.entry (h : Header) : Entry :=
  { text := some ""
    translation := String.join (h.fields.map fun (name, value) => name ++ ": " ++ value ++ "\n")
    flags := ["fuzzy"]
    translatorComments := ["\n".intercalate h.titleLines] }

def render (c : Catalog) : Except RenderFault String := do
  let entries := c.header.entry :: live c.entries ++ c.entries.filter (·.obsolete)
  return "#\n" ++ "\n".intercalate (← entries.mapM (Entry.render c.width))

def stripLines (c : Catalog) : Catalog := { c with entries := c.entries.map Entry.stripLines }

end Catalog

end Harvest
