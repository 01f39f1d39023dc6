import Harvest.Proofs.Template.Reading
import Harvest.Proofs.Text.Lines

/-!
# The code in a template

A template holds code in the lines of its texts and in the values of its attributes. The code in a
part of a template is told from its tree alone, with the place of each piece.
-/

namespace Harvest.Template

open Text

/-! ## Pieces of code -/

/-- A piece of code in a template, and where it is. -/
structure CodeSite where
  code : List Char
  /-- What is written before the text that holds the code, or up to the end of the name of the tag
  that does. -/
  before : List Char
  /-- What is written from there on, to the end of the line of the text or to the end of the tag. -/
  reach : List Char

def lineCodes (engine : String) (line : List Char) : List (List Char) :=
  ((decodeReferences line).toOption.map fun line =>
    (interpolations Source.verdict engine line).codes.filter Walker.hasMark).getD []

def valueCodes (engine : String) (name : QualifiedName) (value : String) : List (List Char) :=
  ((decodeReferences value.toList).toOption.map fun value =>
    (attributeCodes engine name value).codes).getD []

/-- The codes in lines of a text, of which `earlier` is written before them. -/
def textSites (engine : String) (before earlier : List Char) :
    List (List Char × List Char) → List CodeSite
  | [] => []
  | (line, stop) :: rest =>
      (lineCodes engine line).map (⟨·, before, earlier ++ line⟩) ++
        textSites engine before (earlier ++ line ++ stop) rest

def Tag.rest (tag : Tag) : List Char :=
  writtenAttributes tag.attributes ++ (tag.suffix.getD "").toList

def Tag.codeSites (engine : String) (before : List Char) (tag : Tag) : List CodeSite :=
  tag.qualified.flatMap fun entry =>
    (valueCodes engine entry.1 entry.2).map (⟨·, before ++ tag.lead, tag.rest⟩)

mutual

/-- The codes in a node inside the elements `path` and after the text `before`, in order. Texts are
looked at if their domain is asked for. -/
def Outset.codeSites (o : Outset) (engine : String) (path : List Element) (before : List Char) :
    Node → List CodeSite
  | .element start _ children =>
      start.codeSites engine before ++
        o.allCodeSites engine (⟨start, children⟩ :: path) (before ++ start.written) children
  | .startTag tag => tag.codeSites engine before
  | .text s => if o.asks path then textSites engine before [] (brokenLines s.toList) else []
  | .comment _ => []
  | .characterData _ => []
  | .instruction _ => []
  | .declaration _ => []
  | .unknown _ => []

def Outset.allCodeSites (o : Outset) (engine : String) (path : List Element) (before : List Char) :
    List Node → List CodeSite
  | [] => []
  | node :: rest =>
      o.codeSites engine path before node ++
        o.allCodeSites engine path (before ++ node.written) rest

end

/-! ## The places of codes -/

theorem prefix_of_mem_textSites {engine : String} {before earlier : List Char}
    {broken : List (List Char × List Char)} {site : CodeSite}
    (hsite : site ∈ textSites engine before earlier broken) :
    site.before ++ site.reach <+:
      before ++ (earlier ++ broken.flatMap fun line => line.1 ++ line.2) := by
  induction broken generalizing earlier with
  | nil => cases hsite
  | cons first rest ih =>
    rw [textSites] at hsite
    rw [List.flatMap_cons]
    rcases List.mem_append.mp hsite with hsite | hsite
    · obtain ⟨code, -, rfl⟩ := List.mem_map.mp hsite
      refine ⟨first.2 ++ rest.flatMap fun line => line.1 ++ line.2, ?_⟩
      simp only [List.append_assoc]
    · have h := ih hsite
      simpa only [List.append_assoc] using h

theorem prefix_of_mem_tagSites {engine : String} {before : List Char} {tag : Tag} {site : CodeSite}
    (hsite : site ∈ tag.codeSites engine before) :
    site.before ++ site.reach <+: before ++ tag.written := by
  obtain ⟨entry, -, hsite⟩ := List.mem_flatMap.mp hsite
  obtain ⟨code, -, rfl⟩ := List.mem_map.mp hsite
  refine ⟨[], ?_⟩
  simp only [Tag.written, Tag.rest, List.append_assoc, List.append_nil]

mutual

/-- What is said to be written up to a code is what the text starts with. -/
theorem Outset.prefix_of_mem_codeSites {o : Outset} {engine : String} {path : List Element}
    {before : List Char} {node : Node} {site : CodeSite}
    (hsite : site ∈ o.codeSites engine path before node) :
    site.before ++ site.reach <+: before ++ node.written := by
  match node with
  | .element start stop children =>
    rw [Outset.codeSites] at hsite
    rw [Node.written]
    rcases List.mem_append.mp hsite with hsite | hsite
    · refine (prefix_of_mem_tagSites hsite).trans ⟨Node.allWritten children ++
        (stop.map Tag.written).getD [], ?_⟩
      simp only [List.append_assoc]
    · refine (Outset.prefix_of_mem_allCodeSites hsite).trans ⟨(stop.map Tag.written).getD [], ?_⟩
      simp only [List.append_assoc]
  | .startTag tag =>
    rw [Outset.codeSites] at hsite
    exact prefix_of_mem_tagSites hsite
  | .text text =>
    rw [Outset.codeSites] at hsite
    split at hsite
    · have h := prefix_of_mem_textSites hsite
      rwa [flatMap_brokenLines] at h
    · cases hsite
  | .comment _ | .characterData _ | .instruction _ | .declaration _ | .unknown _ => cases hsite

theorem Outset.prefix_of_mem_allCodeSites {o : Outset} {engine : String} {path : List Element}
    {before : List Char} {nodes : List Node} {site : CodeSite}
    (hsite : site ∈ o.allCodeSites engine path before nodes) :
    site.before ++ site.reach <+: before ++ Node.allWritten nodes := by
  match nodes with
  | [] => cases hsite
  | node :: rest =>
    rw [Outset.allCodeSites] at hsite
    rw [Node.allWritten]
    rcases List.mem_append.mp hsite with hsite | hsite
    · refine (Outset.prefix_of_mem_codeSites hsite).trans ⟨Node.allWritten rest, ?_⟩
      simp only [List.append_assoc]
    · have h := Outset.prefix_of_mem_allCodeSites hsite
      rwa [List.append_assoc] at h

end

end Harvest.Template
