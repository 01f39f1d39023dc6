import Harvest.Catalog.Entry
import Harvest.Text.Fill
import Harvest.Text.Line

/-!
The written form of entries.
-/

namespace Harvest.Catalog

open Text

inductive RenderFault where
  | width (n : Int)
  | noText
deriving DecidableEq, Repr

def RenderFault.message? : RenderFault → Option String
  | .width n => some s!"invalid width {n} (must be > 0)"
  | .noText => none

def escapeChar (c : Char) : List Char :=
  if c = '\\' then ['\\', '\\']
  else if c = '\t' then ['\\', 't']
  else if c = '\r' then ['\\', 'r']
  else if c = '\n' then ['\\', 'n']
  else if c = '"' then ['\\', '"']
  else [c]

def escape (s : List Char) : List Char := s.flatMap escapeChar

def escaped? (c : Char) : Option Char :=
  if c = '\\' then some '\\'
  else if c = 'n' then some '\n'
  else if c = 't' then some '\t'
  else if c = 'r' then some '\r'
  else if c = '"' then some '"'
  else none

def unescape : List Char → List Char
  | '\\' :: c :: cs =>
      match escaped? c with
      | some x => x :: unescape cs
      | none => '\\' :: unescape (c :: cs)
  | c :: cs => c :: unescape cs
  | [] => []

def commentLines (width : Int) (lead : String) (comment : String) : List String :=
  if comment.isEmpty then []
  else
    (comment.toList.splitOn '\n').flatMap fun line =>
      if (line.length + lead.length : Int) > width && width > 0 then
        let f : Filling := { width, first := lead.toList, other := lead.toList }
        (f.lines line).map String.ofList
      else [lead ++ String.ofList line]

def Occurrence.render (o : Occurrence) : String :=
  if o.line.isEmpty then o.file else o.file ++ ":" ++ o.line

/-- The lines of occurrences. Where lines are filled, hyphens and asterisks change places for a
while, because a line must not end after a hyphen; at the end both are hyphens. -/
def occurrenceLines (width : Int) (occurrences : List Occurrence) : List String :=
  if occurrences.isEmpty then []
  else
    let text := " ".intercalate (occurrences.map Occurrence.render)
    if (text.length + 3 : Int) > width && width > 0 then
      let f : Filling := { width, first := "#: ".toList, other := "#: ".toList }
      (f.lines (mapClass (· == '-') '*' text.toList)).map fun line =>
        String.ofList (mapClass (· == '*') '-' line)
    else ["#: " ++ text]

def fieldParts (width : Int) (label : String) (value : List Char) :
    Except RenderFault (List (List Char)) :=
  match fullLines value with
  | first :: second :: rest => .ok ([] :: first :: second :: rest)
  | _ =>
      let escapes := (escape value).length - value.length
      if width > 0 && (value.length : Int) > width - (label.length + 3 : Int) + escapes then
        if width ≤ 2 then .error (.width (width - 2))
        else
          let f : Filling := { width := width - 2, trimmed := false }
          .ok ([] :: (f.lines (escape value)).map unescape)
      else .ok [value]

def fieldLines (width : Int) (lead label : String) (value : String) :
    Except RenderFault (List String) := do
  let quoted := fun part => "\"" ++ String.ofList (escape part) ++ "\""
  match ← fieldParts width label value.toList with
  | [] => return []
  | part :: rest =>
      return (lead ++ label ++ " " ++ quoted part) :: rest.map fun part => lead ++ quoted part

def Entry.sortedForms (e : Entry) : List (Int × String) := e.forms.mergeSort fun a b => a.1 ≤ b.1

def translationLines (width : Int) (lead : String) (e : Entry) : Except RenderFault (List String) :=
  if e.forms.isEmpty then fieldLines width lead "msgstr" e.translation
  else do
    let lines ← e.sortedForms.mapM fun (i, form) => fieldLines width lead s!"msgstr[{i}]" form
    return lines.flatten

def entryFieldLines (width : Int) (e : Entry) : Except RenderFault (List String) := do
  let lead := if e.obsolete then "#~ " else ""
  let context ←
    match e.context with
    | some context => fieldLines width lead "msgctxt" context
    | none => pure []
  let text ←
    match e.text with
    | some text => fieldLines width lead "msgid" text
    | none => throw .noText
  let plural ←
    if e.plural.isEmpty then pure [] else fieldLines width lead "msgid_plural" e.plural
  return context ++ text ++ plural ++ (← translationLines width lead e)

def entryLines (width : Int) (e : Entry) : Except RenderFault (List String) := do
  let comments := if e.obsolete then [] else commentLines width "#. " e.comment
  let translatorComments := commentLines width "# " e.translatorComment
  let occurrences := if e.obsolete then [] else occurrenceLines width e.occurrences
  let flags := if e.flags.isEmpty then [] else ["#, " ++ ", ".intercalate e.flags]
  return comments ++ translatorComments ++ occurrences ++ flags ++ (← entryFieldLines width e)

def Entry.render (width : Int) (e : Entry) : Except RenderFault String := do
  return String.join ((← entryLines width e).map (· ++ "\n"))

end Harvest.Catalog
