import Harvest.Settings.Basic
import Harvest.Text.Blank
import Harvest.Text.Line
import Harvest.Text.Lowercase

/-!
Reading settings. A line in brackets starts a section, a line with `=` or `:` is an option, and
lines that are indented more than an option continue its value. Lines that start with `#` or `;` are
comments.
-/

namespace Harvest.Settings

structure Draft where
  name : String
  lines : List (List Char)
deriving DecidableEq, Repr, Inhabited

/-- What has been read so far: the sections with their options, the section that is open, whether
its last option may be continued, the indentation of the line that is continued, and the lines that
were not understood. The last section and option and line comes last. -/
structure Reading where
  sections : List (String × List Draft) := []
  current : Option String := none
  continues : Bool := false
  indent : Nat := 0
  unreadable : List (Nat × List Char) := []
deriving DecidableEq, Repr, Inhabited

def defaultName : String := "DEFAULT"

def sectionName? : List Char → Option (List Char)
  | '[' :: rest =>
      let inside := (rest.reverse.dropWhile (· != ']')).tail.reverse
      if inside.isEmpty then none else some inside
  | _ => none

def isSeparator (c : Char) : Bool := c == '=' || c == ':'

def option? (line : List Char) : Option (List Char × List Char) :=
  match line.dropWhile (!isSeparator ·) with
  | [] => none
  | _ :: value =>
      some (Text.lower (Text.trimRight (line.takeWhile (!isSeparator ·))), Text.trim value)

def extendLast (line : List Char) : List Draft → List Draft
  | [] => []
  | [d] => [{ d with lines := line :: d.lines }]
  | d :: ds => d :: extendLast line ds

namespace Reading

def change (r : Reading) (f : List Draft → List Draft) : Reading :=
  { r with
    sections := r.sections.map fun (name, options) =>
      if r.current = some name then (name, f options) else (name, options) }

def extend (r : Reading) (line : List Char) : Reading := r.change (extendLast line)

def openSection (r : Reading) (number : Nat) (name : String) : Except Fault Reading :=
  let r := { r with current := some name, continues := false }
  if r.sections.any (·.1 == name) then
    if name = defaultName then .ok r else .error (.repeatedSection number name)
  else .ok { r with sections := r.sections ++ [(name, [])] }

def options (r : Reading) (place : String) : List Draft := (r.sections.lookup place).getD []

/-- Adds an option to the section that is open. An option without a name is remembered as not
understood, and is not continued. -/
def addOption (r : Reading) (number : Nat) (line : List Char) (place : String)
    (name value : List Char) : Except Fault Reading :=
  let key := String.ofList name
  if (r.options place).any (·.name == key) then .error (.repeatedOption number place key)
  else
    let r := r.change (· ++ [⟨key, [value]⟩])
    if name.isEmpty then
      .ok { r with continues := false, unreadable := r.unreadable ++ [(number, line)] }
    else .ok { r with continues := true }

def startLine (r : Reading) (number : Nat) (line body : List Char) : Except Fault Reading :=
  match sectionName? body, r.current with
  | some name, _ => r.openSection number (String.ofList name)
  | none, none => .error (.noSection number line)
  | none, some place =>
      match option? body with
      | some (name, value) => r.addOption number line place name value
      | none => .ok { r with unreadable := r.unreadable ++ [(number, line)] }

def step (r : Reading) (number : Nat) (line : List Char) : Except Fault Reading :=
  match Text.trim line with
  | [] => .ok (if r.continues then r.extend [] else r)
  | c :: body =>
      if c = '#' || c = ';' then .ok r
      else
        let indent := (line.takeWhile Text.isBlank).length
        if r.continues && r.indent < indent then .ok (r.extend (c :: body))
        else { r with indent }.startLine number line (c :: body)

def run (r : Reading) (number : Nat) : List (List Char) → Except Fault Reading
  | [] => .ok r
  | line :: rest =>
      match r.step number line with
      | .ok r => r.run (number + 1) rest
      | .error fault => .error fault

end Reading

def Draft.value (d : Draft) : String :=
  String.ofList (Text.trimRight (Text.join ['\n'] d.lines.reverse))

def bindingsOf (options : List Draft) : Bindings := options.map fun d => (d.name, d.value)

def Reading.settings (r : Reading) : Settings :=
  { defaults := bindingsOf (r.options defaultName)
    sections := (r.sections.filter (·.1 != defaultName)).map fun (name, options) =>
      (name, bindingsOf options) }

/-- Reads settings given as lines. Lines that are not understood are named all together, if nothing
else is wrong. -/
def readLines (lines : List (List Char)) : Except Fault Settings :=
  match ({} : Reading).run 1 lines with
  | .error fault => .error fault
  | .ok r => if r.unreadable.isEmpty then .ok r.settings else .error (.unreadable r.unreadable)

def read (s : List Char) : Except Fault Settings := readLines (Text.feedLines s)

end Harvest.Settings
