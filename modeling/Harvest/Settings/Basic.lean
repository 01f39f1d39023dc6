import Harvest.Text.Basic
import Harvest.Text.Quoted

/-!
Settings: options with values, in sections. Options of the section `DEFAULT` belong to every
section.
-/

namespace Harvest

abbrev Bindings := List (String × String)

def Bindings.assign (b : Bindings) (name value : String) : Bindings :=
  if b.any (·.1 == name) then b.map fun entry => if entry.1 == name then (name, value) else entry
  else b ++ [(name, value)]

def Bindings.assignAll (b new : Bindings) : Bindings :=
  new.foldl (fun b (name, value) => Bindings.assign b name value) b

structure Settings where
  defaults : Bindings := []
  sections : List (String × Bindings) := []
deriving DecidableEq, Repr, Inhabited

namespace Settings

inductive Fault where
  | noSection (line : Nat) (text : List Char)
  | repeatedSection (line : Nat) (name : String)
  | repeatedOption (line : Nat) (place name : String)
  | unreadable (lines : List (Nat × List Char))
  | noOption (place name : String)
  | unknownReference (place name reference value : String)
  | badReference (rest : List Char)
  | strayPercent (rest : List Char)
  | tooDeep (place name value : String)
deriving DecidableEq, Repr

def depthLimit : Nat := 10

def placeText (source : String) (line : Nat) : String :=
  s!"While reading from {Text.quoted source} [line {Text.padLeft 2 (toString line)}]: "

def Fault.message (source : String) : Fault → String
  | .noSection line text =>
      s!"File contains no section headers.\nfile: {Text.quoted source}, line: {line}\n" ++
        Text.quoted (String.ofList text)
  | .repeatedSection line name =>
      placeText source line ++ s!"section {Text.quoted name} already exists"
  | .repeatedOption line place name =>
      placeText source line ++
        s!"option {Text.quoted name} in section {Text.quoted place} already exists"
  | .unreadable lines =>
      "Source contains parsing errors: " ++ Text.quoted source ++
        String.join (lines.map fun (line, text) =>
          s!"\n\t[line {Text.padLeft 2 (toString line)}]: " ++ Text.quoted (String.ofList text))
  | .noOption place name => s!"No option {Text.quoted name} in section: {Text.quoted place}"
  | .unknownReference place name reference value =>
      s!"Bad value substitution: option {Text.quoted name} in section {Text.quoted place} " ++
        s!"contains an interpolation key {Text.quoted reference} which is not a valid option " ++
        s!"name. Raw value: {Text.quoted value}"
  | .badReference rest =>
      "bad interpolation variable reference " ++ Text.quoted (String.ofList rest)
  | .strayPercent rest =>
      "'%' must be followed by '%' or '(', found: " ++ Text.quoted (String.ofList rest)
  | .tooDeep place name value =>
      s!"Recursion limit exceeded in value substitution: option {Text.quoted name} in section " ++
        s!"{Text.quoted place} contains an interpolation key which cannot be substituted in " ++
        s!"{depthLimit} steps. Raw value: {Text.quoted value}"

end Settings

end Harvest
