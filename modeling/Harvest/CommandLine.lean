import Harvest.Text.Basic
import Harvest.Text.Quoted
import Harvest.Text.Similar

/-!
Command lines: options with and without values, in long and short form, and arguments.
-/

namespace Harvest.CommandLine

structure Switch (κ : Type) where
  key : κ
  names : List String
  takesValue : Bool := false
deriving Repr

structure Given (κ : Type) where
  options : List (κ × String) := []
  arguments : List String := []
deriving DecidableEq, Repr

inductive Fault where
  | noSuchOption (name : String) (suggestions : List String)
  | needsValue (name : String)
  | takesNoValue (name : String)
  | badValue (parameter problem : String)
deriving DecidableEq, Repr

def suggestionText (suggestions : List String) : String :=
  match suggestions.mergeSort (· ≤ ·) with
  | [] => ""
  | [name] => s!" Did you mean {name}?"
  | names => " (Possible options: " ++ ", ".intercalate names ++ ")"

def Fault.message : Fault → String
  | .noSuchOption name suggestions => s!"No such option: {name}" ++ suggestionText suggestions
  | .needsValue name => s!"Option {Text.quoted name} requires an argument."
  | .takesNoValue name => s!"Option {Text.quoted name} does not take a value."
  | .badValue parameter problem => s!"Invalid value for {parameter}: {problem}"

def switch? {κ : Type} (switches : List (Switch κ)) (name : String) : Option (Switch κ) :=
  switches.find? (·.names.contains name)

def longNames {κ : Type} (switches : List (Switch κ)) : List String :=
  (switches.flatMap (·.names)).filter (·.startsWith "--")

structure Word (κ : Type) where
  options : List (κ × String) := []
  pending : Option (κ × String) := none
deriving Repr

def readLong {κ : Type} (switches : List (Switch κ)) (word : String) : Except Fault (Word κ) :=
  let (name, value) :=
    match Text.cut? '=' word.toList with
    | some (name, value) => (String.ofList name, some (String.ofList value))
    | none => (word, none)
  match switch? switches name, value with
  | none, _ => .error (.noSuchOption name (Text.closest name (longNames switches)))
  | some s, none =>
      if s.takesValue then .ok { pending := some (s.key, name) }
      else .ok { options := [(s.key, "")] }
  | some s, some value =>
      if s.takesValue then .ok { options := [(s.key, value)] } else .error (.takesNoValue name)

/-- The letters of a word in short form: each is an option, and what follows one with a value is the
value. -/
def readShort {κ : Type} (switches : List (Switch κ)) : List Char → Except Fault (Word κ)
  | [] => .ok {}
  | c :: cs =>
      let name := String.ofList ['-', c]
      match switch? switches name with
      | none => .error (.noSuchOption name [])
      | some s =>
          if s.takesValue then
            if cs.isEmpty then .ok { pending := some (s.key, name) }
            else .ok { options := [(s.key, String.ofList cs)] }
          else
            (readShort switches cs).map fun w => { w with options := (s.key, "") :: w.options }

def Given.addOptions {κ : Type} (options : List (κ × String)) (g : Given κ) : Given κ :=
  { g with options := options ++ g.options }

def Given.addArgument {κ : Type} (argument : String) (g : Given κ) : Given κ :=
  { g with arguments := argument :: g.arguments }

def readWord {κ : Type} (switches : List (Switch κ)) (word : String) : Except Fault (Word κ) :=
  if word.startsWith "--" then readLong switches word else readShort switches word.toList.tail

def isOption (word : String) : Bool := word.startsWith "-" && word != "-"

def read {κ : Type} (switches : List (Switch κ)) : List String → Except Fault (Given κ)
  | [] => .ok {}
  | word :: words =>
      if word = "--" then .ok { arguments := words }
      else if isOption word then
        match readWord switches word with
        | .error fault => .error fault
        | .ok { options, pending := none } => (read switches words).map (·.addOptions options)
        | .ok { options, pending := some (key, name) } =>
            match words with
            | [] => .error (.needsValue name)
            | value :: words =>
                (read switches words).map (·.addOptions (options ++ [(key, value)]))
      else (read switches words).map (·.addArgument word)

def parameterText (names : List String) : String :=
  " / ".intercalate (names.map fun name => "'" ++ name ++ "'")

end Harvest.CommandLine
