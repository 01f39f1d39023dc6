import Harvest.Keyword

/-!
Calls that mark messages: their arguments, and the parts of the message among them.
-/

namespace Harvest

inductive ArgumentValue where
  | text (value : String)
  | bytes
  | other
deriving DecidableEq, Repr, Inhabited

structure Argument where
  name : Option String := none
  value : ArgumentValue
  row : Int
deriving DecidableEq, Repr, Inhabited

def ArgumentValue.text? : ArgumentValue → Option String
  | .text s => some s
  | _ => none

structure MessageParts where
  domain : Option String := none
  context : Option String := none
  text : Option String
  plural : Option String := none
  comment : String := ""
deriving DecidableEq, Repr, Inhabited

inductive Part where
  | domain
  | text
  | plural
  | context
deriving DecidableEq, Repr

def Part.complaint : Part → String
  | .domain => "Domain argument must be a string"
  | .text => "Message argument must be a string"
  | .plural => "Plural message argument must be a string"
  | .context => "Context argument must be a string"

inductive PickFault where
  | wrongCount
  | absent
  | notText (part : Part) (row : Int)
deriving DecidableEq, Repr

/-- The argument at a place, counted from 1, or from the end if the number is below zero; the last
but one has the number -1. -/
def argumentAt? (args : List Argument) (place : Int) : Option Argument :=
  let index := place - 1
  let index := if index < 0 then index + args.length else index
  if index < 0 then none else args[index.toNat]?

/-- The text of a part. A part without a place, or with place 0, is not there. -/
def partText (args : List Argument) (part : Part) (place : Option Int) :
    Except PickFault (Option String) :=
  match place with
  | none => .ok none
  | some place =>
      if place = 0 then .ok none
      else
        match argumentAt? args place with
        | none => .error .absent
        | some arg =>
            match arg.value with
            | .text s => .ok (some s)
            | _ => .error (.notText part arg.row)

def Keyword.pick (k : Keyword) (args : List Argument) : Except PickFault MessageParts :=
  if (k.required.map fun n => n != 0 && n != (args.length : Int)).getD false then
    .error .wrongCount
  else do
    let domain ← partText args .domain k.domain
    let text ← partText args .text (some k.text)
    let plural ← partText args .plural k.plural
    let context ← partText args .context k.context
    return { domain, context, text, plural, comment := k.comment }

/-- The warning that goes with a fault, if any; rows are counted from `firstLine`. -/
def PickFault.warning? (file : String) (firstLine : Int) : PickFault → Option String
  | .notText part row => some s!"{file}[{firstLine + row}]: {part.complaint}"
  | _ => none

def namedText? (args : List Argument) (name : String) : Option String :=
  (args.reverse.find? (·.name == some name)).bind (·.value.text?)

/-- The parts of a message in a call that makes a translation string: the message comes first, and
its default text third, unless they are given by name. `none` if all arguments have names; a message
that is missing or empty gives no parts. -/
def translationString (args : List Argument) : Option (Option MessageParts) :=
  if args.isEmpty then some none
  else
    match args.filter (·.name.isNone) with
    | [] => none
    | first :: more =>
        let text := (namedText? args "msgid").or first.value.text?
        let positional := (more[1]?).bind (·.value.text?)
        let default := ((namedText? args "default").or positional).getD ""
        match text with
        | none => some none
        | some text =>
            if text.isEmpty then some none
            else
              some (some {
                context := namedText? args "context", text := some text
                comment := if default.isEmpty then "" else "Default: " ++ default })

end Harvest
