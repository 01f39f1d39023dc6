import Harvest.Call
import Harvest.Failure
import Harvest.Message
import Harvest.Message.Format
import Harvest.Message.Remark
import Harvest.Options

/-!
Reading the marked calls of a source. A reader takes one token after the other; where it stands
between tokens is its phase, and the messages found so far are part of it.
-/

namespace Harvest.Source

inductive Bracket where
  | round
  | square
  | curly
deriving DecidableEq, Repr

def Bracket.opening : Bracket → String
  | .round => "("
  | .square => "["
  | .curly => "\x7b"

def Bracket.closing : Bracket → String
  | .round => ")"
  | .square => "]"
  | .curly => "\x7d"

def Bracket.opened? (t : Token) : Option Bracket :=
  if t.isOperator "(" then some .round
  else if t.isOperator "\x7b" then some .curly
  else if t.isOperator "[" then some .square
  else none

/-- A marked call as far as it has been read. A call without a keyword makes a translation string.
`argumentName` waits for the argument that it names. -/
structure OpenCall where
  keyword : Option Keyword
  row : Nat
  arguments : List Argument := []
  argumentName : Option String := none
  inArgument : Bool := false
  inString : Bool := false
deriving Repr

def OpenCall.add (c : OpenCall) (value : ArgumentValue) (row : Nat) : OpenCall :=
  { c with arguments := c.arguments ++ [⟨c.argumentName, value, row⟩], argumentName := none }

inductive Phase where
  | idle
  /-- After `def`, whose name is no call. -/
  | definition
  | keyword (keyword : Option Keyword) (row : Nat)
  | call (call : OpenCall)
  /-- After a name in a call; what it is depends on the next token. -/
  | name (call : OpenCall) (name : String) (row : Nat)
  /-- Inside an argument in brackets, which started on `row`. -/
  | group (call : OpenCall) (bracket : Bracket) (depth : Nat) (row : Nat)
deriving Repr

structure Pending where
  row : Nat
  remark : Remark
deriving Repr

structure Reader where
  phase : Phase := .idle
  pending : Option Pending := none
  messages : List Message := []
  warnings : List String := []
deriving Repr

inductive ReadFault where
  | unexpected (what : String) (row : Nat)
  | failure (cause : Failure)
deriving Repr

structure Reading where
  options : Options
  keywords : KeywordTable
  file : String
  firstLine : Int

namespace Reader

def commentText? (policy : CommentPolicy) (comment : String) : Option String :=
  let text := Text.trim (comment.toList.drop 1)
  match policy with
  | .none => none
  | .all => some (String.ofList text)
  | .tagged tag =>
      (tag.toList.isPrefixOf? text).map fun rest => String.ofList (Text.trim rest)

def joinComments (comment text : String) : String :=
  if comment.isEmpty then text else comment ++ "\n" ++ text

/-- Puts a remark to the message on the same line, or else keeps it for the next call. A remark
right below another goes on with it. -/
def remark (g : Reading) (r : Reader) (remark : Remark) (row : Nat) : Reader :=
  let keep : Reader :=
    match r.pending with
    | some p =>
        if p.row + 1 = row then
          { r with
            pending := some ⟨row,
              ⟨remark.flags ++ p.remark.flags, p.remark.text ++ " " ++ remark.text⟩⟩ }
        else { r with pending := some ⟨row, remark⟩ }
    | none => { r with pending := some ⟨row, remark⟩ }
  match r.messages.getLast? with
  | some last =>
      if last.location.line = g.firstLine + row then
        { r with
          messages := r.messages.dropLast ++
            [{ last with comment := joinComments last.comment remark.text }] }
      else keep
  | none => keep

def comment (g : Reading) (r : Reader) (t : Token) : Reader :=
  match commentText? g.options.comments t.text with
  | some text => r.remark g (Remark.ofComment text) t.row
  | none => r

def remarkFor (r : Reader) (row : Nat) : Option Remark :=
  match r.pending with
  | some p => if p.row + 1 ≥ row then some p.remark else none
  | none => none

def wantsDomain (options : Options) (domain : Option String) : Bool :=
  match options.domain, domain with
  | some wanted, some given => given.isEmpty || given == wanted
  | _, _ => true

def addMessage (g : Reading) (r : Reader) (call : OpenCall) (parts : MessageParts) :
    Except ReadFault Reader :=
  if !wantsDomain g.options parts.domain then .ok r
  else
    let remark := r.remarkFor call.row
    let comments := (if parts.comment.isEmpty then [] else [parts.comment]) ++
      (remark.map (·.text)).toList
    let flags := Catalog.distinct ((remark.map (·.flags)).getD [])
    match Message.withFormatFlags parts.text flags with
    | none => .error (.failure .noText)
    | some flags =>
        .ok { r with
          messages := r.messages ++ [{
            context := parts.context, text := parts.text, plural := parts.plural, flags
            comment := "\n".intercalate comments
            location := ⟨g.file, g.firstLine + call.row⟩ }] }

def closeCall (g : Reading) (r : Reader) (call : OpenCall) : Except ReadFault Reader :=
  let r := { r with phase := .idle }
  match call.keyword with
  | some keyword =>
      match keyword.pick call.arguments with
      | .ok parts => r.addMessage g call parts
      | .error fault =>
          .ok { r with warnings := r.warnings ++ (fault.warning? g.file g.firstLine).toList }
  | none =>
      match translationString call.arguments with
      | none => .error (.failure .onlyNamed)
      | some none => .ok r
      | some (some parts) => r.addMessage g call parts

def literalValue (text : String) : Except ReadFault ArgumentValue :=
  match evaluate text.toList with
  | .error fault => .error (.failure (.literal fault))
  | .ok (.constant (.text s)) => .ok (.text s)
  | .ok (.constant (.bytes _)) => .ok .bytes
  | .ok _ => .ok .other

def joinValues (a b : ArgumentValue) : Except ReadFault ArgumentValue :=
  match a, b with
  | .text s, .text t => .ok (.text (s ++ t))
  | .bytes, .bytes => .ok .bytes
  | _, _ => .error (.failure .mixedStrings)

def stringInCall (call : OpenCall) (t : Token) : Except ReadFault OpenCall := do
  let value ← literalValue t.text
  match call.inString, call.arguments.getLast? with
  | true, some last =>
      let value ← joinValues last.value value
      return { call with arguments := call.arguments.dropLast ++ [{ last with value }] }
  | _, _ => return { call.add value t.row with inArgument := true, inString := true }

def inCall (g : Reading) (r : Reader) (call : OpenCall) (t : Token) : Except ReadFault Reader :=
  let unexpected := .error (.unexpected ("Unexpected token: " ++ t.text) t.row)
  let call := { call with inString := call.inString && t.kind == .string }
  match t.kind with
  | .operator =>
      if t.text = ")" then r.closeCall g call
      else if t.text = "," then
        if call.inArgument then .ok { r with phase := .call { call with inArgument := false } }
        else .error (.unexpected "Unexpected )" t.row)
      else if t.text = "." then .ok { r with phase := .call call }
      else
        match Bracket.opened? t with
        | some bracket =>
            .ok { r with phase := .group { call with inArgument := true } bracket 1 t.row }
        | none => unexpected
  | .string => do
      let call ← stringInCall call t
      return { r with phase := .call call }
  | .number => do
      if call.inArgument then throw (.unexpected ("Unexpected number: " ++ t.text) t.row)
      let value ← literalValue t.text
      return { r with phase := .call (call.add value t.row) }
  | .name => .ok { r with phase := .name { call with inArgument := true } t.text t.row }
  | _ => unexpected

/-- A token inside an argument in brackets. Only brackets of its own kind are counted. -/
def inGroup (r : Reader) (call : OpenCall) (bracket : Bracket) (depth row : Nat) (t : Token) :
    Except ReadFault Reader :=
  let at_ (depth : Nat) : Reader := { r with phase := .group call bracket depth row }
  if t.isOperator bracket.opening then .ok (at_ (depth + 1))
  else if t.isOperator bracket.closing then
    if depth ≤ 1 then .ok { r with phase := .call (call.add .other row) } else .ok (at_ (depth - 1))
  else
    match t.kind with
    | .finish => .error (.unexpected "Unexpected end of file" t.row)
    | .dedent => .error (.unexpected "Unexpected dedent" t.row)
    | _ => .ok r

def handle (g : Reading) (r : Reader) (t : Token) : Except ReadFault Reader :=
  match r.phase with
  | .idle =>
      if t.kind = .name && ((g.keywords.get? t.text).isSome || t.text = "_") then
        .ok { r with phase := .keyword (g.keywords.get? t.text) t.row }
      else if t.kind = .name && t.text = "def" then .ok { r with phase := .definition }
      else .ok r
  | .definition => .ok { r with phase := .idle }
  | .keyword keyword row =>
      if t.isOperator "(" then .ok { r with phase := .call { keyword, row } }
      else .ok { r with phase := .idle }
  | .call call => r.inCall g call t
  | .name call _ _ => r.inCall g call t
  | .group call bracket depth row => r.inGroup call bracket depth row t

/-- A token outside of arguments in brackets: comments are looked at, layout is passed over. -/
def dispatch (g : Reading) (r : Reader) (t : Token) : Except ReadFault Reader :=
  match t.kind with
  | .comment => .ok (r.comment g t)
  | .indent | .dedent | .newline | .breakOnly => .ok r
  | _ => r.handle g t

/-- The token after a name in a call. A comma or the closing bracket makes the name an argument, an
opening bracket makes it a call, and an equals sign makes it the name of an argument. -/
def afterName (g : Reading) (r : Reader) (call : OpenCall) (name : String) (row : Nat) (t : Token) :
    Except ReadFault Reader :=
  if t.isOperator "," || t.isOperator ")" then
    { r with phase := .call (call.add .other row) }.dispatch g t
  else if t.isOperator "(" then .ok { r with phase := .group call .round 1 row }
  else if t.isOperator "=" then
    if call.argumentName.isSome then .error (.unexpected ("Unexpected token: " ++ name) row)
    else .ok { r with phase := .call { call with argumentName := some name } }
  else { r with phase := .call call }.dispatch g t

def step (g : Reading) (r : Reader) (t : Token) : Except ReadFault Reader :=
  match r.phase with
  | .name call name row => r.afterName g call name row t
  | .group call bracket depth row => r.inGroup call bracket depth row t
  | _ => r.dispatch g t

def run (g : Reading) : Reader → List Token → Reader × Option ReadFault
  | r, [] => (r, none)
  | r, t :: ts =>
      match r.step g t with
      | .ok r' => run g r' ts
      | .error fault => (r, some fault)

end Reader

end Harvest.Source
