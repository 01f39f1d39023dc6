import Harvest.Call
import Harvest.Message
import Harvest.Message.Format
import Harvest.Options
import Harvest.Session
import Harvest.Settings.Basic
import Harvest.Text.Blank

/-!
Plugins: programs of others that find calls in files of a format of their own. What they find is
turned into messages.
-/

namespace Harvest

namespace Plugin

structure Request where
  keywords : List String
  tags : List String
  settings : Bindings
  content : List UInt8
deriving DecidableEq, Repr, Inhabited

structure Found where
  line : Int
  function : Option String
  arguments : List ArgumentValue
  comments : List String := []
deriving DecidableEq, Repr, Inhabited

inductive DomainChoice where
  | untold
  | told (domain : Option String)
deriving DecidableEq, Repr, Inhabited

structure Adapter where
  keywords : KeywordTable
  file : String
  firstLine : Int := 0
  domain : DomainChoice := .untold
deriving DecidableEq, Repr, Inhabited

structure Harvested where
  messages : List Message := []
  warnings : List String := []
  failure : Option Failure := none
deriving DecidableEq, Repr, Inhabited

def Harvested.cons (message : Message) (rest : Harvested) : Harvested :=
  { rest with messages := message :: rest.messages }

namespace Adapter

/-- The parts of the message of a call, or why there are none, with a warning. A function that is no
keyword has the message first. -/
def parts (g : Adapter) (found : Found) : Except (Failure × Option String) MessageParts :=
  match found.function.bind g.keywords.get? with
  | some keyword =>
      match keyword.pick (found.arguments.map fun value => ⟨none, value, found.line⟩) with
      | .ok parts => .ok parts
      | .error fault => .error (.unusableCall, fault.warning? g.file found.line)
  | none =>
      match found.arguments with
      | [] => .error (.noArguments, none)
      | value :: _ => .ok { text := value.text? }

def leavesOut (g : Adapter) (domain : Option String) : Option Bool :=
  match domain.filter (!·.isEmpty), g.domain with
  | none, _ => some false
  | some _, .untold => none
  | some domain, .told own => some ((own.filter (!·.isEmpty)).any (· != domain))

def message? (g : Adapter) (found : Found) (parts : MessageParts) : Option Message :=
  (Message.withFormatFlags parts.text []).map fun flags =>
    { context := parts.context, text := parts.text, plural := parts.plural, flags
      comment := " ".intercalate
        (found.comments ++ if parts.comment.isEmpty then [] else [parts.comment])
      location := ⟨g.file, g.firstLine + found.line⟩ }

def harvest (g : Adapter) : List Found → Harvested
  | [] => {}
  | found :: rest =>
      match g.parts found with
      | .error (failure, warning) => { warnings := warning.toList, failure := some failure }
      | .ok parts =>
          match g.leavesOut parts.domain with
          | none => { failure := some .untoldDomain }
          | some true => g.harvest rest
          | some false =>
              match g.message? found parts with
              | none => { failure := some .noText }
              | some message => (g.harvest rest).cons message

end Adapter

def tagsOf (settings : Bindings) : List String :=
  (Text.words ((settings.lookup "comment-tags").getD "").toList).map String.ofList

end Plugin

abbrev Plugin := Plugin.Request → List Plugin.Found

namespace Plugin

/-- Asks a plugin for the calls in a file. The keywords that the options name are known to the
plugin only. -/
def run (plugin : Plugin) (domain : DomainChoice) (settings : Bindings) (options : Options)
    (file : String) (firstLine : Int) (content : List UInt8) : Job (Request × Harvested) := do
  let (keywords, fault) := (← get).keywords.addSpecs options.keywords
  match fault with
  | some fault => Job.abort fault.message
  | none =>
      let request := { keywords := keywords.names, tags := tagsOf settings, settings, content }
      let g : Adapter := { keywords, file, firstLine, domain }
      let harvested := g.harvest (plugin request)
      harvested.warnings.forM Job.warn
      return (request, harvested)

def extract (plugin : Plugin) (settings : Bindings) (options : Options) (file : String)
    (content : List UInt8) : Job (List Message) := do
  let (_, harvested) ← plugin.run .untold settings options file 0 content
  match harvested.failure with
  | some failure => throw failure
  | none => return harvested.messages

end Plugin

end Harvest
