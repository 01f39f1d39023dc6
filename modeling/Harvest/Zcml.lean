import Harvest.Message
import Harvest.Options
import Harvest.Session
import Harvest.Xml.Document

/-!
Configurations in ZCML: the titles and descriptions of elements are messages. The domain of an
element is that of the nearest element around it, or itself, that names one; without a domain there
are no messages.
-/

namespace Harvest.Zcml

open Xml

structure State where
  domains : List String := []
  messages : List Message := []
deriving DecidableEq, Repr, Inhabited

def isMessageName (name : String) : Bool := name == "title" || name == "description"

def includes (options : Options) (domain : String) : Bool :=
  options.domain.isNone || options.domain == some domain

def enter (domains : List String) (attributes : List (String × String)) : List String :=
  match attributes.lookup "i18n_domain", domains with
  | some domain, _ => domain :: domains
  | none, [] => []
  | none, domain :: outer => domain :: domain :: outer

def elementMessages (file : String) (line : Nat) (attributes : List (String × String)) :
    List Message :=
  (attributes.filter (isMessageName ·.1)).map fun (_, value) =>
    { text := some value, location := ⟨file, line⟩ }

def State.step (options : Options) (file : String) (s : State) : Event → State
  | .start _ attributes line =>
      let domains := enter s.domains attributes
      match domains with
      | [] => s
      | domain :: _ =>
          { domains
            messages :=
              if includes options domain then s.messages ++ elementMessages file line attributes
              else s.messages }
  | .stop _ => { s with domains := s.domains.tail }

def State.run (options : Options) (file : String) (s : State) (events : List Event) : State :=
  events.foldl (State.step options file) s

def extract (options : Options) (file : String) (bytes : List UInt8) : Job (List Message) :=
  match Xml.read bytes with
  | .ok events => return (State.run options file {} events).messages
  | .error (.malformed fault place) =>
      Job.abort (s!"Aborting due to parse error in {file}: {fault.message}: " ++
        s!"line {place.line}, column {place.column}")
  | .error (.unknownEncoding name) => throw (.unknownEncoding name)
  | .error .multibyteEncoding => throw .multibyteEncoding

end Harvest.Zcml
