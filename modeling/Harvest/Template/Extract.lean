import Harvest.Template.Walk

/-!
Extracting the messages of a template.
-/

namespace Harvest.Template

def extract (options : Options) (file : String) (engine : String) (bytes : List UInt8) :
    Job (List Message) := do
  match Text.decodeUtf8 bytes with
  | .error fault => Job.abort s!"Aborting due to parse error in {file}: {fault.message}"
  | .ok s =>
      let nodes ← (liftM (Node.parse s) : Job (List Node))
      let g : Walker := { options, file, engine }
      let (outcome, walked) := (ExceptT.run (g.visitAll nodes)).run { session := ← get }
      set walked.session
      match outcome with
      | .ok () => return walked.messages
      | .error cause => throw cause

end Harvest.Template
