import Harvest.Failure
import Harvest.Files.Change
import Harvest.Keyword

/-!
Sessions: what lives on from one extraction to the next. Keywords that are added stay, printed text
piles up, and files that were changed stay so, also when an extraction fails.
-/

namespace Harvest

/-- What can be seen of the work: answers, warnings and errors for the user, and changes
of files. -/
structure Transcript where
  out : String := ""
  err : String := ""
  changes : List Files.Change := []
deriving DecidableEq, Repr, Inhabited

structure Session where
  keywords : KeywordTable := .builtin
  printed : Transcript := {}
deriving DecidableEq, Repr, Inhabited

/-- Work in a session, which may fail; what was done to the session until then stays. -/
abbrev Job := ExceptT Failure (StateM Session)

namespace Job

def say (line : String) : Job Unit :=
  modify fun s => { s with printed := { s.printed with out := s.printed.out ++ line ++ "\n" } }

def warn (line : String) : Job Unit :=
  modify fun s => { s with printed := { s.printed with err := s.printed.err ++ line ++ "\n" } }

def change (c : Files.Change) : Job Unit :=
  modify fun s => { s with printed := { s.printed with changes := s.printed.changes ++ [c] } }

def abort {α : Type} (line : String) : Job α := do
  warn line
  throw (.exit 1)

/-- Adds keywords. One that cannot be read ends the program; those before it stay. -/
def addKeywords (specs : List String) : Job Unit := do
  let (table, fault) := (← get).keywords.addSpecs specs
  modify fun s => { s with keywords := table }
  match fault with
  | some fault => abort fault.message
  | none => pure ()

end Job

end Harvest
