import Harvest.Catalog.Read
import Harvest.Create.Arguments
import Harvest.Session
import Harvest.Text.Fill

/-!
Checking catalogs: messages that are there more than once, and translations that several messages
share.
-/

namespace Harvest.Lint

open Catalog (Entry Key)

def counts {α : Type} [BEq α] (xs : List α) : List (α × Nat) :=
  (Catalog.distinct xs).map fun x => (x, xs.count x)

def repeated (entries : List Entry) : List (Key × Nat) :=
  (counts (entries.map Entry.key)).filter (·.2 != 1)

def usersOf (entries : List Entry) (translation : String) : List Key :=
  (entries.filter (·.translation == translation)).map Entry.key

/-- The translations with the texts that they are used for. An empty translation is none. -/
def users (entries : List Entry) : List (String × List Key) :=
  (Catalog.distinct ((entries.map (·.translation)).filter (!·.isEmpty))).map fun translation =>
    (translation, usersOf entries translation)

def shared (entries : List Entry) : List (String × List Key) :=
  (users entries).filter (·.2.length != 1)

def keyText (key : Key) : String :=
  let text := key.1.getD ""
  match key.2.filter (!·.isEmpty) with
  | some context => s!"[{context}] {text}"
  | none => text

def reportWidth : Int := 70

def filled (first : String) (s : String) : String :=
  let f : Text.Filling :=
    { width := reportWidth, first := first.toList, other := List.replicate 8 ' ', trimmed := true
      cutting := true }
  "\n".intercalate ((f.lines s.toList).map String.ofList)

def repeatedReport (leader : String) (key : Key) (count : Nat) : List String :=
  [s!"{leader}Message repeated {count} times:",
    filled (String.ofList (List.replicate 5 ' ')) (keyText key), ""]

def numbered (n : Nat) : List Key → List String
  | [] => []
  | key :: keys => filled (Text.padRight 8 (toString n)) (keyText key) :: numbered (n + 1) keys

def sharedReport (leader translation : String) (keys : List Key) : List String :=
  [s!"{leader}Translation:", filled (String.ofList (List.replicate 8 ' ')) translation,
    s!"Used for {keys.length} canonical texts:"] ++ numbered 1 keys ++ [""]

def report (leader : String) (entries : List Entry) : List String :=
  (repeated entries).flatMap (fun (key, count) => repeatedReport leader key count) ++
    (shared entries).flatMap fun (translation, keys) => sharedReport leader translation keys

/-- The entries that a path leads to. A path that leads to no file is itself taken for a catalog. -/
def entriesAt (tree : Files.Directory) (path : String) :
    Except Catalog.LoadFault (List Entry) :=
  match tree.content? path with
  | some content => Catalog.load path content
  | none => Catalog.readText path.toList

def check (tree : Files.Directory) (leader path : String) : Job Unit :=
  match entriesAt tree path with
  | .ok entries => (report leader entries).forM Job.say
  | .error (.malformed fault) => throw (.malformedCatalog fault)
  | .error .incomparable => throw .incomparable
  | .error .undecodable => do
      Job.say s!"Character encoding problems occured while parsing {path}"
      Job.say "Perhaps this is not a PO file?"

def checkAll (tree : Files.Directory) (paths : List String) : Job Unit :=
  paths.forM fun path =>
    check tree (if paths.length > 1 then s!"[{path}] " else "") path

def switches : List (CommandLine.Switch Unit) := [{ key := (), names := ["--help"] }]

def pathsText : String := "'PO-file'"

def usage (program : String) : String := s!"Usage: {program} [OPTIONS] PO-file"

def command (tree : Files.Directory) (program : String) (words : List String) : Job Unit := do
  match CommandLine.read switches words with
  | .error fault => throw (.usage fault)
  | .ok given =>
      if !given.options.isEmpty then Job.say (usage program)
      else
        match Create.checkPaths tree pathsText given.arguments with
        | .error fault => throw (.usage fault)
        | .ok () => checkAll tree given.arguments

end Harvest.Lint
