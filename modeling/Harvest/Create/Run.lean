import Harvest.Catalog.Read
import Harvest.Create.Arguments
import Harvest.Files.Search
import Harvest.Registry

/-!
Making a catalog: the messages of all files that are looked at become entries, and the catalog takes
the place of the one before it unless nothing has changed.
-/

namespace Harvest.Create

/-- What a run depends on besides its command line: the files, what is read from the terminal, the
time, the plugins, the settings of the user, with their name, and how temporary files are named. -/
structure Environment extends Surroundings where
  now : Moment
  home : Option (String × Files.Node) := none
  plugins : String → Plugin := fun _ _ => []
  naming : Files.Naming := .preferring []

def decode (content : List UInt8) : Job (List Char) :=
  match Text.decodeUtf8 content with
  | .ok s => return Text.unifyLineEnds s
  | .error fault => throw (.undecodable fault)

def readSettings (r : Registry) (source : String) (content : List UInt8) : Job Registry := do
  let configured := r.configure (← decode content)
  configured.report source
  return configured.registry

def setUp (env : Environment) (a : Arguments) : Job Registry :=
  match a.settings, env.home with
  | some file, _ => readSettings .builtin file.name file.content
  | none, some (name, .file content) => readSettings .builtin name content
  | none, some (_, .directory _) => throw .isDirectory
  | none, none => return .builtin

def listing (env : Environment) (a : Arguments) (r : Registry) : Job Files.Listing := do
  let lines ←
    match a.listFile with
    | some file => (do return Text.feedLines (← decode file.content) : Job (List (List Char)))
    | none => pure []
  return Files.list env.tree (r.extractorFor? · |>.isSome) lines a.sources

def fileMessages (env : Environment) (a : Arguments) (r : Registry) (file : String) :
    Job (List Message) := do
  match Files.find? env.tree file a.directories with
  | none => Job.abort s!"Can not find file {file}"
  | some path =>
      match r.extractorFor? path with
      | none => Job.abort s!"No extractor available for file {file}"
      | some e => e.extract env.plugins a.options path ((env.tree.content? path).getD [])

def messagesOf (env : Environment) (a : Arguments) (r : Registry) :
    List String → Job (List Message)
  | [] => return []
  | file :: files => do
      let messages ← fileMessages env a r file
      return messages ++ (← messagesOf env a r files)

def sorted (order : Option Order) (entries : List Catalog.Entry) : Job (List Catalog.Entry) :=
  match order with
  | none => return entries
  | some .text =>
      match Catalog.sortByText? id entries with
      | some entries => return entries
      | none => throw .unsortable
  | some .place =>
      match Catalog.sortByPlace id entries with
      | .ok entries => return entries
      | .error fault => throw (.badLine fault)

def catalogOf (env : Environment) (a : Arguments) : Job Catalog := do
  let r ← setUp env a
  let listing ← listing env a r
  let files := Catalog.distinct listing.files
  let messages ← messagesOf env a r files
  if let some source := listing.invalid then
    Job.abort s!"Invalid file type for {source}"
  if files.isEmpty then
    Job.abort "No files scanned, aborting"
  let entries := Catalog.addMessages a.located [] messages
  if entries.isEmpty then
    Job.warn "No translatable strings found, aborting"
    throw (.exit 2)
  let entries ← sorted a.order entries
  let catalog : Catalog :=
    { header :=
        { holder := a.holder, package := some a.package, version := some a.version
          bugsAddress := a.bugsAddress, created := env.now }
      width := a.width
      entries }
  return if a.lineNumbers then catalog else catalog.stripLines

def isCurrent (env : Environment) (output : String) (c : Catalog) : Job Bool :=
  match env.tree.content? output with
  | none => return false
  | some content =>
      match Catalog.load output content with
      | .error .incomparable => throw .incomparable
      | .error _ => return false
      | .ok old =>
          match Catalog.compareEntries c.entries old with
          | .same => return true
          | .different => return false
          | .impossible => throw .incomparable

/-- Makes a temporary file in a directory, and tells where. Steps upwards are taken before anything
is looked up. -/
def makeTemporary (env : Environment) (directory : String) : Job (List String) :=
  if directory.startsWith "/" then throw .missingFile
  else
    match env.tree.follow [] (Files.pathNames directory) with
    | .ok (.directory inside) => do
        let file := Files.pathNames directory ++ [env.naming.name inside]
        Job.change (.create file)
        return file
    | .error .missing => throw .missingFile
    | _ => throw .notDirectory

def moveTo (tree : Files.Directory) (file : List String) (path : String) : Job Unit :=
  let directory := Files.directoryName path
  if path.isEmpty then throw .missingFile
  else
    match tree.lookup (if directory.isEmpty then "." else directory) with
    | .ok (.directory _) =>
        match tree.lookup path with
        | .ok (.directory _) => throw .isDirectory
        | _ => Job.change (.move file (Files.pathNames path))
    | .error .missing => throw .missingFile
    | _ => throw .notDirectory

/-- Replaces the file of a catalog, and tells the text. The text goes to a temporary file, which
then takes the place of the old one; it is left over if that cannot be done. -/
def replace (env : Environment) (output : String) (c : Catalog) : Job String := do
  let file ← makeTemporary env (Files.directoryName output)
  match c.render with
  | .error fault => throw (.unwritable fault)
  | .ok text =>
      let content := Text.encodeUtf8 text.toList
      Job.change (.fill file content)
      moveTo (env.tree.changed [.create file, .fill file content]) file output
      return text

structure Delivery where
  path : String
  text : String
deriving DecidableEq, Repr, Inhabited

def deliver (env : Environment) (a : Arguments) : Job (Option Delivery) := do
  let catalog ← catalogOf env a
  if ← isCurrent env a.output catalog then
    Job.say s!"No changes found - not replacing {a.output}"
    return none
  else return some ⟨a.output, ← replace env a.output catalog⟩

def usage (program : String) : String := s!"Usage: {program} [OPTIONS] [SOURCES]..."

def command (env : Environment) (program : String) (words : List String) :
    Job (Option Delivery) := do
  match CommandLine.read switches words with
  | .error fault => throw (.usage fault)
  | .ok given =>
      if given.options.any (·.1 == .help) then
        Job.say (usage program)
        return none
      match Arguments.ofGiven env.toSurroundings given with
      | .error fault => throw (.usage fault)
      | .ok a =>
          if a.listExtractors then
            Registry.builtin.listing.forM Job.say
            return none
          deliver env a

structure Outcome where
  delivery : Option Delivery := none
  printed : Transcript
  failure : Option Failure := none
deriving DecidableEq, Repr

def run (env : Environment) (program : String) (words : List String) : Outcome :=
  match (ExceptT.run (command env program words)).run {} with
  | (.error failure, session) => { printed := session.printed, failure := some failure }
  | (.ok delivery, session) => { delivery, printed := session.printed }

def Outcome.tree (o : Outcome) (before : Files.Directory) : Files.Directory :=
  before.changed o.printed.changes

def usageText (program : String) (fault : CommandLine.Fault) : String :=
  s!"{usage program}\nTry '{program} --help' for help.\n\nError: {fault.message}\n"

def runStandalone (env : Environment) (program : String) (words : List String) : Outcome :=
  let outcome := run env program words
  match outcome.failure with
  | some (.usage fault) =>
      { outcome with
        printed := { outcome.printed with err := outcome.printed.err ++ usageText program fault }
        failure := some (.exit 2) }
  | _ => outcome

end Harvest.Create
