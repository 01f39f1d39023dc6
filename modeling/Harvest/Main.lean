import Harvest.Create.Run
import Harvest.Lint
import Std.Time.Format

/-!
The command line. The first word says what to do: `pot-create` makes a catalog, and `polint` checks
catalogs. Files are read when the other words name them, or the list that `-f` names; a list of the
files below a directory may be read from standard input, as `-f -`.
-/

namespace Harvest

def readContent? (path : String) : IO (Option (List UInt8)) := do
  try
    return some (← IO.FS.readBinFile path).toList
  catch _ => return none

def loadFiles (tree : Files.Directory) : List String → IO Files.Directory
  | [] => return tree
  | path :: paths => do
      match ← readContent? path with
      | some content => loadFiles (tree.write path content) paths
      | none => loadFiles tree paths

def readInput (words : List String) : IO (List UInt8) := do
  if words.contains "-" then return (← (← IO.getStdin).readToEnd).toUTF8.toList
  else return []

def listedFiles (tree : Files.Directory) (input : List UInt8) (words : List String) :
    List String :=
  match CommandLine.read Create.switches words with
  | .error _ => []
  | .ok given =>
      let list := Create.lastValue given.options .listFile
      let content := if list = "-" then input else (tree.content? list).getD []
      let lines := ((Text.decodeUtf8 content).toOption.map Text.unifyLineEnds).getD []
      let names := (Text.feedLines lines).filterMap Files.listedFile?
      names ++ (Create.allValues given.options .directory).flatMap fun directory =>
        names.map (Files.joinPath directory)

def presentMoment : IO Moment := do
  let time ← Std.Time.PlainDateTime.now
  let rules ← Std.Time.Database.defaultGetLocalZoneRules
  let zone := rules.timezoneAt (← Std.Time.Timestamp.now)
  let west := -zone.offset.second.val
  return { year := time.year, month := time.month.val.toNat, day := time.day.val.toNat
           hour := time.hour.val.toNat, minute := time.minute.val.toNat
           daylight := zone.isDST, zone := west, daylightZone := west }

def userSettings : IO (Option (String × Files.Node)) := do
  let name := Files.joinPath ((← IO.getEnv "HOME").getD "~") ".config/lingua"
  return (← readContent? name).map fun content => (name, .file content)

def finish (printed : Transcript) (failure : Option Failure) : IO UInt32 := do
  IO.print printed.out
  IO.eprint printed.err
  match failure with
  | none => return 0
  | some (.exit code) => return code.toUInt32
  | some failure =>
      IO.eprintln (failure.message?.getD (reprStr failure))
      return 1

def perform (change : Files.Change) : IO Unit := do
  let path := fun names => "/".intercalate names
  match change with
  | .create file => discard (IO.FS.Handle.mk (path file) .writeNew)
  | .fill file content => IO.FS.writeBinFile (path file) (ByteArray.mk content.toArray)
  | .move file target => IO.FS.rename (path file) (path target)

def randomName : IO String := do
  return s!"tmp{Text.hex 8 (← IO.rand 0 0xFFFFFFFF)}"

def runCreate (words : List String) : IO UInt32 := do
  let input ← readInput words
  let named ← loadFiles .nil ("messages.pot" :: words)
  let tree ← loadFiles named (listedFiles named input words)
  let env : Create.Environment :=
    { tree, input, now := ← presentMoment, home := ← userSettings
      naming := .preferring [← randomName] }
  let outcome := Create.runStandalone env "pot-create" words
  outcome.printed.changes.forM perform
  finish outcome.printed outcome.failure

def runLint (words : List String) : IO UInt32 := do
  let tree ← loadFiles .nil words
  let (outcome, session) := (ExceptT.run (Lint.command tree "polint" words)).run {}
  finish session.printed (match outcome with | .ok () => none | .error failure => some failure)

end Harvest

def main (words : List String) : IO UInt32 :=
  match words with
  | "polint" :: words => Harvest.runLint words
  | "pot-create" :: words => Harvest.runCreate words
  | words => Harvest.runCreate words
