import Harvest.Catalog.Entry
import Harvest.CommandLine
import Harvest.Files.Tree
import Harvest.Options
import Harvest.Text.Integer

/-!
The command line of the program that makes a catalog from sources.
-/

namespace Harvest.Create

open CommandLine (Fault Switch)

inductive Key where
  | settings
  | listFile
  | directory
  | listExtractors
  | output
  | location
  | noLocation
  | lineNumbers
  | noLineNumbers
  | width
  | sortByText
  | sortByPlace
  | domain
  | keyword
  | comments
  | holder
  | package
  | version
  | bugsAddress
  | help
deriving DecidableEq, Repr

def switches : List (Switch Key) :=
  [{ key := .settings, names := ["-c", "--config"], takesValue := true },
    { key := .listFile, names := ["-f", "--files-from"], takesValue := true },
    { key := .directory, names := ["-D", "--directory"], takesValue := true },
    { key := .listExtractors, names := ["--list-extractors"] },
    { key := .output, names := ["-o", "--output"], takesValue := true },
    { key := .location, names := ["--add-location"] },
    { key := .noLocation, names := ["--no-location"] },
    { key := .lineNumbers, names := ["--linenumbers"] },
    { key := .noLineNumbers, names := ["--no-linenumbers"] },
    { key := .width, names := ["-w", "--width"], takesValue := true },
    { key := .sortByText, names := ["-s", "--sort-output"] },
    { key := .sortByPlace, names := ["-F", "--sort-by-file"] },
    { key := .domain, names := ["-d", "--domain"], takesValue := true },
    { key := .keyword, names := ["-k", "--keyword"], takesValue := true },
    { key := .comments, names := ["-C", "--add-comments"], takesValue := true },
    { key := .holder, names := ["--copyright-holder"], takesValue := true },
    { key := .package, names := ["--package-name"], takesValue := true },
    { key := .version, names := ["--package-version"], takesValue := true },
    { key := .bugsAddress, names := ["--msgid-bugs-address"], takesValue := true },
    { key := .help, names := ["--help"] }]

def Key.text (key : Key) : String :=
  CommandLine.parameterText (((switches.find? (·.key == key)).map (·.names)).getD [])

inductive Order where
  | text
  | place
deriving DecidableEq, Repr, Inhabited

structure TextFile where
  name : String
  content : List UInt8
deriving DecidableEq, Repr, Inhabited

structure Arguments where
  settings : Option TextFile := none
  listFile : Option TextFile := none
  directories : List String := []
  sources : List String := []
  listExtractors : Bool := false
  output : String := "messages.pot"
  located : Bool := true
  lineNumbers : Bool := true
  width : Int := 79
  order : Option Order := none
  options : Options := { comments := .all }
  holder : Option String := none
  package : String := "PACKAGE"
  version : String := "1.0"
  bugsAddress : Option String := none
deriving DecidableEq, Repr, Inhabited

structure Surroundings where
  tree : Files.Directory := .nil
  input : List UInt8 := []
deriving DecidableEq, Repr, Inhabited

def openFile (s : Surroundings) (key : Key) (name : String) : Except Fault TextFile :=
  let fault := fun reason => .error (.badValue key.text s!"'{name}': {reason}")
  if name = "-" then .ok ⟨"<stdin>", s.input⟩
  else
    match s.tree.lookup name with
    | .ok (.file content) => .ok ⟨name, content⟩
    | .ok (.directory _) => fault "Is a directory"
    | .error .missing => fault "No such file or directory"
    | .error .notDirectory => fault "Not a directory"

def checkDirectories (s : Surroundings) : List String → Except Fault Unit
  | [] => .ok ()
  | name :: names =>
      let fault := fun problem =>
        .error (.badValue Key.directory.text s!"Directory {Text.quoted name} {problem}")
      match s.tree.lookup name with
      | .ok (.directory _) => checkDirectories s names
      | .ok (.file _) => fault "is a file."
      | .error _ => fault "does not exist."

def checkOutput (s : Surroundings) (name : String) : Except Fault Unit :=
  match s.tree.lookup name with
  | .ok (.directory _) =>
      .error (.badValue Key.output.text s!"File {Text.quoted name} is a directory.")
  | _ => .ok ()

def checkPaths (tree : Files.Directory) (parameter : String) : List String → Except Fault Unit
  | [] => .ok ()
  | path :: paths =>
      match tree.lookup path with
      | .ok _ => checkPaths tree parameter paths
      | .error _ => .error (.badValue parameter s!"Path {Text.quoted path} does not exist.")

def readWidth (text : String) : Except Fault Int :=
  match Text.integer? text with
  | .ok n => .ok n
  | .error _ =>
      .error (.badValue Key.width.text s!"{Text.quoted text} is not a valid integer.")

def lastValue (given : List (Key × String)) (key : Key) : String :=
  ((given.reverse.find? (·.1 == key)).map (·.2)).getD ""

def allValues (given : List (Key × String)) (key : Key) : List String :=
  (given.filter (·.1 == key)).map (·.2)

def Arguments.take (s : Surroundings) (given : List (Key × String)) (a : Arguments) (key : Key) :
    Except Fault Arguments := do
  let value := lastValue given key
  match key with
  | .settings => return { a with settings := some (← openFile s key value) }
  | .listFile => return { a with listFile := some (← openFile s key value) }
  | .directory =>
      let directories := allValues given key
      checkDirectories s directories
      return { a with directories }
  | .output =>
      checkOutput s value
      return { a with output := value }
  | .width => return { a with width := ← readWidth value }
  | .domain => return { a with options := { a.options with domain := some value } }
  | .keyword => return { a with options := { a.options with keywords := allValues given key } }
  | .comments => return { a with options := { a.options with comments := .tagged value } }
  | .holder => return { a with holder := some value }
  | .package => return { a with package := value }
  | .version => return { a with version := value }
  | .bugsAddress => return { a with bugsAddress := some value }
  | _ => return a

def lastOf (given : List (Key × String)) (one other : Key) : Option Key :=
  (given.reverse.find? fun g => g.1 == one || g.1 == other).map (·.1)

def Arguments.takeFlags (given : List (Key × String)) (a : Arguments) : Arguments :=
  { a with
    listExtractors := given.any (·.1 == .listExtractors)
    located := lastOf given .location .noLocation != some .noLocation
    lineNumbers := lastOf given .lineNumbers .noLineNumbers != some .noLineNumbers
    order :=
      match lastOf given .sortByText .sortByPlace with
      | some .sortByText => some .text
      | some .sortByPlace => some .place
      | _ => none }

def sourcesText : String := "'[SOURCES]...'"

/-- What a command line asks for. Options are checked in the order in which they were first given,
then the sources, and last the output if it was not given. -/
def Arguments.ofGiven (s : Surroundings) (g : CommandLine.Given Key) : Except Fault Arguments := do
  let a ← (Catalog.distinct (g.options.map (·.1))).foldlM (Arguments.take s g.options) {}
  checkPaths s.tree sourcesText g.arguments
  checkOutput s a.output
  return { a.takeFlags g.options with sources := g.arguments }

end Harvest.Create
