import Harvest.Files.Tree
import Harvest.Text.Blank

/-!
Which files are looked at: those that are listed, those that are named, and those below a directory
that is named; and where a file is found.
-/

namespace Harvest.Files

/-- The files of a directory, without those in directories below it, that are wanted. -/
def levelFiles (wanted : String → Bool) (path : String) : Directory → List String
  | .nil => []
  | .file name _ rest =>
      if wanted name then joinPath path name :: levelFiles wanted path rest
      else levelFiles wanted path rest
  | .directory _ _ rest => levelFiles wanted path rest

/-- The wanted files in the directories below a directory, those of a directory before those further
down. -/
def deeperFiles (wanted : String → Bool) (path : String) : Directory → List String
  | .nil => []
  | .file _ _ rest => deeperFiles wanted path rest
  | .directory name inside rest =>
      let below := joinPath path name
      levelFiles wanted below inside ++ deeperFiles wanted below inside ++
        deeperFiles wanted path rest

def filesBelow (wanted : String → Bool) (path : String) (d : Directory) : List String :=
  levelFiles wanted path d ++ deeperFiles wanted path d

structure Listing where
  files : List String := []
  invalid : Option String := none
deriving DecidableEq, Repr, Inhabited

def Listing.after (files : List String) (l : Listing) : Listing :=
  { l with files := files ++ l.files }

def listSources (d : Directory) (wanted : String → Bool) : List String → Listing
  | [] => {}
  | source :: sources =>
      match d.lookup source with
      | .ok (.file _) => (listSources d wanted sources).after [source]
      | .ok (.directory inside) =>
          (listSources d wanted sources).after (filesBelow wanted source inside)
      | .error _ => { invalid := some source }

def listedFile? (line : List Char) : Option String :=
  if line.head? = some '#' || Text.allBlank line then none
  else some (String.ofList (Text.trimRight line))

def list (d : Directory) (wanted : String → Bool) (lines : List (List Char))
    (sources : List String) : Listing :=
  (listSources d wanted sources).after (lines.filterMap listedFile?)

/-- The worker of `find?`: each directory is put in front of the name that the one
before it gave. -/
def findFrom (d : Directory) (name : String) : List String → Option String
  | [] => none
  | directory :: directories =>
      let path := joinPath directory name
      if d.isFile path then some path else findFrom d path directories

def find? (d : Directory) (name : String) (directories : List String) : Option String :=
  findFrom d name ("." :: directories)

end Harvest.Files
