import Harvest.Files.Path

/-!
File trees: the files and directories below a working directory, and what a path leads to.
-/

namespace Harvest.Files

/-- The entries of a directory, in the order of their names. -/
inductive Directory where
  | nil
  | file (name : String) (content : List UInt8) (rest : Directory)
  | directory (name : String) (inside : Directory) (rest : Directory)
deriving DecidableEq, Repr, Inhabited

inductive Node where
  | file (content : List UInt8)
  | directory (inside : Directory)
deriving DecidableEq, Repr, Inhabited

inductive PathFault where
  | missing
  | notDirectory
deriving DecidableEq, Repr

def Node.entry (node : Node) (name : String) (rest : Directory) : Directory :=
  match node with
  | .file content => .file name content rest
  | .directory inside => .directory name inside rest

namespace Directory

def get? (name : String) : Directory → Option Node
  | .nil => none
  | .file other content rest => if other = name then some (.file content) else rest.get? name
  | .directory other inside rest =>
      if other = name then some (.directory inside) else rest.get? name

def set (name : String) (node : Node) : Directory → Directory
  | .nil => node.entry name .nil
  | .file other content rest =>
      if name < other then node.entry name (.file other content rest)
      else if name = other then node.entry name rest
      else .file other content (rest.set name node)
  | .directory other inside rest =>
      if name < other then node.entry name (.directory other inside rest)
      else if name = other then node.entry name rest
      else .directory other inside (rest.set name node)

def erase (name : String) : Directory → Directory
  | .nil => .nil
  | .file other content rest =>
      if other = name then rest else .file other content (rest.erase name)
  | .directory other inside rest =>
      if other = name then rest else .directory other inside (rest.erase name)

def inside (d : Directory) (name : String) : Directory :=
  match d.get? name with
  | some (.directory inside) => inside
  | _ => .nil

def put (node : Node) : List String → Directory → Directory
  | [], d => d
  | [name], d => d.set name node
  | name :: names, d => d.set name (.directory (put node names (d.inside name)))

def remove : List String → Directory → Directory
  | [], d => d
  | [name], d => d.erase name
  | name :: names, d =>
      match d.get? name with
      | some (.directory inside) => d.set name (.directory (remove names inside))
      | _ => d

/-- Follows the parts of a path; `outer` are the directories around this one, from the innermost on.
What lies outside the tree is not seen. -/
def follow (outer : List Directory) (here : Directory) : List String → Except PathFault Node
  | [] => .ok (.directory here)
  | part :: parts =>
      if part.isEmpty || part = "." then follow outer here parts
      else if part = ".." then
        match outer with
        | [] => .error .missing
        | up :: outer => follow outer up parts
      else
        match here.get? part with
        | none => .error .missing
        | some (.directory inside) => follow (here :: outer) inside parts
        | some (.file content) =>
            if parts.isEmpty then .ok (.file content) else .error .notDirectory

end Directory

def pathParts (path : String) : List String := (path.toList.splitOn '/').map String.ofList

def pathNames (path : String) : List String :=
  ((pathParts path).foldl (fun names part =>
    if part.isEmpty || part = "." then names
    else if part = ".." then names.tail
    else part :: names) []).reverse

namespace Directory

def lookup (d : Directory) (path : String) : Except PathFault Node :=
  if path.isEmpty || path.startsWith "/" then .error .missing
  else d.follow [] (pathParts path)

def content? (d : Directory) (path : String) : Option (List UInt8) :=
  match d.lookup path with
  | .ok (.file content) => some content
  | _ => none

def isFile (d : Directory) (path : String) : Bool := (d.content? path).isSome

def write (d : Directory) (path : String) (content : List UInt8) : Directory :=
  d.put (.file content) (pathNames path)

def makeDirectory (d : Directory) (path : String) : Directory :=
  match d.lookup path with
  | .ok _ => d
  | .error _ => d.put (.directory .nil) (pathNames path)

def delete (d : Directory) (path : String) : Directory := d.remove (pathNames path)

end Directory

end Harvest.Files
