import Harvest.Text.Basic
import Harvest.Text.Blank

/-!
File names: how they are joined and taken apart.
-/

namespace Harvest.Files

def joinPath (directory file : String) : String :=
  if file.startsWith "/" then file
  else if directory.isEmpty || directory.endsWith "/" then directory ++ file
  else directory ++ "/" ++ file

def baseName (path : List Char) : List Char :=
  (path.reverse.takeWhile (· != '/')).reverse

/-- The extension of a file name: its last dot and what follows. Dots at the start of the name do
not count. -/
def extension (path : String) : String :=
  let name := (baseName path.toList).dropWhile (· == '.')
  if name.contains '.' then
    String.ofList ('.' :: (name.reverse.takeWhile (· != '.')).reverse)
  else ""

/-- The directory part of a file name: what stands before the last slash, without slashes at its end
unless there is nothing else. -/
def directoryName (path : String) : String :=
  let head := (path.toList.reverse.dropWhile (· != '/')).reverse
  let trimmed := Text.trimRightOf (· == '/') head
  String.ofList (if trimmed.isEmpty then head else trimmed)

end Harvest.Files
