import Harvest.Session
import Harvest.Source.Reader
import Harvest.Source.Scan

/-!
Extracting the messages of a source.
-/

namespace Harvest.Source

def abortLine (file : String) (line : Int) (what : String) : String :=
  s!"Aborting due to parse error in {file}[{line}]: {what}"

def scanFailure {α : Type} (file : String) (firstLine : Int) : ScanFault → Job α
  | .openString row _ => Job.abort (abortLine file (firstLine + row) "EOF in multi-line string")
  | .openStatement row =>
      Job.abort (abortLine file (firstLine + row) "EOF in multi-line statement")
  | .badDedent => throw .badDedent
  | .undecodable fault => throw (.undecodable fault)

def readFailure {α : Type} (file : String) (firstLine : Int) : ReadFault → Job α
  | .unexpected what row => Job.abort (abortLine file (firstLine + row) what)
  | .failure cause => throw cause

def conclude (file : String) (firstLine : Int) (scanFault : Option ScanFault)
    (read : Reader × Option ReadFault) : Job (List Message) := do
  read.1.warnings.forM Job.warn
  match read.2, scanFault with
  | some fault, _ => readFailure file firstLine fault
  | none, some fault => scanFailure file firstLine fault
  | none, none => return read.1.messages

/-- The messages of a source given as lines. The keywords that the options name are added to the
session first. -/
def extract (options : Options) (file : String) (firstLine : Int) (lines : List Line) :
    Job (List Message) := do
  Job.addKeywords options.keywords
  let scanned := scan lines
  let g : Reading := { options, keywords := (← get).keywords, file, firstLine }
  conclude file firstLine scanned.fault (Reader.run g {} scanned.tokens)

def extractText (options : Options) (file : String) (firstLine : Int) (s : List Char) :
    Job (List Message) :=
  extract options file firstLine (textLines s)

def extractByteLines (options : Options) (file : String) (firstLine : Int) (bytes : List UInt8) :
    Job (List Message) :=
  extract options file firstLine (byteLines bytes)

def extractBytes (options : Options) (file : String) (firstLine : Int) (bytes : List UInt8) :
    Job (List Message) :=
  match Text.decodeUtf8 bytes with
  | .ok s => extractText options file firstLine s
  | .error fault => throw (.undecodable fault)

end Harvest.Source
