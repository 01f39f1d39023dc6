import Harvest.Plugin
import Harvest.Source.Extract
import Harvest.Template.Extract
import Harvest.Zcml

/-!
Extractors: for each format of files, how its messages are found, and the settings that this depends
on.
-/

namespace Harvest

inductive Format where
  | source
  /-- Templates, whose expressions are Python unless they say otherwise. -/
  | template
  /-- Templates, whose expressions are paths unless they say otherwise. -/
  | zopeTemplate
  | configuration
  | plugin (name description : String)
deriving DecidableEq, Repr, Inhabited

namespace Format

def description : Format → String
  | .source => "Python sources"
  | .template => "Chameleon templates (defaults to Python expressions)"
  | .zopeTemplate => "Zope templates (defaults to TALES expressions)"
  | .configuration => "Zope Configuration Markup Language (ZCML)"
  | .plugin _ description => description

def extensions : Format → List String
  | .source => [".py"]
  | .template => [".pt"]
  | .zopeTemplate => [".zpt", ".cpt"]
  | .configuration => [".zcml"]
  | .plugin _ _ => []

def defaults : Format → Bindings
  | .template => [("default-engine", "python")]
  | .zopeTemplate => [("default-engine", "tales")]
  | .plugin _ _ => [("comment-tags", "")]
  | _ => []

end Format

structure Extractor where
  format : Format
  settings : Bindings
deriving DecidableEq, Repr, Inhabited

namespace Extractor

def new (format : Format) (settings : Bindings := []) : Extractor :=
  ⟨format, Bindings.assignAll format.defaults settings⟩

/-- Changes settings. The name `self` is reserved, and with it nothing is changed. -/
def configure? (e : Extractor) (settings : Bindings) : Option Extractor :=
  if settings.any (·.1 == "self") then none
  else some { e with settings := Bindings.assignAll e.settings settings }

def engine (e : Extractor) : String := (e.settings.lookup "default-engine").getD ""

def sourceLines (content : List UInt8) : List Source.Line :=
  match Text.decodeUtf8 content with
  | .ok s => Source.textLines (Text.unifyLineEnds s)
  | .error fault => [.error fault]

def extract (e : Extractor) (plugins : String → Plugin) (options : Options) (file : String)
    (content : List UInt8) : Job (List Message) :=
  match e.format with
  | .source => Source.extract options file 0 (sourceLines content)
  | .template | .zopeTemplate => Template.extract options file e.engine content
  | .configuration => Zcml.extract options file content
  | .plugin name _ => (plugins name).extract e.settings options file content

end Extractor

end Harvest
