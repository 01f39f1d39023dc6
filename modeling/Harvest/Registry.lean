import Harvest.Extractor
import Harvest.Files.Path
import Harvest.Settings.Read
import Harvest.Settings.Value

/-!
The registry: extractors by name, and for each extension of files the name of its extractor. Entry
points and settings add to it.
-/

namespace Harvest

structure Registry where
  extractors : List (String × Extractor) := []
  extensions : Bindings := []
deriving DecidableEq, Repr, Inhabited

structure ForeignClass where
  documentation : Option String := none
  extractor : Extractor
  extensions : List String := []
  failure : Option Failure := none
deriving DecidableEq, Repr

inductive Loaded where
  | missing
  | broken (cause : Failure)
  | extractor (format : Format)
  | foreign (cls : ForeignClass)
  | unusable (documentation : Option String) (cause : Failure)
  | otherClass
  | function (documentation : Option String)
deriving DecidableEq, Repr, Inhabited

structure EntryPoint where
  name : String
  loaded : Loaded
deriving DecidableEq, Repr, Inhabited

namespace Registry

inductive Fault where
  | notClass
  | notExtractor
  /-- An entry point cannot be loaded, or no extractor can be made, or its extensions not listed. -/
  | broken (cause : Failure)
  | undocumented
  | emptyDocumentation
  | unknownExtractor (name : String)
  | reservedOption
  | settings (fault : Settings.Fault)
deriving DecidableEq, Repr

def Fault.raise {α : Type} (source : String) : Fault → Job α
  | .unknownExtractor name =>
      Job.abort s!"Unknown extractor {name}. Check --list-extractors for available options"
  | .notClass => throw .notClass
  | .notExtractor => throw .notExtractor
  | .broken cause => throw cause
  | .undocumented => throw .undocumented
  | .emptyDocumentation => throw .emptyDocumentation
  | .reservedOption => throw .reservedOption
  | .settings fault => throw (.settings source fault)

def report (source : String) : Option Fault → Job Unit
  | none => pure ()
  | some fault => fault.raise source

def get? (r : Registry) (name : String) : Option Extractor := r.extractors.lookup name

def has (r : Registry) (name : String) : Bool := r.extractors.any (·.1 == name)

def insert (r : Registry) (name : String) (e : Extractor) : Registry :=
  { r with
    extractors :=
      if r.has name then
        r.extractors.map fun entry => if entry.1 == name then (name, e) else entry
      else r.extractors ++ [(name, e)] }

def nameFor? (r : Registry) (file : String) : Option String :=
  (r.extensions.lookup (Files.extension file)).filter r.has

def extractorFor? (r : Registry) (file : String) : Option Extractor :=
  (r.nameFor? file).bind r.get?

def addExtension (r : Registry) (extension name : String) : Except Fault Registry :=
  if r.has name then .ok { r with extensions := Bindings.assign r.extensions extension name }
  else .error (.unknownExtractor name)

def addWith (r : Registry) (name : String) (e : Extractor) (extensions : List String) : Registry :=
  { r.insert name e with
    extensions := extensions.foldl
      (fun known extension => Bindings.assign known extension name) r.extensions }

def addFormat (r : Registry) (name : String) (format : Format) : Registry :=
  r.addWith name (.new format) format.extensions

def addExtractors (r : Registry) : List EntryPoint → Registry × Option Fault
  | [] => (r, none)
  | point :: points =>
      match point.loaded with
      | .missing => r.addExtractors points
      | .broken cause => (r, some (.broken cause))
      | .extractor format => (r.addFormat point.name format).addExtractors points
      | .foreign cls =>
          let r := r.addWith point.name cls.extractor cls.extensions
          match cls.failure with
          | some cause => (r, some (.broken cause))
          | none => r.addExtractors points
      | .unusable _ cause => (r, some (.broken cause))
      | .otherClass => (r, some .notExtractor)
      | .function _ => (r, some .notClass)

def pluginFormat (name : String) (documentation : Option String) : Except Fault Format :=
  match documentation.map fun text => Text.lines text.toList with
  | none => .error .undocumented
  | some [] => .error .emptyDocumentation
  | some (line :: _) => .ok (.plugin name (String.ofList line))

def documentation? : Loaded → Except Fault (Option (Option String))
  | .missing => .ok none
  | .broken cause => .error (.broken cause)
  | .extractor format => .ok (some (some format.description))
  | .foreign cls => .ok (some cls.documentation)
  | .unusable documentation _ => .ok (some documentation)
  | .otherClass => .ok (some none)
  | .function documentation => .ok (some documentation)

def addPlugins (r : Registry) : List EntryPoint → Registry × Option Fault
  | [] => (r, none)
  | point :: points =>
      match documentation? point.loaded with
      | .error fault => (r, some fault)
      | .ok none => r.addPlugins points
      | .ok (some documentation) =>
          match pluginFormat point.name documentation with
          | .ok format => (r.insert ("babel-" ++ point.name) (.new format)).addPlugins points
          | .error fault => (r, some fault)

def builtinPoints : List EntryPoint :=
  [⟨"python", .extractor .source⟩, ⟨"chameleon", .extractor .template⟩,
    ⟨"xml", .extractor .template⟩, ⟨"zope", .extractor .zopeTemplate⟩,
    ⟨"zcml", .extractor .configuration⟩]

def builtin : Registry := (({} : Registry).addExtractors builtinPoints).1

/-! Settings. -/

structure Configured where
  registry : Registry
  warnings : List String := []
  fault : Option Fault := none
deriving DecidableEq, Repr, Inhabited

def Configured.report (c : Configured) (source : String) : Job Unit := do
  c.warnings.forM Job.warn
  Registry.report source c.fault

def addExtensions (r : Registry) : Bindings → Registry × Option Fault
  | [] => (r, none)
  | (extension, name) :: rest =>
      match r.addExtension extension name with
      | .ok r => r.addExtensions rest
      | .error fault => (r, some fault)

def configureExtensions (r : Registry) (s : Settings) (place : String) : Configured :=
  match s.values place with
  | .error fault => { registry := r, fault := some (.settings fault) }
  | .ok values =>
      let (registry, fault) := r.addExtensions values
      { registry, fault }

def configureExtractor (r : Registry) (s : Settings) (place name : String) : Configured :=
  match r.get? name with
  | none => { registry := r, fault := some (.unknownExtractor name) }
  | some e =>
      match s.values place with
      | .error fault => { registry := r, fault := some (.settings fault) }
      | .ok values =>
          match e.configure? values with
          | none => { registry := r, fault := some .reservedOption }
          | some e => { registry := r.insert name e }

def configureExtension (r : Registry) (s : Settings) (place extension : String) : Configured :=
  let warnings :=
    [s!"Use of {place} section is obsolete. Please use the \"extensions\" section."]
  match s.value place "plugin" with
  | .error fault => { registry := r, warnings, fault := some (.settings fault) }
  | .ok name =>
      let warnings :=
        if name.isEmpty then warnings ++ [s!"No plugin defined for extension {extension}"]
        else warnings
      match r.addExtension extension name with
      | .ok registry => { registry, warnings }
      | .error fault => { registry := r, warnings, fault := some fault }

def configureSection (r : Registry) (s : Settings) (place : String) : Configured :=
  let rest := String.ofList (place.toList.drop 10)
  if place = "extensions" then r.configureExtensions s place
  else if place.startsWith "extractor:" then r.configureExtractor s place rest
  else if place.startsWith "extension" then r.configureExtension s place rest
  else { registry := r }

def configureSections (r : Registry) (s : Settings) : List String → Configured
  | [] => { registry := r }
  | place :: places =>
      let first := r.configureSection s place
      match first.fault with
      | some _ => first
      | none =>
          let rest := first.registry.configureSections s places
          { rest with warnings := first.warnings ++ rest.warnings }

def configure (r : Registry) (text : List Char) : Configured :=
  match Settings.read text with
  | .error fault => { registry := r, fault := some (.settings fault) }
  | .ok s => r.configureSections s (s.sections.map (·.1))

def listing (r : Registry) : List String :=
  (r.extractors.mergeSort fun a b => a.1 ≤ b.1).map fun (name, e) =>
    Text.padRight 17 name ++ " " ++ e.format.description

end Registry

end Harvest
