import Harvest.Catalog.Basic
import Harvest.Text.Codec

/-!
Reading catalogs. A catalog is read line by line: each line has a role, and which roles may follow
each other is laid down in a table.
-/

namespace Harvest.Catalog

open Text

structure ReadFault where
  file : Option String := none
  line : Nat
  detail : Option String := none
deriving DecidableEq, Repr

def ReadFault.message (f : ReadFault) : String :=
  "Syntax error in po file " ++ (f.file.map (· ++ " ")).getD "" ++ s!"(line {f.line})" ++
    (f.detail.map (": " ++ ·)).getD ""

inductive Role where
  | remark
  | generated
  | occurrences
  | flags
  | previousContext
  | previousText
  | previousPlural
  | context
  | text
  | plural
  | translation
  | form
  | continuation
deriving DecidableEq, Repr

inductive Stage where
  | start
  | header
  | after (role : Role)
deriving DecidableEq, Repr

/-- Does an entry end before the next line that starts something new? -/
def Stage.isDone : Stage → Bool
  | .after .translation => true
  | .after .form => true
  | _ => false

def Stage.allows (stage : Stage) (role : Role) : Bool :=
  match role with
  | .remark => stage != .after .context
  | .context =>
      [.start, .header, .after .generated, .after .occurrences, .after .flags, .after .remark,
        .after .previousContext, .after .previousText, .after .previousPlural, .after .translation,
        .after .form].contains stage
  | .text =>
      [.start, .header, .after .generated, .after .occurrences, .after .flags, .after .context,
        .after .remark, .after .previousContext, .after .previousText, .after .previousPlural,
        .after .translation, .after .form].contains stage
  | .plural =>
      [.after .remark, .after .generated, .after .previousContext, .after .previousText,
        .after .previousPlural, .after .text].contains stage
  | .translation => [.after .text, .after .plural, .after .remark].contains stage
  | .form => [.after .text, .after .form, .after .plural, .after .remark].contains stage
  | .continuation =>
      [.after .context, .after .text, .after .plural, .after .translation, .after .form,
        .after .previousText, .after .previousPlural, .after .previousContext].contains stage
  | _ => true

structure Reading where
  stage : Stage := .start
  entries : List Entry := []
  current : Entry := { text := some "" }
  form : Int := 0
deriving Inhabited

def Reading.fresh (r : Reading) : Reading :=
  if r.stage.isDone then
    { r with entries := r.entries ++ [r.current], current := { text := some "" } }
  else r

def quotedPart (s : List Char) : String := String.ofList (unescape (s.drop 1).dropLast)

def addCommentLine (comments : List String) (line : String) : List String :=
  match comments with
  | [] => if line.isEmpty then [] else [line]
  | comment :: _ => if comment.isEmpty then [line] else [comment ++ "\n" ++ line]

def Occurrence.parse (s : List Char) : Occurrence :=
  let line := (s.reverse.takeWhile (· != ':')).reverse
  let file := s.take (s.length - line.length - 1)
  if line.length < s.length && !line.isEmpty && line.all isDigitSign then
    ⟨String.ofList file, String.ofList line⟩
  else ⟨String.ofList s, ""⟩

def formOf? (s : List Char) : Option (Int × String) := do
  let c ← s[7]?
  let n ← digitValue? c
  let value :=
    match cut? '"' s with
    | some (_, rest) => rest.dropLast
    | none => s.dropLast
  return (n, String.ofList (unescape value))

def setForm (n : Int) (f : String → String) : List (Int × String) → List (Int × String)
  | [] => [(n, f "")]
  | (m, s) :: rest => if m = n then (m, f s) :: rest else (m, s) :: setForm n f rest

def continueEntry (stage : Stage) (form : Int) (text : String) (e : Entry) : Entry :=
  match stage with
  | .after .context => { e with context := e.context.map (· ++ text) }
  | .after .text => { e with text := e.text.map (· ++ text) }
  | .after .plural => { e with plural := e.plural ++ text }
  | .after .translation => { e with translation := e.translation ++ text }
  | .after .form => { e with forms := setForm form (· ++ text) e.forms }
  | _ => e

/-- Reads a line of a role. `s` is the line without its keyword, and `obsolete` tells that it is
marked as no longer in use. -/
def Reading.apply? (r : Reading) (role : Role) (obsolete : Bool) (s : List Char) : Option Reading :=
  if !r.stage.allows role then none
  else
    let change := fun (r : Reading) (f : Entry → Entry) =>
      some { r with current := f r.current, stage := .after role }
    let rest := String.ofList (s.drop 3)
    match role with
    | .remark =>
        if r.stage = .start || r.stage = .header then some { r with stage := .header }
        else
          let line := s.dropWhile (· == '#')
          let line := if line.head? = some ' ' then line.drop 1 else line
          change r.fresh fun e =>
            { e with
              translatorComments := addCommentLine e.translatorComments (String.ofList line) }
    | .generated =>
        change r.fresh fun e => { e with comments := addCommentLine e.comments rest }
    | .occurrences =>
        change r.fresh fun e =>
          { e with occurrences := e.occurrences ++ (words (s.drop 3)).map Occurrence.parse }
    | .flags =>
        change r.fresh fun e =>
          { e with
            flags := e.flags ++ ((s.drop 3).splitOn ',').map fun f => String.ofList (trim f) }
    | .previousContext => change r.fresh id
    | .previousText => change r.fresh id
    | .previousPlural => change r.fresh id
    | .context => change r.fresh fun e => { e with context := some (quotedPart s) }
    | .text => change r.fresh fun e => { e with obsolete, text := some (quotedPart s) }
    | .plural => change r fun e => { e with plural := quotedPart s }
    | .translation => change r fun e => { e with translation := quotedPart s }
    | .form => do
        let (n, text) ← formOf? s
        change { r with form := n } fun e => { e with forms := setForm n (fun _ => text) e.forms }
    | .continuation =>
        some { r with current := continueEntry r.stage r.form (quotedPart s) r.current }

/-- Is there a quote that no backslash stands before? `before` is the character before the text. -/
def hasBareQuote (before : Char) : List Char → Bool
  | [] => false
  | c :: cs => (c == '"' && before != '\\') || hasBareQuote c cs

def hasInnerQuote (s : List Char) : Bool := hasBareQuote ' ' (s.drop 1).dropLast

inductive Line where
  | nothing
  | role (r : Role) (s : List Char)
  | fault (detail : Option String)
deriving DecidableEq, Repr

structure LineWords where
  first : List Char
  second : Option (List Char)
  more : Bool

def LineWords.of (s : List Char) : LineWords :=
  match words s with
  | [] => ⟨[], none, false⟩
  | [w] => ⟨w, none, false⟩
  | [w, v] => ⟨w, some v, false⟩
  | w :: v :: _ => ⟨w, some v, true⟩

def keywordRole? (w : List Char) : Option Role :=
  match String.ofList w with
  | "msgctxt" => some .context
  | "msgid" => some .text
  | "msgstr" => some .translation
  | "msgid_plural" => some .plural
  | _ => none

def previousRole? (w : List Char) : Option Role :=
  match String.ofList w with
  | "msgctxt" => some .previousContext
  | "msgid" => some .previousText
  | "msgid_plural" => some .previousPlural
  | _ => none

def quotedLine (role : Role) (s : List Char) : Line :=
  if hasInnerQuote s then .fault (some "unescaped double quote found") else .role role s

def previousLine (w : LineWords) (s : List Char) : Line :=
  match w.second with
  | none => .fault none
  | some keyword =>
      let s := trimLeft (s.drop 2)
      if keyword.head? = some '"' then .role .continuation s
      else if !w.more then .fault (some "invalid continuation line")
      else
        match previousRole? keyword with
        | none => .fault (some ("unknown keyword " ++ String.ofList keyword))
        | some role => .role role (trimLeft (s.drop keyword.length))

def plainLine (w : LineWords) (s : List Char) : Line :=
  let unlessAlone := fun role => if w.second.isNone then .nothing else .role role s
  match keywordRole? w.first, w.second with
  | some role, some _ => quotedLine role (trimLeft (s.drop w.first.length))
  | _, _ =>
      if w.first = ['#', ':'] then unlessAlone .occurrences
      else if s.head? = some '"' then quotedLine .continuation s
      else if "msgstr[".toList.isPrefixOf s then .role .form s
      else if w.first = ['#', ','] then unlessAlone .flags
      else if w.first = ['#'] || ['#', '#'].isPrefixOf w.first then .role .remark s
      else if w.first = ['#', '.'] then unlessAlone .generated
      else if w.first = ['#', '|'] then previousLine w s
      else .fault none

structure Marked where
  obsolete : Bool
  words : LineWords
  text : List Char

/-- Takes away the mark of disuse, if something follows it. What follows the first word after the
mark counts as one word. -/
def Marked.of (s : List Char) : Marked :=
  let w := LineWords.of s
  if w.first = ['#', '~'] && w.second.isSome then
    let s := trim (s.drop 3)
    ⟨true, { LineWords.of s with more := false }, s⟩
  else ⟨false, w, s⟩

structure Reader where
  reading : Reading := {}
  line : Nat := 0
  any : Bool := false
  comment : Bool := false

def Reader.step (file : Option String) (r : Reader) (s : List Char) : Except ReadFault Reader :=
  let line := r.line + 1
  let s := if r.line = 0 && s.head? = some (Char.ofNat 0xFEFF) then s.drop 1 else s
  let s := trim s
  if s.isEmpty then .ok { r with line }
  else if (LineWords.of s).first = "#~|".toList then
    .ok { r with line, any := true, comment := true }
  else
    let m := Marked.of s
    let next := fun reading =>
      { r with reading, line, any := true, comment := m.words.first.head? == some '#' }
    match plainLine m.words m.text with
    | .nothing => .ok (next r.reading)
    | .fault detail => .error { file, line, detail }
    | .role role s =>
        match r.reading.apply? role m.obsolete s with
        | some reading => .ok (next reading)
        | none => .error { line }

/-- The entries that have been read. The last one counts unless a comment follows it. -/
def Reader.entries (r : Reader) : List Entry :=
  if r.any && !r.comment then r.reading.entries ++ [r.reading.current] else r.reading.entries

def headerOf? (entries : List Entry) : Option Entry :=
  let found := (live entries).filter (·.text = some "")
  match found with
  | [] => none
  | [e] => some e
  | first :: _ =>
      some (((found.filter fun e => (e.context.getD "").isEmpty).getLast?).getD first)

/-- The worker of `withoutHeader?`: takes away the first entry with the content of `e`, unless one
before it cannot be compared. -/
def eraseContent? (e : Entry) : List Entry → Option (List Entry)
  | [] => some []
  | x :: xs =>
      if x = e then some xs
      else
        match x.compareContent e with
        | .same => some xs
        | .different => (eraseContent? e xs).map (x :: ·)
        | .impossible => none

def withoutHeader? (entries : List Entry) : Option (List Entry) :=
  match headerOf? entries with
  | some e => eraseContent? e entries
  | none => some entries

inductive LoadFault where
  | undecodable
  | malformed (fault : ReadFault)
  | incomparable
deriving DecidableEq, Repr

def readLines (file : Option String) (ls : List (List Char)) : Except LoadFault (List Entry) := do
  let r ← (ls.foldlM (Reader.step file) ({} : Reader)).mapError .malformed
  match withoutHeader? r.entries with
  | some entries => return entries
  | none => throw .incomparable

def readText (s : List Char) : Except LoadFault (List Entry) := readLines none (lines s)

/-! Files. -/

def isCharsetChar (c : Char) : Bool := c.isAlphanum || c == '_' || c == '-' || c == ':' || c == '.'

def charsetName? : List Char → Option (List Char)
  | [] => none
  | c :: cs =>
      let name := ((dropStart? " charset=".toList (c :: cs)).getD []).takeWhile isCharsetChar
      if name.isEmpty then charsetName? cs else some name

def lineCharset? : List Char → Option (List Char)
  | [] => none
  | c :: cs =>
      ((dropStart? "Content-Type:".toList (c :: cs)).bind fun rest => charsetName? (rest.drop 1)).or
        (lineCharset? cs)

/-- The encoding of a file: the first that a line names, if it is known, or else UTF-8. -/
def codecOf (bytes : List UInt8) : Codec :=
  let ls := feedLines (bytes.map fun b => Char.ofNat b.toNat)
  (ls.findSome? fun line =>
    (lineCharset? line).bind fun name => Codec.named? (String.ofList name)).getD .utf8

def decodeFile? (bytes : List UInt8) : Option (List Char) :=
  match codecOf bytes with
  | .bytes table => bytes.mapM table.character?
  | _ => (decodeUtf8 bytes).toOption

def load (file : String) (bytes : List UInt8) : Except LoadFault (List Entry) :=
  match decodeFile? bytes with
  | none => .error .undecodable
  | some s => readLines (some file) (feedLines (unifyLineEnds s))

end Harvest.Catalog
