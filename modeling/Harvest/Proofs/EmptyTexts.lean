import Harvest.Proofs.Catalog.Merge
import Harvest.Proofs.ElementDomains
import Harvest.Proofs.History
import Harvest.Proofs.Template.Domains

/-!
# Messages without a text

A message may lack a text. A call of `_` gives no message then, and neither does the content of an
element, but the call of a keyword does, and so do an attribute of a template that is to be
translated and the title or description in a configuration. Here the input alone tells whether an
extraction gives such a message, and with it an entry that a catalog cannot tell from its header.
-/

namespace Harvest

def Message.lacksText (m : Message) : Bool := (m.text.getD "").isEmpty

/-! ## Sources -/

namespace Source

/-- Is the argument empty that the keyword of a call has for the text, or is there none? -/
def OpenCall.isWordless (c : OpenCall) : Bool :=
  match c.keyword with
  | some k => k.text == 0 || (argumentAt? c.arguments k.text).any (·.value == .text "")
  | none => false

/-- Does a call give a message that is asked for and lacks a text? -/
def OpenCall.givesNoText (options : Options) (c : OpenCall) : Bool :=
  c.parts?.any (Reader.wantsDomain options ·.domain) && c.isWordless

def Reader.closed (g : Reading) : Reader → List Token → List OpenCall
  | _, [] => []
  | r, t :: ts =>
      (r.phase.ended? t).toList ++
        match r.step g t with
        | .ok r' => closed g r' ts
        | .error _ => []

/-- Is there a call in these lines that gives a message without a text? -/
def marksEmptyText (g : Reading) (lines : List Line) : Bool :=
  (Reader.closed g {} (scan lines).tokens).any (·.givesNoText g.options)

theorem isEmpty_text_of_pick {k : Keyword} {args : List Argument} {parts : MessageParts}
    (h : k.pick args = .ok parts) :
    (parts.text.getD "").isEmpty =
      (k.text == 0 || (argumentAt? args k.text).any (·.value == .text "")) := by
  have htext := Reader.partText_of_pick h
  unfold partText at htext
  dsimp only at htext
  by_cases hplace : k.text = 0
  · rw [if_pos hplace] at htext
    have hnone : parts.text = none := (Except.ok.inj htext).symm
    rw [hnone, hplace]
    rfl
  · rw [if_neg hplace] at htext
    have hfalse : (k.text == 0) = false := beq_false_of_ne hplace
    rw [hfalse, Bool.false_or]
    cases harg : argumentAt? args k.text with
    | none =>
      rw [harg] at htext
      cases htext
    | some arg =>
      rw [harg] at htext
      dsimp only at htext
      cases hvalue : arg.value with
      | text s =>
        rw [hvalue] at htext
        have hsome : parts.text = some s := (Except.ok.inj htext).symm
        rw [hsome, Option.any_some, hvalue]
        change s.isEmpty = (ArgumentValue.text s == .text "")
        rw [Bool.eq_iff_iff, String.isEmpty_iff, beq_iff_eq, ArgumentValue.text.injEq]
      | bytes | other =>
        rw [hvalue] at htext
        cases htext

theorem isEmpty_text_of_parts? {c : OpenCall} {parts : MessageParts} (h : c.parts? = some parts) :
    (parts.text.getD "").isEmpty = c.isWordless := by
  unfold OpenCall.parts? at h
  unfold OpenCall.isWordless
  cases hkeyword : c.keyword with
  | some k =>
    rw [hkeyword] at h
    have hpick : k.pick c.arguments = .ok parts := toOption_eq_some_iff.mp h
    exact isEmpty_text_of_pick hpick
  | none =>
    rw [hkeyword] at h
    obtain ⟨text, htext, hne⟩ :=
      Reader.exists_text_of_translationString (Option.join_eq_some_iff.mp h)
    rw [htext]
    exact hne

namespace Reader

variable {g : Reading} {r r' : Reader} {t : Token} {ts : List Token}

theorem closed_cons (h : r.step g t = .ok r') (ts : List Token) :
    r.closed g (t :: ts) = (r.phase.ended? t).toList ++ r'.closed g ts := by
  rw [closed, h]

theorem any_lacksText_bare (ms : List Message) :
    (ms.map bare).any Message.lacksText = ms.any Message.lacksText := by
  rw [List.any_map]
  rfl

theorem any_lacksText_marked? (g : Reading) (p : Phase) (t : Token) :
    (((p.marked? t).toList.filter (·.wanted g.options)).map
        (MarkedCall.message g.file g.firstLine)).any Message.lacksText =
      (p.ended? t).toList.any (·.givesNoText g.options) := by
  cases hended : p.ended? t with
  | none =>
    rw [marked?_of_ended?_eq_none hended]
    rfl
  | some c =>
    rw [marked?_of_ended? hended]
    unfold OpenCall.givesNoText
    cases hparts : c.parts? with
    | none => simp [hparts]
    | some parts =>
      have hempty := isEmpty_text_of_parts? hparts
      cases hwanted : wantsDomain g.options parts.domain with
      | false => simp [MarkedCall.wanted, hwanted, hparts]
      | true =>
        simp [MarkedCall.wanted, hwanted, hparts, Message.lacksText, MarkedCall.message, hempty]

theorem any_lacksText_step (h : r.step g t = .ok r') :
    r'.messages.any Message.lacksText =
      (r.messages.any Message.lacksText || (r.phase.ended? t).toList.any
      (·.givesNoText g.options)) := by
  rw [← any_lacksText_bare, bare_step h, List.any_append, any_lacksText_bare, any_lacksText_marked?]

/-- A reader that gets to the end has a message without a text just if it had one or comes upon a
call that gives one. -/
theorem any_lacksText_run (h : (r.run g ts).2 = none) :
    (r.run g ts).1.messages.any Message.lacksText =
      (r.messages.any Message.lacksText || (r.closed g ts).any (·.givesNoText g.options)) := by
  induction ts generalizing r with
  | nil => exact (Bool.or_false _).symm
  | cons t ts ih =>
    obtain ⟨r', hstep, h⟩ := exists_step_of_run h
    rw [run_cons hstep, closed_cons hstep, ih h, any_lacksText_step hstep, List.any_append,
      Bool.or_assoc]

end Reader

/-- A source gives a message without a text just if it has a call that marks an empty text. -/
theorem any_lacksText_extract {options : Options} {file : String} {firstLine : Int}
    {lines : List Line} {s s' : Session} {ms : List Message}
    (h : (ExceptT.run (extract options file firstLine lines)).run s = (.ok ms, s')) :
    ms.any Message.lacksText =
      marksEmptyText ⟨options, (s.keywords.addSpecs options.keywords).1, file,
        firstLine⟩ lines := by
  obtain ⟨keywords, r, hadded, -, hread, rfl, -⟩ := run_extract_ok_iff.mp h
  have hrun := Reader.any_lacksText_run (congrArg Prod.snd hread)
  rw [hread] at hrun
  rw [hadded]
  exact hrun

end Source

/-! ## Templates -/

namespace Template

open Text

/-- Does an entry ask for the value of an attribute that is empty? -/
def Tag.namesEmpty (tag : Tag) (entry : List Char) : Bool :=
  !entry.contains ' ' && (lastNamed? (String.ofList entry) tag.attributes).any (·.2.value.isEmpty)

namespace Walker

variable (g : Walker) (start : WalkState)

/-- Is there a call that gives a message without a text in the code at a place? -/
def marksEmptyCodeAt (p : Place) : Bool :=
  (p.codes g.engine).any fun code =>
    Source.marksEmptyText ⟨g.options, g.keywords start, g.file, start.line + feeds p.lead⟩
      (Source.textLines code)

def marksEmptyTextAt (p : Place) : Bool :=
  match p with
  | .attributes spot =>
      (g.outset start).asks spot.path &&
        (spot.element.says? "attributes").any fun entries =>
          (entries.toList.splitOn ';').any fun entry => spot.element.tag.namesEmpty (trim entry)
  | .tagCode _ => g.marksEmptyCodeAt start p
  | .textCode path _ _ => (g.outset start).asks path && g.marksEmptyCodeAt start p
  | .content _ => false

end Walker

namespace Outset

theorem any_lacksText_attributeMessage? (o : Outset) (spot : Spot) (entry : List Char) :
    (o.attributeMessage? spot entry).any Message.lacksText = spot.element.tag.namesEmpty entry := by
  unfold attributeMessage? Tag.namesEmpty
  dsimp only
  cases hblank : entry.contains ' ' with
  | false =>
    rw [if_neg Bool.false_ne_true, Option.any_map]
    rfl
  | true =>
    rw [if_pos rfl, Bool.not_true, Bool.false_and]
    split
    · rename_i name id hwords
      have hmem : id ∈ wordsFrom [] entry := by
        change id ∈ words entry
        simp [hwords]
      have hid : id ≠ [] := ne_nil_of_mem_wordsFrom hmem
      rw [Option.any_map, Option.any_eq_false]
      intro a _
      simpa [Message.lacksText] using hid
    · rfl

theorem any_lacksText_attributeMessages (o : Outset) (spot : Spot) :
    (o.attributeMessages spot).any Message.lacksText =
      (o.asks spot.path && (spot.element.says? "attributes").any fun entries =>
        (entries.toList.splitOn ';').any fun entry => spot.element.tag.namesEmpty
        (trim entry)) := by
  unfold attributeMessages
  cases o.asks spot.path with
  | false => rfl
  | true =>
    rw [if_pos rfl, Bool.true_and]
    cases spot.element.says? "attributes" with
    | none => rfl
    | some entries =>
      rw [Option.toList_some, List.flatMap_singleton, List.any_filterMap,
        List.any_map, Option.any_some]
      congr 1
      funext entry
      rw [← any_lacksText_attributeMessage? o spot, Function.comp_apply]
      cases o.attributeMessage? spot (trim entry) <;> rfl

theorem any_lacksText_contentMessage? (o : Outset) (spot : Spot) :
    (o.contentMessage? spot).toList.any Message.lacksText = false := by
  unfold contentMessage?
  cases spot.element.id? with
  | none => rfl
  | some id =>
    rw [Option.bind_some]
    cases hoffers : o.offers spot with
    | false => rfl
    | true =>
      rw [if_pos rfl, Option.toList_some, List.any_cons, List.any_nil, Bool.or_false]
      change (if id.isEmpty then o.text spot.element spot.around else id).isEmpty = false
      cases hid : id.isEmpty with
      | false => exact hid
      | true =>
        -- An empty text is blank, and a blank one is no offer.
        rw [if_pos rfl, Bool.eq_false_iff]
        intro hempty
        unfold offers at hoffers
        rw [String.isEmpty_iff.mp hempty] at hoffers
        cases hoffers

end Outset

namespace Walker

variable {g : Walker} {start : WalkState} {keywords : KeywordTable} {line : Int} {code : List Char}

theorem ReadsValue.understands {name : QualifiedName} {value : String}
    (h : g.ReadsValue keywords line name value) (hcode : code ∈ valueCodes g.engine name value) :
    g.Understands keywords line code := by
  obtain ⟨decoded, hdecoded, -, hcodes⟩ := h
  unfold valueCodes at hcode
  rw [hdecoded] at hcode
  exact hcodes code hcode

theorem ReadsLine.understands {text : List Char} (h : g.ReadsLine keywords line text)
    (hcode : code ∈ lineCodes g.engine text) : g.Understands keywords line code := by
  obtain ⟨decoded, hdecoded, -, hcodes⟩ := h
  unfold lineCodes at hcode
  rw [hdecoded] at hcode
  exact hcodes code hcode

theorem any_lacksText_codeAt (h : g.Understands keywords line code) :
    (g.codeAt keywords line code).any Message.lacksText =
      Source.marksEmptyText ⟨g.options, keywords, g.file, line⟩ (Source.textLines code) := by
  obtain ⟨-, -, hread⟩ := h
  unfold codeAt
  rw [List.any_map]
  exact Source.Reader.any_lacksText_run hread

theorem any_lacksText_codeMessagesAt {p : Place}
    (h : ∀ code ∈ p.codes g.engine, g.Understands (g.keywords start)
      (start.line + feeds p.lead) code) :
    (g.codeMessagesAt start p).any Message.lacksText = g.marksEmptyCodeAt start p := by
  unfold codeMessagesAt marksEmptyCodeAt
  rw [List.any_flatMap, Bool.eq_iff_iff, List.any_eq_true, List.any_eq_true]
  refine exists_congr fun code => and_congr_right fun hcode => ?_
  rw [any_lacksText_codeAt (h code hcode)]

theorem any_lacksText_messagesAt {p : Place} (h : g.ReadsAt start p) :
    (g.messagesAt start p).any Message.lacksText = g.marksEmptyTextAt start p := by
  cases p with
  | attributes spot => exact Outset.any_lacksText_attributeMessages _ spot
  | content spot => exact Outset.any_lacksText_contentMessage? _ spot
  | tagCode spot =>
    refine any_lacksText_codeMessagesAt fun code hcode => ?_
    obtain ⟨entry, hentry, hcode⟩ := List.mem_flatMap.mp hcode
    exact (h entry hentry).understands hcode
  | textCode path before text =>
    unfold messagesAt marksEmptyTextAt
    dsimp only
    cases hasks : (g.outset start).asks path with
    | false => rfl
    | true =>
      rw [if_pos rfl, Bool.true_and]
      refine any_lacksText_codeMessagesAt fun code hcode => ?_
      obtain ⟨line, hline, hcode⟩ := List.mem_flatMap.mp hcode
      exact (h hasks line hline).understands hcode

end Walker

def marksEmptyText (g : Walker) (start : WalkState) (bytes : List UInt8) : Bool :=
  match decodeUtf8 bytes with
  | .ok text => (Node.allPlaces [] [] (nodesOf text)).any (g.marksEmptyTextAt start)
  | .error _ => false

theorem exists_parse_of_run_extract {options : Options} {file engine : String} {bytes : List UInt8}
    {s s' : Session} {ms : List Message}
    (h : (ExceptT.run (extract options file engine bytes)).run s = (.ok ms, s')) :
    ∃ text, decodeUtf8 bytes = .ok text ∧ Node.parse text = .ok (nodesOf text) := by
  unfold extract at h
  cases hdecoded : decodeUtf8 bytes with
  | error fault =>
    rw [hdecoded] at h
    cases h
  | ok text =>
    refine ⟨text, rfl, ?_⟩
    rw [hdecoded] at h
    dsimp only at h
    cases hnodes : Node.parse text with
    | ok nodes =>
      unfold nodesOf
      rw [hnodes]
      rfl
    | error cause =>
      rw [hnodes] at h
      cases h

/-- A template gives a message without a text just if one of its elements or codes marks one. -/
theorem any_lacksText_extract {options : Options} {file engine : String} {bytes : List UInt8}
    {s s' : Session} {ms : List Message}
    (h : (ExceptT.run (extract options file engine bytes)).run s = (.ok ms, s')) :
    ms.any Message.lacksText = marksEmptyText { options, file, engine } { session := s } bytes := by
  obtain ⟨text, hdecoded, hnodes⟩ := exists_parse_of_run_extract h
  obtain ⟨hreads, rfl⟩ :=
    reaches_visitAll_iff.mp ((exists_run_extract_iff hdecoded hnodes).mp ⟨s', h⟩)
  unfold marksEmptyText
  rw [hdecoded]
  dsimp only
  rw [List.any_flatMap, Bool.eq_iff_iff, List.any_eq_true, List.any_eq_true]
  refine exists_congr fun p => and_congr_right fun hp => ?_
  rw [Walker.any_lacksText_messagesAt (hreads p hp)]

end Template

/-! ## Configurations -/

namespace Zcml

open Xml

/-- Does an element with these attributes give a message without a text, if it is in this domain? -/
def marksEmptyText (options : Options) (domain : Option String) (attributes : Attributes) : Bool :=
  domain.any (includes options) && attributes.any fun a => isMessageName a.1 && a.2.isEmpty

/-- Do these events, inside of elements with these domains, give a message without a text? -/
def marksEmptyTextFrom (options : Options) : List String → List Event → Bool
  | _, [] => false
  | domains, .start _ attributes _ :: rest =>
      marksEmptyText options (enter domains attributes).head? attributes ||
        marksEmptyTextFrom options (enter domains attributes) rest
  | domains, .stop _ :: rest => marksEmptyTextFrom options domains.tail rest

theorem any_lacksText_elementMessages (file : String) (line : Nat) (attributes : Attributes) :
    (elementMessages file line attributes).any Message.lacksText =
      attributes.any fun a => isMessageName a.1 && a.2.isEmpty := by
  unfold elementMessages
  rw [List.any_map, List.any_filter]
  rfl

theorem any_lacksText_start (options : Options) (file : String) (s : State) (name : String)
    (attributes : Attributes) (line : Nat) :
    let after := s.step options file (.start name attributes line)
    after.domains = enter s.domains attributes ∧
      after.messages.any Message.lacksText = (s.messages.any Message.lacksText ||
        marksEmptyText options (enter s.domains attributes).head? attributes) := by
  unfold State.step marksEmptyText
  dsimp only
  have htail := tail_enter s.domains attributes
  cases hdomains : enter s.domains attributes with
  | nil =>
    rw [hdomains] at htail
    exact ⟨htail.symm, (Bool.or_false _).symm⟩
  | cons domain outer =>
    refine ⟨rfl, ?_⟩
    dsimp only
    rw [List.head?_cons, Option.any_some]
    cases includes options domain with
    | false => exact (Bool.or_false _).symm
    | true => rw [if_pos rfl, List.any_append, any_lacksText_elementMessages, Bool.true_and]

theorem any_lacksText_run (options : Options) (file : String) (events : List Event) (s : State) :
    (s.run options file events).messages.any Message.lacksText =
      (s.messages.any Message.lacksText || marksEmptyTextFrom options s.domains events) := by
  induction events generalizing s with
  | nil => exact (Bool.or_false _).symm
  | cons event events ih =>
    have hrest := ih (s.step options file event)
    cases event with
    | start name attributes line =>
      obtain ⟨hdomains, hmessages⟩ := any_lacksText_start options file s name attributes line
      rw [hmessages, hdomains, Bool.or_assoc] at hrest
      exact hrest
    | stop name => exact hrest

def marksEmptyTextIn (options : Options) (bytes : List UInt8) : Bool :=
  match Xml.read bytes with
  | .ok events => marksEmptyTextFrom options [] events
  | .error _ => false

/-- A configuration gives a message without a text just if an element in a domain has an empty one.
-/
theorem any_lacksText_extract {options : Options} {file : String}
    {bytes : List UInt8} {s s' : Session}
    {ms : List Message} (h : (ExceptT.run (extract options file bytes)).run s = (.ok ms, s')) :
    ms.any Message.lacksText = marksEmptyTextIn options bytes := by
  unfold extract at h
  unfold marksEmptyTextIn
  cases hread : Xml.read bytes with
  | ok events =>
    rw [hread] at h
    cases h
    exact any_lacksText_run options file events {}
  | error fault =>
    rw [hread] at h
    cases fault <;> cases h

end Zcml

/-! ## Catalogs -/

def Catalog.Entry.lacksText (e : Catalog.Entry) : Bool := (e.text.getD "").isEmpty

/-- Merging keeps a message without a text, and makes none. -/
theorem Catalog.any_lacksText_addMessages (located : Bool) (ms : List Message) :
    (addMessages located [] ms).any Entry.lacksText = ms.any Message.lacksText := by
  rw [addMessages_eq_merged, List.any_map, Bool.eq_iff_iff, List.any_eq_true, List.any_eq_true]
  constructor
  · rintro ⟨key, hkey, htext⟩
    obtain ⟨m, hm, rfl⟩ := List.mem_map.mp (List.mem_eraseDups.mp hkey)
    exact ⟨m, hm, htext⟩
  · rintro ⟨m, hm, htext⟩
    exact ⟨m.key, List.mem_eraseDups.mpr (List.mem_map_of_mem hm), htext⟩

/-! ## Extractions -/

namespace Extraction

def isOwn : Extraction → Bool
  | .plugin .. => false
  | _ => true

/-- Does an extraction that starts with these keywords give a message without a text, if it
succeeds? -/
def marksEmptyText (e : Extraction) (keywords : KeywordTable) : Bool :=
  match e with
  | .source options file firstLine lines =>
      Source.marksEmptyText ⟨options, (keywords.addSpecs options.keywords).1, file, firstLine⟩ lines
  | .template options file engine content =>
      Template.marksEmptyText { options, file, engine } { session := { keywords } } content
  | .configuration options _ content => Zcml.marksEmptyTextIn options content
  | .plugin .. => false

theorem exists_of_run_map {α β : Type} {j : Job α} {f : α → β} {s : Session} {b : β}
    (h : ((ExceptT.run (do return f (← j) : Job β)).run s).1 = .ok b) :
    ∃ a s', (ExceptT.run j).run s = (.ok a, s') ∧ f a = b := by
  rw [ExceptT.run_bind, StateT.run_bind] at h
  rcases hj : (ExceptT.run j).run s with ⟨outcome, s'⟩
  rw [hj] at h
  cases outcome with
  | error cause => cases h
  | ok a => exact ⟨a, s', rfl, Except.ok.inj h⟩

/-- An extraction that succeeds gives a message without a text, and its catalog has an entry
without one, just if its input marks such a text: where a keyword that is called finds its text
empty or has no place for one, where an attribute that is to be translated is empty, or a title
or description. -/
theorem any_lacksText_perform {e : Extraction} (hown : e.isOwn = true) {keywords : KeywordTable}
    {gain : Gain} (h : (e.perform keywords).1.result = .ok gain) :
    gain.messages.any Message.lacksText = e.marksEmptyText keywords ∧
      ∀ located, (Catalog.addMessages located [] gain.messages).any Catalog.Entry.lacksText =
        e.marksEmptyText keywords := by
  suffices hmessages : gain.messages.any Message.lacksText = e.marksEmptyText keywords from
    ⟨hmessages, fun located => (Catalog.any_lacksText_addMessages located _).trans hmessages⟩
  cases e with
  | plugin => cases hown
  | source options file firstLine lines =>
    obtain ⟨ms, s', hrun, rfl⟩ := exists_of_run_map h
    exact Source.any_lacksText_extract hrun
  | template options file engine content =>
    obtain ⟨ms, s', hrun, rfl⟩ := exists_of_run_map h
    exact Template.any_lacksText_extract hrun
  | configuration options file content =>
    obtain ⟨ms, s', hrun, rfl⟩ := exists_of_run_map h
    exact Zcml.any_lacksText_extract hrun

/-- An element with an empty title, an empty text that a name stands for, and empty
texts in calls. -/
def emptyTitle : Extraction :=
  .template {} "f" "python"
    (Text.encodeUtf8 ("<p i18n:domain=\"d\" i18n:attributes=\"title; alt a\" " ++
    "title=\"\" alt=\"\" class=\"$\x7bgettext('')\x7d\">$\x7b_('')\x7d</p>").toList)

theorem any_lacksText_perform_emptyTitle :
    (emptyTitle.perform .builtin).1.result = .ok { messages :=
      [{ text := some "", location := ⟨"f", 1⟩ },
        { text := some "a", comment := "Default: ", location := ⟨"f", 1⟩ },
        { text := some "", location := ⟨"f", 3⟩ }] } ∧
    emptyTitle.marksEmptyText .builtin = true := by
  have h : (emptyTitle.perform .builtin).1.result = .ok { messages :=
      [{ text := some "", location := ⟨"f", 1⟩ },
        { text := some "a", comment := "Default: ", location := ⟨"f", 1⟩ },
        { text := some "", location := ⟨"f", 3⟩ }] } := by decide +kernel
  have hown : emptyTitle.isOwn = true := rfl
  exact ⟨h, (any_lacksText_perform hown h).1.symm⟩

/-- An empty argument of a keyword becomes a message, and an entry of the catalog. -/
theorem perform_empty_argument :
    ((source {} "f" 0 (Source.textLines "gettext('')\n".toList)).perform .builtin).1.result =
      .ok { messages := [{ text := some "", location := ⟨"f", 1⟩ }] } ∧
    (Catalog.addMessages true [] [{ text := some "", location := ⟨"f", 1⟩ }]).map (·.text) =
        [some ""] := by
  decide +kernel

end Extraction

end Harvest
