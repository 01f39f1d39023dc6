import Harvest.Proofs.Source.Domains
import Harvest.Proofs.Template.Survey
import Harvest.Proofs.Text.Utf8
import Harvest.Template.Extract
import Mathlib.Data.Prod.Basic

/-!
# Extracting one domain of a template

Whether a place of a template is looked at depends on the domain that holds there, but for the code
in attributes, which is always read. Moreover texts of other domains are not gathered, so a comment
that tells the text of a part, or of the passage around one, may tell less. Apart from this, to
extract one domain is to leave out the places of the others.
-/

namespace Harvest.Template

open Text Walk

/-! ## Places and their domains -/

def Place.isTagCode : Place → Bool
  | .tagCode _ => true
  | _ => false

def uncommented (m : Message) : Message := { m with comment := "" }

namespace Walker

variable (g : Walker) (start : WalkState)

def domainAt (p : Place) : Option String := ((g.outset start).scopeAt p.path).domain

def callsAt (p : Place) : List Source.MarkedCall :=
  (p.codes g.engine).flatMap fun code =>
    Source.Reader.calls ⟨g.options, g.keywords start, g.file, start.line + feeds p.lead⟩ {}
      (Source.scan (Source.textLines code)).tokens

def only (domain : String) : Walker :=
  { g with options := { g.options with domain := some domain } }

variable {g start} {domain : String} {keywords : KeywordTable} {line : Int} {code : List Char}

theorem includes_only (g : Walker) (domain : String) (given : Option String) :
    (g.only domain).includes given = decide (given = some domain) := by
  have hflip : (some domain == given) = decide (given = some domain) := by
    rw [Bool.beq_eq_decide_eq]
    exact decide_eq_decide.mpr eq_comm
  exact hflip

/-! ## Code -/

theorem run_code_only (domain : String) (hall : g.options.domain = none)
    (hcalls : ∀ c ∈ Source.Reader.calls ⟨g.options, keywords, g.file, line⟩ {}
      (Source.scan (Source.textLines code)).tokens, present? c.parts.domain = none) :
    Source.Reader.run ⟨(g.only domain).options, keywords, g.file, line⟩ {}
        (Source.scan (Source.textLines code)).tokens =
      Source.Reader.run ⟨g.options, keywords, g.file, line⟩ {}
        (Source.scan (Source.textLines code)).tokens := by
  have hof (c : Source.MarkedCall) (hc : present? c.parts.domain = none) :
      Source.MarkedCall.isOf domain c := by
    unfold Source.MarkedCall.isOf
    cases hgiven : c.parts.domain with
    | none => rfl
    | some given =>
      rw [hgiven, present?_some] at hc
      split at hc
      · rename_i hempty
        simp [String.isEmpty_iff.mp hempty]
      · cases hc
  exact Source.Reader.run_only hall fun c hc => hof c (hcalls c hc)

theorem codeMessagesAt_only {p : Place} (hall : g.options.domain = none)
    (hcalls : ∀ c ∈ g.callsAt start p, present? c.parts.domain = none) :
    (g.only domain).codeMessagesAt start p = g.codeMessagesAt start p := by
  unfold codeMessagesAt codeAt Source.messagesWith
  refine List.flatMap_congr fun code hcode => ?_
  have hrun := run_code_only domain hall fun c hc =>
    hcalls c (List.mem_flatMap.mpr ⟨code, hcode, hc⟩)
  exact congrArg (fun r => List.map _ (Prod.fst r).messages) hrun

theorem understands_only {p : Place} (hall : g.options.domain = none)
    (hcalls : ∀ c ∈ g.callsAt start p, present? c.parts.domain = none)
    (hcode : code ∈ p.codes g.engine)
    (h : g.Understands (g.keywords start) (start.line + feeds p.lead) code) :
    (g.only domain).Understands (g.keywords start) (start.line + feeds p.lead) code := by
  have hrun := run_code_only domain hall fun c hc =>
    hcalls c (List.mem_flatMap.mpr ⟨code, hcode, hc⟩)
  obtain ⟨hadded, hscan, hread⟩ := h
  exact ⟨hadded, hscan, (congrArg Prod.snd hrun).trans hread⟩

/-- Code without domains of its own can be read for one domain if it can be for all. -/
theorem readsAt_only {p : Place} (hall : g.options.domain = none)
    (hcalls : ∀ c ∈ g.callsAt start p, present? c.parts.domain = none) (h : g.ReadsAt start p) :
    (g.only domain).ReadsAt start p := by
  cases p with
  | attributes spot => trivial
  | content spot => trivial
  | tagCode spot =>
    intro entry hentry
    obtain ⟨decoded, hdecoded, hending, hcodes⟩ := h entry hentry
    refine ⟨decoded, hdecoded, hending, fun code hcode => ?_⟩
    refine understands_only hall hcalls (List.mem_flatMap.mpr ⟨entry, hentry, ?_⟩)
      (hcodes code hcode)
    unfold valueCodes
    rw [hdecoded]
    exact hcode
  | textCode path before text =>
    intro _ line hline
    obtain ⟨decoded, hdecoded, hending, hcodes⟩ := h (includes_of_none hall _) line hline
    refine ⟨decoded, hdecoded, hending, fun code hcode => ?_⟩
    refine understands_only hall hcalls (List.mem_flatMap.mpr ⟨line, hline, ?_⟩) (hcodes code hcode)
    unfold lineCodes
    rw [hdecoded]
    exact hcode

/-! ## Messages -/

theorem asks_only (g : Walker) (start : WalkState) (domain : String) (p : Place) :
    ((g.only domain).outset start).asks p.path = decide (g.domainAt start p = some domain) :=
  includes_only g domain (g.domainAt start p)

/-- The messages of code in a tag do not depend on the domain asked for, if no call has one. -/
theorem messagesAt_tagCode_only {spot : Spot} (hall : g.options.domain = none)
    (hcalls : ∀ c ∈ g.callsAt start (.tagCode spot), present? c.parts.domain = none) :
    (g.only domain).messagesAt start (.tagCode spot) = g.messagesAt start (.tagCode spot) :=
  codeMessagesAt_only hall hcalls

/-- Where another domain is in force, texts give nothing for the one asked for. -/
theorem messagesAt_only_of_ne {p : Place} (hplace : p.isTagCode = false)
    (hdomain : g.domainAt start p ≠ some domain) : (g.only domain).messagesAt start p = [] := by
  have hasks : ((g.only domain).outset start).asks p.path = false := by
    rw [asks_only]
    exact decide_eq_false hdomain
  cases p with
  | tagCode spot => cases hplace
  | attributes spot =>
    have hasks : ((g.only domain).outset start).asks spot.path = false := hasks
    unfold messagesAt Outset.attributeMessages
    dsimp only
    rw [hasks]
    rfl
  | textCode path before text =>
    have hasks : ((g.only domain).outset start).asks path = false := hasks
    unfold messagesAt
    dsimp only
    rw [hasks]
    rfl
  | content spot =>
    have hasks : ((g.only domain).outset start).asks spot.path = false := hasks
    unfold messagesAt Outset.contentMessage? Outset.offers
    dsimp only
    rw [hasks, Bool.and_false]
    cases spot.element.id? <;> rfl

theorem contentMessage?_only {spot : Spot} (hall : g.options.domain = none)
    (hdomain : g.domainAt start (.content spot) = some domain) :
    (((g.only domain).outset start).contentMessage? spot).map uncommented =
      ((g.outset start).contentMessage? spot).map uncommented := by
  have hasks : ((g.only domain).outset start).asks spot.path = (g.outset start).asks spot.path := by
    rw [asks_of_none hall]
    exact (asks_only g start domain (.content spot)).trans (decide_eq_true hdomain)
  have htext : ((g.only domain).outset start).text spot.element spot.around =
      (g.outset start).text spot.element spot.around :=
    congrArg (Element.text · spot.element) hasks
  have hoffers : ((g.only domain).outset start).offers spot = (g.outset start).offers spot := by
    unfold Outset.offers
    rw [htext, hasks]
    rfl
  unfold Outset.contentMessage?
  cases spot.element.id? with
  | none => rw [Option.bind_none, Option.bind_none]
  | some id =>
    rw [Option.bind_some, Option.bind_some, hoffers]
    cases (g.outset start).offers spot with
    | false => rw [if_neg Bool.false_ne_true, if_neg Bool.false_ne_true]
    | true =>
      have hmessage : uncommented (((g.only domain).outset start).contentMessage id spot) =
          uncommented ((g.outset start).contentMessage id spot) := by
        unfold uncommented Outset.contentMessage
        rw [htext]
        rfl
      exact congrArg some hmessage

/-- A place of the domain gives the same, apart from the comment on the content of an element. -/
theorem messagesAt_only_of_eq {p : Place} (hall : g.options.domain = none)
    (hcalls : ∀ c ∈ g.callsAt start p, present? c.parts.domain = none)
    (hdomain : g.domainAt start p = some domain) :
    ((g.only domain).messagesAt start p).map uncommented = (g.messagesAt start p).map uncommented ∧
      ((∀ spot, p ≠ .content spot) →
      (g.only domain).messagesAt start p = g.messagesAt start p) := by
  have hasks : ((g.only domain).outset start).asks p.path = true := by
    rw [asks_only]
    exact decide_eq_true hdomain
  cases p with
  | tagCode spot =>
    have hsame : (g.only domain).messagesAt start (.tagCode spot) = _ :=
      messagesAt_tagCode_only hall hcalls
    exact ⟨by rw [hsame], fun _ => hsame⟩
  | attributes spot =>
    have hsame : (g.only domain).messagesAt start (.attributes spot) =
        g.messagesAt start (.attributes spot) := by
      have hasks : ((g.only domain).outset start).asks spot.path = true := hasks
      unfold messagesAt Outset.attributeMessages
      dsimp only
      rw [hasks, asks_of_none hall]
      rfl
    exact ⟨by rw [hsame], fun _ => hsame⟩
  | textCode path before text =>
    have hsame : (g.only domain).messagesAt start (.textCode path before text) =
        g.messagesAt start (.textCode path before text) := by
      have hasks : ((g.only domain).outset start).asks path = true := hasks
      unfold messagesAt
      dsimp only
      rw [hasks, asks_of_none hall, codeMessagesAt_only hall hcalls]
    exact ⟨by rw [hsame], fun _ => hsame⟩
  | content spot =>
    refine ⟨?_, fun hcontent => absurd rfl (hcontent spot)⟩
    have hmessage := contentMessage?_only hall hdomain
    unfold messagesAt
    dsimp only
    rw [← Option.toList_map, hmessage, Option.toList_map]

end Walker

/-! ## Extractions -/

theorem run_extract_of_parse (options : Options) (file engine : String) {bytes : List UInt8}
    {text : List Char} {nodes : List Node} (hdecoded : decodeUtf8 bytes = .ok text)
    (hnodes : Node.parse text = .ok nodes) (s : Session) :
    let walk := (ExceptT.run (Walker.visitAll { options, file, engine } nodes)).run { session := s }
    (ExceptT.run (extract options file engine bytes)).run s =
      (walk.1.map fun _ => walk.2.messages, walk.2.session) := by
  rcases hwalk : (ExceptT.run (Walker.visitAll { options, file, engine } nodes)).run
    { session := s } with
    ⟨outcome, walked⟩
  unfold extract
  rw [hdecoded]
  dsimp only
  rw [hnodes]
  rw [ExceptT.run_bind, StateT.run_bind]
  change (ExceptT.run (get >>= _ : Job (List Message))).run s = _
  rw [run_get_bind]
  dsimp only [StateT.run, ExceptT.run] at hwalk ⊢
  rw [hwalk]
  cases outcome <;> rfl

/-- An extraction succeeds just if a walk through the nodes of the template does. -/
theorem exists_run_extract_iff {options : Options} {file engine : String} {bytes : List UInt8}
    {text : List Char} {nodes : List Node} (hdecoded : decodeUtf8 bytes = .ok text)
    (hnodes : Node.parse text = .ok nodes) {s : Session} {ms : List Message} :
    (∃ s', (ExceptT.run (extract options file engine bytes)).run s = (.ok ms, s')) ↔
      ∃ s', Reaches (Walker.visitAll { options, file, engine } nodes) { session := s } () s' ∧
        s'.messages = ms := by
  have hrun := run_extract_of_parse options file engine hdecoded hnodes s
  rcases hwalk : (ExceptT.run (Walker.visitAll { options, file, engine } nodes)).run
    { session := s } with
    ⟨outcome, walked⟩
  dsimp only at hrun
  rw [hwalk] at hrun
  unfold Reaches
  rw [hrun, hwalk]
  cases outcome with
  | error cause =>
    constructor
    · rintro ⟨s', h⟩
      cases h
    · rintro ⟨s', h, -⟩
      cases h
  | ok _ =>
    constructor
    · rintro ⟨s', h⟩
      cases h
      exact ⟨walked, rfl, rfl⟩
    · rintro ⟨s', h, rfl⟩
      cases h
      exact ⟨_, rfl⟩

/-- Suppose that all domains of a template can be extracted, and that no call in its code names a
domain. The messages are those of its places, in order. Then one domain can be extracted as well:
the places of this domain give their messages, those of other domains give none, but for the code in
attributes, and only the comments on contents may be others. So the result is just what comes from
the places of the domain if and only if no code in attributes of other domains gives a message and
no comment on a content changes. -/
theorem extract_places {options : Options} (hall : options.domain = none)
    (domain file engine : String)
    {bytes : List UInt8} {text : List Char} {nodes : List Node}
    (hdecoded : decodeUtf8 bytes = .ok text)
    (hnodes : Node.parse text = .ok nodes) {s s' : Session} {ms : List Message}
    (h : (ExceptT.run (extract options file engine bytes)).run s = (.ok ms, s')) :
    let g : Walker := { options, file, engine }
    let start : WalkState := { session := s }
    let places := Node.allPlaces [] [] nodes
    let isOf (p : Place) : Bool := g.domainAt start p = some domain
    let chosen := (g.only domain).messagesAt start
    (∀ p ∈ places, ∀ c ∈ g.callsAt start p, present? c.parts.domain = none) →
      ms = places.flatMap (g.messagesAt start) ∧
      (∃ s'',
        (ExceptT.run (extract { options with domain := some domain } file engine bytes)).run s =
          (.ok (places.flatMap chosen), s'')) ∧
      (∀ p ∈ places,
        (p.isTagCode → chosen p = g.messagesAt start p) ∧
        (¬ p.isTagCode → ¬ isOf p → chosen p = []) ∧
        (isOf p → (chosen p).map uncommented = (g.messagesAt start p).map uncommented)) ∧
      (places.flatMap chosen = (places.filter isOf).flatMap (g.messagesAt start) ↔
        (∀ spot, .tagCode spot ∈ places → ¬ isOf (.tagCode spot) →
          g.messagesAt start (.tagCode spot) = []) ∧
        (∀ spot, .content spot ∈ places → isOf (.content spot) →
          chosen (.content spot) = g.messagesAt start (.content spot))) := by
  intro g start places isOf chosen hcalls
  obtain ⟨hreads, hmessages⟩ :=
    reaches_visitAll_iff.mp ((exists_run_extract_iff hdecoded hnodes).mp ⟨s', h⟩)
  have hsame (p : Place) (hp : p ∈ places) (htag : p.isTagCode = true) :
      chosen p = g.messagesAt start p := by
    cases p with
    | tagCode spot => exact Walker.messagesAt_tagCode_only hall (hcalls _ hp)
    | attributes spot | textCode path before text | content spot => cases htag
  have hnone (p : Place) (htag : ¬ p.isTagCode = true) (hother : ¬ isOf p = true) : chosen p = [] :=
    Walker.messagesAt_only_of_ne (by simpa using htag) (by simpa [isOf] using hother)
  have hours (p : Place) (hp : p ∈ places) (hof : isOf p = true) :=
    Walker.messagesAt_only_of_eq hall (hcalls p hp) (of_decide_eq_true hof)
  refine ⟨hmessages.symm, ?_, fun p hp => ⟨hsame p hp, hnone p, fun hof => (hours p hp hof).1⟩, ?_⟩
  · -- No code has a domain of its own, so what can be read for all can be read for one.
    have hreads' (p : Place) (hp : p ∈ places) : (g.only domain).ReadsAt start p :=
      Walker.readsAt_only hall (hcalls p hp) (hreads p hp)
    have hwalk := reaches_visitAll_iff.mpr ⟨hreads', rfl⟩
    exact (exists_run_extract_iff hdecoded hnodes).mpr hwalk
  · -- Each place gives at least as many messages as the filter would leave.
    have hlength (p : Place) (hp : p ∈ places) :
        (if isOf p = true then g.messagesAt start p else []).length ≤ (chosen p).length := by
      by_cases hof : isOf p = true
      · have hmap : ((chosen p).map uncommented).length =
            ((g.messagesAt start p).map uncommented).length :=
              congrArg List.length (hours p hp hof).1
        rw [List.length_map, List.length_map] at hmap
        rw [if_pos hof]
        omega
      · rw [if_neg hof]
        exact Nat.zero_le _
    rw [flatMap_filter, flatMap_eq_flatMap_iff hlength]
    constructor
    · intro heach
      refine ⟨fun spot hspot hother => ?_, fun spot hspot hof => ?_⟩
      · rw [← hsame _ hspot rfl, heach _ hspot, if_neg hother]
      · rw [heach _ hspot, if_pos hof]
    · rintro ⟨htags, hcontents⟩ p hp
      by_cases hof : isOf p = true
      · rw [if_pos hof]
        cases p with
        | content spot => exact hcontents spot hp hof
        | attributes spot | tagCode spot | textCode path before text =>
          exact (hours _ hp hof).2 nofun
      · rw [if_neg hof]
        cases p with
        | tagCode spot => rw [hsame _ hp rfl, htags spot hp hof]
        | attributes spot | content spot | textCode path before text => exact hnone _ nofun hof

def twoDomains : List Char :=
  ("<html i18n:domain=\"a\"><p i18n:translate=\"\">one</p>" ++
    "<p i18n:domain=\"b\" i18n:translate=\"\">two</p>$\x7b_('x')\x7d</html>").toList

/-- Code in an attribute of an element, whose domain is not that of the element around it. -/
def codeInside : List Char :=
  "<html i18n:domain=\"a\"><p i18n:domain=\"b\" title=\"$\x7b_('x')\x7d\"></p></html>".toList

def nodesOf (text : List Char) : List Node := (Node.parse text).toOption.getD []

theorem parse_eq_nodesOf {text : List Char} (h : (Node.parse text).toBool = true) :
    Node.parse text = .ok (nodesOf text) := by
  unfold nodesOf
  cases hparse : Node.parse text with
  | ok nodes => rfl
  | error cause =>
    rw [hparse] at h
    cases h

theorem extract_places_twoDomains :
    (∀ p ∈ Node.allPlaces [] [] (nodesOf twoDomains),
      ∀ c ∈ Walker.callsAt { engine := "python" } {} p, present? c.parts.domain = none) ∧
    ((ExceptT.run (extract {} "f" "python" (encodeUtf8 twoDomains))).run {}).1 =
      .ok [{ text := some "one", location := ⟨"f", 1⟩ },
        { text := some "two", location := ⟨"f", 1⟩ },
        { text := some "x", location := ⟨"f", 3⟩ }] ∧
    ((ExceptT.run (extract { domain := some "a" } "f" "python" (encodeUtf8 twoDomains))).run {}).1 =
      .ok [{ text := some "one", location := ⟨"f", 1⟩ },
          { text := some "x", location := ⟨"f", 3⟩ }] := by
  have hcalls : ∀ p ∈ Node.allPlaces [] [] (nodesOf twoDomains),
      ∀ c ∈ Walker.callsAt { engine := "python" } {} p, present? c.parts.domain = none := by
    decide +kernel
  have hdecoded := decodeUtf8_encodeUtf8 twoDomains
  have hnodes : Node.parse twoDomains = .ok (nodesOf twoDomains) :=
    parse_eq_nodesOf (by decide +kernel)
  have hmessages : ((ExceptT.run (extract {} "f" "python" (encodeUtf8 twoDomains))).run {}).1 =
      .ok [{ text := some "one", location := ⟨"f", 1⟩ },
        { text := some "two", location := ⟨"f", 1⟩ },
        { text := some "x", location := ⟨"f", 3⟩ }] := by decide +kernel
  have h := Prod.fst_eq_iff.mp hmessages
  obtain ⟨-, ⟨s'', hchosen⟩, -, -⟩ := extract_places rfl "a" "f" "python" hdecoded hnodes h hcalls
  refine ⟨hcalls, hmessages, (congrArg Prod.fst hchosen).trans (congrArg Except.ok ?_)⟩
  decide +kernel

/-- The message of code in an attribute is given although the domain that holds there is not asked
for. -/
theorem extract_other_domain :
    ((ExceptT.run (extract { domain := some "a" } "f" "python" (encodeUtf8 codeInside))).run {}).1 =
      .ok [{ text := some "x", location := ⟨"f", 3⟩ }] ∧
    ∀ p ∈ Node.allPlaces [] [] (nodesOf codeInside),
      Walker.domainAt { engine := "python" } {} p = some "a" →
        Walker.messagesAt { engine := "python" } {} p = [] := by
  decide +kernel

end Harvest.Template
