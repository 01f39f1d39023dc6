import Harvest.Proofs.Source.LineOffset
import Harvest.Proofs.Template.Interpolations
import Harvest.Proofs.Template.Survey
import Mathlib.Data.List.Flatten

/-!
# Code in a text and code in an attribute

The same expression may stand in a text and in the value of an attribute. Of an attribute all
alternatives of the expression are read, of a text only those in which a call of the underscore is
written. So a text gives no more than an attribute, and it gives the same just if the other
alternatives give nothing.
-/

namespace Harvest.Template

open Text Walk

/-! ## What messages say -/

abbrev Wording := Option String × Option String × Option String

def wording (m : Message) : Wording := (m.context, m.text, m.plural)

theorem Draft.wording_finishIn (sentence : Option String) (d : Draft) :
    wording (d.finishIn sentence).message = wording d.message := by
  obtain ⟨comment, inSentence, h⟩ := d.exists_finishIn sentence
  rw [h]
  rfl

/-- The walk succeeds and adds messages that say this to the innermost element. -/
def Walk.Adds (w : Walk PUnit) (s : WalkState) (said : List Wording) : Prop :=
  ∃ s' found, Reaches w s () s' ∧ s'.frame.drafts = s.frame.drafts ++ found ∧
    found.map (fun d => wording d.message) = said

variable {g : Walker} {s : WalkState} {keywords : KeywordTable} {line : Int} {code e : List Char}

/-- A node adds what the messages of its places say. -/
theorem visit_adds_iff {node : Node} {said : List Wording} :
    Adds (g.visit node) s said ↔
      (∀ p ∈ node.places [] [], g.ReadsAt s p) ∧
        (node.places [] []).flatMap (fun p => (g.messagesAt s p).map wording) = said := by
  have hat := g.at_start s
  have hwordings {found : List Draft} {sentence : Option String}
      (hfound : found.map (Draft.finishIn sentence) = (node.places [] []).flatMap (g.draftsAt s)) :
      found.map (fun d => wording d.message) =
        (node.places [] []).flatMap fun p => (g.messagesAt s p).map wording :=
    calc found.map (fun d => wording d.message)
      _ = (found.map (Draft.finishIn sentence)).map (fun d => wording d.message) := by
        rw [List.map_map]
        exact List.map_congr_left fun d _ => (d.wording_finishIn sentence).symm
      _ = ((node.places [] []).flatMap (g.draftsAt s)).map
        (fun d => wording d.message) := by rw [hfound]
      _ = (((node.places [] []).flatMap (g.draftsAt s)).map (·.message)).map wording := by
        rw [List.map_map]
        rfl
      _ = _ := by rw [g.message_draftsAt, List.map_flatMap]
  rw [← visit_succeeds_iff node hat rfl]
  constructor
  · rintro ⟨s', found, h, hdrafts, rfl⟩
    obtain ⟨others, hothers, hdrafts'⟩ := (visit_surveys node hat rfl h).frame
    have hsame : found = others := List.append_cancel_left (hdrafts.symm.trans hdrafts')
    rw [← hsame] at hothers
    exact ⟨⟨s', h⟩, (hwordings hothers).symm⟩
  · rintro ⟨⟨s', h⟩, rfl⟩
    obtain ⟨found, hfound, hdrafts⟩ := (visit_surveys node hat rfl h).frame
    exact ⟨s', found, h, hdrafts, hwordings hfound⟩

/-! ## Code on another line -/

namespace Walker

theorem understands_of_line (h : g.Understands keywords line code) (line' : Int) :
    g.Understands keywords line' code ∧
      (g.codeAt keywords line' code).map wording = (g.codeAt keywords line code).map wording := by
  obtain ⟨hadded, hscan, hread⟩ := h
  obtain ⟨hfault, hbelow⟩ :=
    Source.Reader.run_below ⟨g.options, keywords, g.file, line⟩ (line' - line)
    (Source.scan (Source.textLines code)).tokens
  have hline : (Source.Reading.mk g.options keywords g.file line).below (line' - line) =
      ⟨g.options, keywords, g.file, line'⟩ := by
    have hsum : line + (line' - line) = line' := by omega
    exact congrArg (Source.Reading.mk g.options keywords g.file) hsum
  rw [hline] at hfault hbelow
  refine ⟨⟨hadded, hscan, hfault.trans hread⟩, ?_⟩
  unfold codeAt Source.messagesWith
  rw [hbelow.messages, List.map_map, List.map_map, List.map_map]
  rfl

theorem understands_line_iff (line line' : Int) :
    g.Understands keywords line' code ↔ g.Understands keywords line code :=
  ⟨fun h => (understands_of_line h line).1, fun h => (understands_of_line h line').1⟩

end Walker

/-! ## An expression in a text -/

def insertion (e : List Char) : String := String.ofList ('$' :: '\x7b' :: e ++ ['\x7d'])

/-- An expression that can be written so: it is on one line, and it holds no closing brace and no
character reference. -/
structure Inline (e : List Char) : Prop where
  line : ∀ c ∈ e, isLineEnd c = false
  brace : '\x7d' ∉ e
  reference : ∀ rest, '&' :: rest <:+ e → reference? rest = none

theorem referenceBody?_append_brace (s : List Char) :
    referenceBody? (s ++ ['\x7d']) = referenceBody? s := by
  have hword : isWord '\x7d' = false := by decide
  have hbody : (s ++ ['\x7d']).takeWhile isWord = s.takeWhile isWord := by
    rw [List.takeWhile_append]
    by_cases hall : (s.takeWhile isWord).length = s.length
    · rw [if_pos hall, (List.takeWhile_prefix isWord).eq_of_length hall]
      simp [hword]
    · rw [if_neg hall]
  have hlength : (s.takeWhile isWord).length ≤ s.length := (List.takeWhile_prefix isWord).length_le
  have hnext : ((s ++ ['\x7d']).drop (s.takeWhile isWord).length).head? = some ';' ↔
      (s.drop (s.takeWhile isWord).length).head? = some ';' := by
    rw [List.drop_append_of_le_length hlength]
    cases s.drop (s.takeWhile isWord).length <;> simp
  unfold referenceBody?
  simp only [hbody, hnext]

theorem unmarkedReference?_append_brace (numeric : Bool) (s : List Char) :
    unmarkedReference? numeric (s ++ ['\x7d']) = unmarkedReference? numeric s := by
  cases s with
  | nil => rfl
  | cons c cs =>
    have hplain := referenceBody?_append_brace (c :: cs)
    unfold unmarkedReference?
    rw [hplain]
    by_cases hc : c = 'x'
    · subst hc
      simp only [List.cons_append, referenceBody?_append_brace]
    · simp [hc]

theorem reference?_append_brace (s : List Char) : reference? (s ++ ['\x7d']) = reference? s := by
  cases s with
  | nil => rfl
  | cons c cs =>
    by_cases hc : c = '#'
    · subst hc
      exact unmarkedReference?_append_brace true cs
    · have hmarked := unmarkedReference?_append_brace false (c :: cs)
      rw [reference?, reference?, hmarked]
      · simpa using hc
      · simpa using hc

theorem decodeFrom_append_brace (he : ∀ rest, '&' :: rest <:+ e → reference? rest = none) :
    decodeFrom 0 (e ++ ['\x7d']) = .ok (e ++ ['\x7d']) := by
  induction e with
  | nil => rfl
  | cons c cs ih =>
    have hcs := ih fun rest hrest => he rest (hrest.trans (List.suffix_cons c cs))
    have hnone : (if c = '&' then reference? (cs ++ ['\x7d']) else none) = none := by
      by_cases hc : c = '&'
      · rw [if_pos hc, reference?_append_brace]
        exact he cs (hc ▸ List.suffix_rfl)
      · rw [if_neg hc]
    rw [List.cons_append, decodeFrom, hnone, hcs]
    rfl

namespace Inline

theorem decodeReferences_insertion (he : Inline e) :
    decodeReferences (insertion e).toList = .ok (insertion e).toList := by
  unfold decodeReferences insertion
  rw [String.toList_ofList, List.cons_append, List.cons_append, decodeFrom, decodeFrom]
  simp only [decodeFrom_append_brace he.reference]
  rfl

theorem lines_insertion (he : Inline e) : lines (insertion e).toList = [(insertion e).toList] := by
  have hends : ∀ c ∈ (insertion e).toList, isLineEnd c = false := by
    unfold insertion
    rw [String.toList_ofList]
    intro c hc
    simp only [List.cons_append, List.mem_cons, List.mem_append, List.not_mem_nil, or_false] at hc
    rcases hc with rfl | rfl | hc | rfl
    · rfl
    · rfl
    · exact he.line c hc
    · rfl
  have hne : (insertion e).toList ≠ [] := by
    unfold insertion
    rw [String.toList_ofList]
    exact List.cons_ne_nil _ _
  exact lines_of_notEnd hne hends

/-- An expression is taken as a whole, and its alternatives are found if they are valid. -/
theorem interpolations_insertion (he : Inline e) (engine : String) :
    interpolations Source.verdict engine (insertion e).toList =
      if verdictOfAll Source.verdict (searchedCodes engine e) = .valid then
        { codes := searchedCodes engine e }
      else { ending := verdictOfAll Source.verdict (searchedCodes engine e) } := by
  have htext : (insertion e).toList = [] ++ '$' :: '\x7b' :: (e ++ ['\x7d']) := by
    unfold insertion
    rw [String.toList_ofList]
    rfl
  exact interpolations_of_only _ _ ⟨⟨htext, nofun, by simp⟩, fun _ => Nat.zero_le _⟩ he.brace

end Inline

/-! ## The two places of an expression -/

theorem Node.places_of_element? {node : Node} {el : Element} (hnode : node.element? = some el)
    (path : List Element) (before : List Char) :
    node.places path before = Place.ofElement ⟨el, path, before⟩
      (Node.allPlaces (el :: path) (before ++ el.tag.written) el.children) := by
  cases node with
  | element start stop children =>
    cases hnode
    rw [Node.places]
  | startTag tag =>
    cases hnode
    rw [Node.places, Node.allPlaces]
  | text | comment | characterData | instruction | declaration | unknown => cases hnode

def QualifiedName.IsPlain (name : QualifiedName) : Prop :=
  name.space ≠ .statements ∧ name.space ≠ .internationalization

section

variable {name : QualifiedName} {said : List Wording}

theorem Inline.interpolations_valid_iff (he : Inline e) {engine : String} :
    (interpolations Source.verdict engine (insertion e).toList).ending = .valid ↔
      verdictOfAll Source.verdict (searchedCodes engine e) = .valid := by
  rw [he.interpolations_insertion]
  split
  · rename_i hvalid
    exact iff_of_true rfl hvalid
  · exact Iff.rfl

theorem Inline.codes_of_valid (he : Inline e) {engine : String}
    (hvalid : verdictOfAll Source.verdict (searchedCodes engine e) = .valid) :
    (interpolations Source.verdict engine (insertion e).toList).codes = searchedCodes engine e := by
  rw [he.interpolations_insertion, if_pos hvalid]

theorem attributeCodes_of_plain (hname : name.IsPlain) (engine : String) (value : List Char) :
    attributeCodes engine name value = interpolatedCodes engine value := if_neg hname.1

theorem CodeEnd.ofVerdict_eq_done_iff {code : List Char} {verdict : Source.Verdict} :
    CodeEnd.ofVerdict code verdict = .done ↔ verdict = .valid := by
  cases verdict <;> simp [CodeEnd.ofVerdict]

/-- The codes that are kept of those in the text are kept of the alternatives. -/
theorem Inline.reads_iff (he : Inline e) {engine : String}
    (keep : List (List Char) → List (List Char)) {P : List Char → Prop} :
    (∃ decoded, decodeReferences (insertion e).toList = .ok decoded ∧
      (interpolations Source.verdict engine decoded).ending = .valid ∧
      ∀ code ∈ keep (interpolations Source.verdict engine decoded).codes, P code) ↔
    verdictOfAll Source.verdict (searchedCodes engine e) = .valid ∧
      ∀ code ∈ keep (searchedCodes engine e), P code := by
  rw [he.decodeReferences_insertion]
  constructor
  · rintro ⟨decoded, hdecoded, hending, hcodes⟩
    cases hdecoded
    have hvalid := he.interpolations_valid_iff.mp hending
    rw [he.codes_of_valid hvalid] at hcodes
    exact ⟨hvalid, hcodes⟩
  · rintro ⟨hvalid, hcodes⟩
    refine ⟨_, rfl, he.interpolations_valid_iff.mpr hvalid, ?_⟩
    rw [he.codes_of_valid hvalid]
    exact hcodes

/-- In a text, codes without a mark are not read. -/
theorem Inline.readsLine_iff (he : Inline e) :
    g.ReadsLine keywords line (insertion e).toList ↔
      verdictOfAll Source.verdict (searchedCodes g.engine e) = .valid ∧
        ∀ code ∈ (searchedCodes g.engine e).filter Walker.hasMark,
          g.Understands keywords line code :=
  he.reads_iff (List.filter Walker.hasMark)

/-- In an attribute, all codes are read, marked or not. -/
theorem Inline.readsValue_iff (he : Inline e) (hname : name.IsPlain) :
    g.ReadsValue keywords line name (insertion e) ↔
      verdictOfAll Source.verdict (searchedCodes g.engine e) = .valid ∧
        ∀ code ∈ searchedCodes g.engine e, g.Understands keywords line code := by
  unfold Walker.ReadsValue
  simp only [attributeCodes_of_plain hname, interpolatedCodes, CodeEnd.ofVerdict_eq_done_iff]
  exact he.reads_iff id

/-- The codes of a text are those of its interpolation that have a mark. -/
theorem Inline.lineCodes_eq (he : Inline e) {engine : String}
    (hvalid : verdictOfAll Source.verdict (searchedCodes engine e) = .valid) :
    lineCodes engine (insertion e).toList = (searchedCodes engine e).filter Walker.hasMark := by
  unfold lineCodes
  rw [he.decodeReferences_insertion]
  exact congrArg (List.filter Walker.hasMark) (he.codes_of_valid hvalid)

/-- The codes of an attribute are all those of its interpolation. -/
theorem Inline.valueCodes_eq (he : Inline e) (hname : name.IsPlain) {engine : String}
    (hvalid : verdictOfAll Source.verdict (searchedCodes engine e) = .valid) :
    valueCodes engine name (insertion e) = searchedCodes engine e := by
  unfold valueCodes
  simp only [attributeCodes_of_plain hname]
  rw [he.decodeReferences_insertion]
  exact he.codes_of_valid hvalid

/-- A text with one interpolation adds what its codes say, just if all of them are valid and can be
read. -/
theorem Inline.visit_text_adds_iff (hall : g.options.domain = none) (he : Inline e) :
    Adds (g.visit (.text (insertion e))) s said ↔
      verdictOfAll Source.verdict (searchedCodes g.engine e) = .valid ∧
        (∀ code ∈ (searchedCodes g.engine e).filter Walker.hasMark,
          g.Understands (g.keywords s) s.line code) ∧
        ((searchedCodes g.engine e).filter Walker.hasMark).flatMap
          (fun code => (g.codeAt (g.keywords s) s.line code).map wording) = said := by
  have hasks : (g.outset s).asks [] = true := Walker.asks_of_none hall []
  have hline : s.line + feeds [] = s.line := Int.add_zero _
  have hreads : g.ReadsAt s (.textCode [] [] (insertion e)) ↔
      g.ReadsLine (g.keywords s) s.line (insertion e).toList := by
    unfold Walker.ReadsAt
    simp only [hasks, he.lines_insertion, List.forall_mem_singleton, Place.lead,
      hline, forall_const]
  have hmessages (hvalid : verdictOfAll Source.verdict (searchedCodes g.engine e) = .valid) :
      g.messagesAt s (.textCode [] [] (insertion e)) =
        ((searchedCodes g.engine e).filter Walker.hasMark).flatMap
            (g.codeAt (g.keywords s) s.line) := by
    unfold Walker.messagesAt Walker.codeMessagesAt
    simp only [hasks, Place.codes, he.lines_insertion, List.flatMap_singleton,
      he.lineCodes_eq hvalid,
      Place.lead, hline]
    rfl
  rw [visit_adds_iff, Node.places, List.forall_mem_singleton, List.flatMap_singleton, hreads,
    he.readsLine_iff, and_assoc]
  refine and_congr_right fun hvalid => and_congr_right fun _ => ?_
  rw [hmessages hvalid, List.map_flatMap]

/-- What an element adds with an expression in its only attribute. -/
theorem Inline.visit_element_adds_iff {node : Node} {tag : Tag} (he : Inline e)
    (hnode : node.element? = some ⟨tag, []⟩) (htag : tag.qualified = [(name, insertion e)])
    (hname : name.IsPlain) :
    Adds (g.visit node) s said ↔
      verdictOfAll Source.verdict (searchedCodes g.engine e) = .valid ∧
        (∀ code ∈ searchedCodes g.engine e, g.Understands (g.keywords s) s.line code) ∧
        (searchedCodes g.engine e).flatMap
          (fun code => (g.codeAt (g.keywords s) s.line code).map wording) = said := by
  -- The attribute says nothing about translation.
  have hsilent (key : String) : tag.get? .internationalization key = none := by
    have hkey : (⟨.internationalization, key⟩ : QualifiedName) ≠ name := by
      rintro rfl
      exact hname.2 rfl
    unfold Tag.get?
    rw [htag, Assoc.lookup_cons, if_neg hkey, List.lookup_nil]
  have hattributes : g.messagesAt s (.attributes ⟨⟨tag, []⟩, [], []⟩) = [] := by
    simp [Walker.messagesAt, Outset.attributeMessages, Element.says?, hsilent, present?]
  have hcontent : g.messagesAt s (.content ⟨⟨tag, []⟩, [], []⟩) = [] := by
    simp [Walker.messagesAt, Outset.contentMessage?, Element.id?, hsilent]
  have hreads : (∀ p ∈ node.places [] [], g.ReadsAt s p) ↔
      g.ReadsValue (g.keywords s) (s.line + feeds tag.lead) name (insertion e) := by
    rw [Node.places_of_element? hnode, forall_mem_ofElement, Node.allPlaces]
    unfold Walker.ReadsAt
    simp only [htag, List.forall_mem_singleton, List.not_mem_nil, false_implies,
      implies_true, and_true]
    rfl
  have hmessages (hvalid : verdictOfAll Source.verdict (searchedCodes g.engine e) = .valid) :
      g.messagesAt s (.tagCode ⟨⟨tag, []⟩, [], []⟩) =
        (searchedCodes g.engine e).flatMap (g.codeAt (g.keywords s) (s.line + feeds tag.lead)) := by
    unfold Walker.messagesAt Walker.codeMessagesAt
    simp only [Place.codes, htag, List.flatMap_singleton, he.valueCodes_eq hname hvalid]
    rfl
  have hplaces : (node.places [] []).flatMap (fun p => (g.messagesAt s p).map wording) =
      (g.messagesAt s (.tagCode ⟨⟨tag, []⟩, [], []⟩)).map wording := by
    rw [Node.places_of_element? hnode, Node.allPlaces]
    simp [Place.ofElement, hattributes, hcontent]
  rw [visit_adds_iff, hreads, hplaces, he.readsValue_iff hname, and_assoc]
  -- The name of a tag may end on a line further down, but what the code says is the same there.
  simp only [Walker.understands_line_iff s.line]
  refine and_congr_right fun hvalid => and_congr_right fun hcodes => ?_
  rw [hmessages hvalid, List.map_flatMap]
  rw [List.flatMap_congr fun code hcode => (Walker.understands_of_line (hcodes code hcode) _).2]

end

/-- When all domains are extracted, an element with an expression in a plain attribute adds what all
alternatives of the expression say, and a text with the expression what those say in which a call of
the underscore is written. So where the element can be read the text can, and it adds a part of the
same. They add the same, or both nothing because they fail, if and only if, where the text can be
read, the other alternatives can be read too and say nothing. -/
theorem visit_text_attribute (g : Walker) (s : WalkState)
    (hall : g.options.domain = none) {e : List Char}
    (he : Inline e) {node : Node} {tag : Tag} {name : QualifiedName}
    (hnode : node.element? = some ⟨tag, []⟩) (htag : tag.qualified = [(name, insertion e)])
    (hname : name.IsPlain) :
    let codes := searchedCodes g.engine e
    let reads (code : List Char) := g.Understands (g.keywords s) s.line code
    let tells (code : List Char) := (g.codeAt (g.keywords s) s.line code).map wording
    let ofElement := Adds (g.visit node) s
    let ofText := Adds (g.visit (.text (insertion e))) s
    (∀ said, ofElement said ↔ verdictOfAll Source.verdict codes = .valid ∧
      (∀ code ∈ codes, reads code) ∧ codes.flatMap tells = said) ∧
    (∀ said, ofText said ↔ verdictOfAll Source.verdict codes = .valid ∧
      (∀ code ∈ codes.filter Walker.hasMark, reads code) ∧
        (codes.filter Walker.hasMark).flatMap tells = said) ∧
    (∀ said, ofElement said → ∃ said', ofText said' ∧ said'.Sublist said) ∧
    ((∀ said, ofElement said ↔ ofText said) ↔
      ((∃ said, ofText said) → ∀ code ∈ codes, ¬ Walker.hasMark code → reads code ∧
          tells code = [])) := by
  intro codes reads tells ofElement ofText
  have helement (said) : ofElement said ↔ verdictOfAll Source.verdict codes = .valid ∧
      (∀ code ∈ codes, reads code) ∧ codes.flatMap tells = said :=
    he.visit_element_adds_iff hnode htag hname
  have htext (said) : ofText said ↔ verdictOfAll Source.verdict codes = .valid ∧
      (∀ code ∈ codes.filter Walker.hasMark, reads code) ∧
        (codes.filter Walker.hasMark).flatMap tells = said :=
    he.visit_text_adds_iff hall
  have hmarked (hreads : ∀ code ∈ codes, reads code) :
      ∀ code ∈ codes.filter Walker.hasMark, reads code :=
    fun code hcode => hreads code (List.mem_of_mem_filter hcode)
  -- Both say the same just if the codes without a mark say nothing.
  have hsame := flatMap_eq_flatMap_filter_iff Walker.hasMark tells codes
  refine ⟨helement, htext, ?_, ?_⟩
  · intro said h
    obtain ⟨hvalid, hreads, rfl⟩ := (helement said).mp h
    exact ⟨_, (htext _).mpr ⟨hvalid, hmarked hreads, rfl⟩, List.filter_sublist.flatMap tells⟩
  · constructor
    · rintro hagree ⟨said, h⟩ code hcode hmark
      obtain ⟨-, hreads, hsaid⟩ := (helement said).mp ((hagree said).mpr h)
      obtain ⟨-, -, hsaid'⟩ := (htext said).mp h
      exact ⟨hreads code hcode, hsame.mp (hsaid.trans hsaid'.symm) code hcode hmark⟩
    · intro hsilent said
      rw [helement, htext]
      refine and_congr_right fun hvalid => ?_
      constructor
      · rintro ⟨hreads, rfl⟩
        have hothers := hsilent ⟨_, (htext _).mpr ⟨hvalid, hmarked hreads, rfl⟩⟩
        exact ⟨hmarked hreads,
          (hsame.mpr fun code hcode hmark => (hothers code hcode hmark).2).symm⟩
      · rintro ⟨hreads, rfl⟩
        have hothers := hsilent ⟨_, (htext _).mpr ⟨hvalid, hreads, rfl⟩⟩
        refine ⟨fun code hcode => ?_, hsame.mpr fun code hcode hmark =>
          (hothers code hcode hmark).2⟩
        by_cases hmark : Walker.hasMark code = true
        · exact hreads code (List.mem_filter.mpr ⟨hcode, hmark⟩)
        · exact (hothers code hcode hmark).1

def titled (e : List Char) : Tag :=
  { name := "p"
    suffix := some "/>"
    attributes := [⟨" ", "title", "=", "\"", insertion e⟩]
    qualified := [(⟨.plain, "title"⟩, insertion e)] }

/-- A call of the underscore, and an alternative that calls nothing. -/
def callOrName : List Char := "_('x') | n".toList

def otherCall : List Char := "gettext('x')".toList

theorem inline_of_notMem (hline : e.all (fun c => !isLineEnd c)) (hbrace : '\x7d' ∉ e)
    (hreference : '&' ∉ e) : Inline e where
  line c hc := by simpa using List.all_eq_true.mp hline c hc
  brace := hbrace
  reference _ hrest := absurd (hrest.subset List.mem_cons_self) hreference

theorem visit_text_attribute_callOrName :
    Inline callOrName ∧
    (∀ said, Adds (Walker.visit { engine := "python" } (.element (titled callOrName) none []))
    {} said ↔
      Adds (Walker.visit { engine := "python" } (.text (insertion callOrName))) {} said) ∧
    Adds (Walker.visit { engine := "python" } (.text (insertion callOrName))) {}
      [(none, some "x", none)] := by
  have he : Inline callOrName := inline_of_notMem (by decide) (by decide) (by decide)
  have hname : QualifiedName.IsPlain ⟨.plain, "title"⟩ := ⟨nofun, nofun⟩
  have hnode : Node.element? (.element (titled callOrName) none []) =
    some ⟨titled callOrName, []⟩ := rfl
  obtain ⟨-, htext, -, hagree⟩ :=
    visit_text_attribute { engine := "python" } {} rfl he hnode rfl hname
  refine ⟨he, hagree.mpr fun _ => ?_, (htext _).mpr ?_⟩
  · unfold Walker.Understands
    decide +kernel
  · unfold Walker.Understands
    decide +kernel

/-- A call of another keyword is found in an attribute and not in a text. -/
theorem visit_otherCall :
    Inline otherCall ∧ Source.verdict otherCall = .valid ∧
    Adds (Walker.visit { engine := "python" } (.element (titled otherCall) none [])) {}
      [(none, some "x", none)] ∧
    ¬ Adds (Walker.visit { engine := "python" } (.text (insertion otherCall))) {}
      [(none, some "x", none)] := by
  have he : Inline otherCall := inline_of_notMem (by decide) (by decide) (by decide)
  have hname : QualifiedName.IsPlain ⟨.plain, "title"⟩ := ⟨nofun, nofun⟩
  have hnode : Node.element? (.element (titled otherCall) none []) =
    some ⟨titled otherCall, []⟩ := rfl
  refine ⟨he, by decide +kernel, (he.visit_element_adds_iff hnode rfl hname).mpr ?_, fun h => ?_⟩
  · unfold Walker.Understands
    decide +kernel
  · obtain ⟨-, -, hsaid⟩ := (he.visit_text_adds_iff rfl).mp h
    revert hsaid
    decide +kernel

end Harvest.Template
