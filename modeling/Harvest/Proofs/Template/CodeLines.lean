import Harvest.Proofs.Keywords
import Harvest.Proofs.Source.CallSites
import Harvest.Proofs.Source.ReaderRuns
import Harvest.Proofs.Template.CodeSites
import Harvest.Proofs.Template.Messages

/-!
# The lines of messages in code

A walk reads all code of a template, in order. The line on which a text starts, or on which the name
of a tag ends, is added twice to the row of a call: once when the code is read, and once more when
its messages are added.
-/

namespace Harvest.Template

open Text Walk

def Walker.codeAt (g : Walker) (keywords : KeywordTable) (line : Int) (code : List Char) :
    List Message :=
  (Source.messagesWith g.options keywords g.file line code).map (·.shift line)

/-- The messages of a piece of code in a template that starts on this line. -/
def Walker.codeMessages (g : Walker) (keywords : KeywordTable) (line : Int) (site : CodeSite) :
    List Message :=
  g.codeAt keywords (line + feeds site.before) site.code

/-! ## Reading code -/

/-- Once the specifications are added, these are the keywords of the session. -/
def Makes (specs : List String) (keywords : KeywordTable) (s : Session) : Prop :=
  (s.keywords.addSpecs specs).1 = keywords

theorem run_extractText_ok {options : Options} {keywords : KeywordTable} {file : String}
    {firstLine : Int} {code : List Char} {s s' : Session} {ms : List Message}
    (hs : Makes options.keywords keywords s)
    (h : (ExceptT.run (Source.extractText options file firstLine code)).run s = (.ok ms, s')) :
    Makes options.keywords keywords s' ∧
      ms = Source.messagesWith options keywords file firstLine code := by
  obtain ⟨added, r, hadded, -, hread, rfl, rfl⟩ := Source.run_extract_ok_iff.mp h
  obtain rfl : added = keywords := (congrArg Prod.fst hadded).symm.trans hs
  constructor
  · -- To add the specifications once more changes nothing.
    have hagain := KeywordTable.addSpecs_addSpecs (congrArg Prod.snd hadded)
    rw [hadded] at hagain
    rw [Makes, Source.keywords_warned]
    exact congrArg Prod.fst hagain
  · rw [Source.messagesWith, hread]

/-! ## Walks -/

def ofCode (ds : List Draft) : List Draft := ds.filter (·.origin = .code)

theorem ofCode_append (ds es : List Draft) : ofCode (ds ++ es) = ofCode ds ++ ofCode es :=
  List.filter_append ..

/-- From one state to the next these messages have been found in code. -/
structure Finds (specs : List String) (keywords : KeywordTable) (ms : List Message)
    (s s' : WalkState) : Prop where
  makes : Makes specs keywords s'.session
  frame : ∃ found, ofCode found = ms.map (⟨.code, ·, false⟩) ∧
    s'.frame.drafts = s.frame.drafts ++ found

section Steps

variable {specs : List String} {keywords : KeywordTable} {ms ns : List Message}
  {s t u s' : WalkState}

theorem Finds.nothing (hs' : Makes specs keywords s'.session)
    (hdrafts : s'.frame.drafts = s.frame.drafts) : Finds specs keywords [] s s' :=
  ⟨hs', [], rfl, hdrafts.trans (List.append_nil _).symm⟩

theorem Finds.append (hst : Finds specs keywords ms s t) (htu : Finds specs keywords ns t u) :
    Finds specs keywords (ms ++ ns) s u := by
  obtain ⟨found, hfound, hdrafts⟩ := hst.frame
  obtain ⟨more, hmore, hdrafts'⟩ := htu.frame
  refine ⟨htu.makes, found ++ more, ?_, ?_⟩
  · rw [ofCode_append, hfound, hmore, List.map_append]
  · rw [hdrafts', hdrafts, List.append_assoc]

theorem Walk.AddsCode.line (h : AddsCode s s') : s'.line = s.line := by
  obtain ⟨_, _, -, rfl⟩ := h
  rfl

theorem finds_forM {α : Type} {f : α → Walk PUnit} {given : α → List Message} {xs : List α}
    (hline : ∀ x t t', Reaches (f x) t () t' → t'.line = t.line)
    (hstep : ∀ x t t', Makes specs keywords t.session → t.line = s.line → Reaches (f x) t () t' →
      Finds specs keywords (given x) t t')
    (hs : Makes specs keywords s.session) (h : Reaches (xs.forM f) s () s') :
    Finds specs keywords (xs.flatMap given) s s' := by
  induction xs generalizing s with
  | nil =>
    rw [reaches_pure h]
    exact .nothing hs rfl
  | cons x xs ih =>
    obtain ⟨_, t, hx, hxs⟩ := reaches_bind h
    have hst := hstep x s t hs rfl hx
    have hsame : t.line = s.line := hline x s t hx
    rw [List.flatMap_cons]
    exact hst.append (ih (fun y u u' hu hut => hstep y u u' hu (hut.trans hsame)) hst.makes hxs)

theorem reaches_job_run {α : Type} {j : Job α} {a : α} (h : Reaches (job j) s a s') :
    ∃ session, (ExceptT.run j).run s.session = (.ok a, session) ∧ s' = { s with session } := by
  have h := reaches_set_bind (reaches_get_bind h)
  cases hj : (ExceptT.run j).run s.session with
  | mk outcome session =>
    dsimp only [StateT.run, ExceptT.run] at hj h
    rw [hj] at h
    cases outcome with
    | ok b =>
      cases h
      exact ⟨session, rfl, rfl⟩
    | error cause => exact absurd h not_reaches_throw

end Steps

namespace Walker

variable {g : Walker} {keywords : KeywordTable} {s t u s' : WalkState}

theorem addCode_finds {code : List Char} (hs : Makes g.options.keywords keywords s.session)
    (h : Reaches (g.addCode code) s () s') :
    Finds g.options.keywords keywords (g.codeAt keywords s.line code) s s' := by
  obtain ⟨found, t, hjob, h⟩ := reaches_bind (reaches_get_bind h)
  obtain ⟨session, hrun, rfl⟩ := reaches_job_run hjob
  obtain ⟨hmakes, rfl⟩ := run_extractText_ok hs hrun
  rw [reaches_forM_addDraft h]
  refine ⟨hmakes, _, ?_, rfl⟩
  unfold ofCode codeAt
  rw [List.filter_eq_self.mpr, List.map_map]
  · rfl
  · intro d hd
    obtain ⟨m, -, rfl⟩ := List.mem_map.mp hd
    rfl

theorem say_finds {line : String} (hs : Makes g.options.keywords keywords s.session)
    (h : Reaches (job (Job.say line)) s () s') : Finds g.options.keywords keywords [] s s' := by
  obtain ⟨session, hrun, rfl⟩ := reaches_job_run h
  cases hrun
  exact .nothing hs rfl

theorem warn_finds {line : String} (hs : Makes g.options.keywords keywords s.session)
    (h : Reaches (job (Job.warn line)) s () s') : Finds g.options.keywords keywords [] s s' := by
  obtain ⟨session, hrun, rfl⟩ := reaches_job_run h
  cases hrun
  exact .nothing hs rfl

theorem codes_finds {codes : List (List Char)} (hs : Makes g.options.keywords keywords s.session)
    (h : Reaches (codes.forM g.addCode) s () s') :
    Finds g.options.keywords keywords (codes.flatMap (g.codeAt keywords s.line)) s s' := by
  refine finds_forM (fun _ _ _ h => (addCode_addsCode h).line) ?_ hs h
  intro code t t' ht hline h
  rw [← hline]
  exact addCode_finds ht h

theorem runSearch_finds {found : CodeSearch} (hs : Makes g.options.keywords keywords s.session)
    (h : Reaches (g.runSearch found g.addCode) s () s') :
    Finds g.options.keywords keywords (found.codes.flatMap (g.codeAt keywords s.line)) s s' := by
  have hcodes (t) (ht : Makes g.options.keywords keywords t.session) (hline : t.line = s.line)
      (h : Reaches (do found.codes.forM g.addCode; g.endSearch found.ending) t () s') :
      Finds g.options.keywords keywords (found.codes.flatMap (g.codeAt keywords s.line)) t s' := by
    obtain ⟨_, u, hcodes, h⟩ := reaches_bind h
    rw [endSearch_reaches h, ← hline]
    exact codes_finds ht hcodes
  unfold runSearch at h
  cases hcomplaint : found.complaint with
  | some what =>
    rw [hcomplaint] at h
    obtain ⟨_, t, hsay, h⟩ := reaches_bind (reaches_get_bind h)
    have hst := say_finds hs hsay
    exact hst.append (hcodes t hst.makes (reaches_job_addsCode hsay).line h)
  | none =>
    rw [hcomplaint] at h
    exact hcodes s hs rfl h

theorem reaches_liftM_ok {α : Type} {x : Except Failure α} {a : α}
    (h : Reaches (liftM x : Walk α) s a s') : x = .ok a ∧ s' = s := by
  cases x with
  | ok b => cases h; exact ⟨rfl, rfl⟩
  | error cause => cases h

theorem addAttributeCode_finds {name : QualifiedName} {value : String}
    (hs : Makes g.options.keywords keywords s.session)
    (h : Reaches (g.addAttributeCode name value) s () s') :
    Finds g.options.keywords keywords
      ((valueCodes g.engine name value).flatMap (g.codeAt keywords s.line)) s s' := by
  obtain ⟨decoded, t, hlift, hsearch⟩ := reaches_bind h
  obtain ⟨hdecoded, rfl⟩ := reaches_liftM_ok hlift
  have hcodes : valueCodes g.engine name value = (attributeCodes g.engine name decoded).codes := by
    unfold valueCodes
    rw [hdecoded]
    rfl
  rw [hcodes]
  exact runSearch_finds hs hsearch

theorem addLine_finds {line : List Char} (hs : Makes g.options.keywords keywords s.session)
    (h : Reaches (g.addLine line) s () s') :
    Finds g.options.keywords keywords
      ((lineCodes g.engine line).flatMap (g.codeAt keywords s.line)) s s' := by
  obtain ⟨decoded, t, hlift, hcodes⟩ := reaches_bind h
  obtain ⟨hdecoded, rfl⟩ := reaches_liftM_ok hlift
  obtain ⟨_, u, hloop, hend⟩ := reaches_bind hcodes
  have hcodes : lineCodes g.engine line =
      (interpolations Source.verdict g.engine decoded).codes.filter hasMark := by
    unfold lineCodes
    rw [hdecoded]
    rfl
  -- A failure in a code is told in other words, but it stays one.
  have hcode (code) (a b : WalkState) (hab : Reaches (tryCatch (g.addCode code) fun cause =>
      if isCodeFailure cause then g.abort decoded else throw cause) a () b) :
      Reaches (g.addCode code) a () b := by
    refine reaches_tryCatch ?_ hab
    intro cause c hc
    split at hc
    · exact not_reaches_abort hc
    · exact not_reaches_throw hc
  have hu : s' = u := by
    split at hend
    · exact reaches_pure hend
    · exact absurd hend not_reaches_abort
    · exact absurd hend not_reaches_throw
  rw [hcodes, hu]
  refine finds_forM (fun code a b hab => (addCode_addsCode (hcode code a b hab)).line) ?_ hs hloop
  intro code a b ha hline hab
  rw [← hline]
  exact addCode_finds ha (hcode code a b hab)

theorem flatMap_textSites (g : Walker) (keywords : KeywordTable) (line : Int)
    (before earlier : List Char) (broken : List (List Char × List Char)) :
    (textSites g.engine before earlier broken).flatMap (g.codeMessages keywords line) =
      (broken.map (·.1)).flatMap fun s =>
        (lineCodes g.engine s).flatMap (g.codeAt keywords (line + feeds before)) := by
  induction broken generalizing earlier with
  | nil => rfl
  | cons first rest ih =>
    rw [textSites, List.flatMap_append, ih, List.flatMap_map, List.map_cons, List.flatMap_cons]
    rfl

theorem flatMap_tagSites (g : Walker) (keywords : KeywordTable) (line : Int) (before : List Char)
    (tag : Tag) :
    (tag.codeSites g.engine before).flatMap (g.codeMessages keywords line) =
      tag.qualified.flatMap fun entry =>
        (valueCodes g.engine entry.1 entry.2).flatMap
          (g.codeAt keywords (line + feeds (before ++ tag.lead))) := by
  unfold Tag.codeSites
  rw [List.flatMap_assoc]
  congr 1
  funext x
  rw [List.flatMap_map]
  rfl

theorem openElement_split {tag : Tag} (h : Reaches (g.openElement tag) s () t) :
    ∃ a b : WalkState, a.session = s.session ∧ a.line = s.line + tag.nameFeeds ∧
      ofCode a.frame.drafts = [] ∧
      Reaches (tag.qualified.forM fun entry => g.addAttributeCode entry.1 entry.2) a () b ∧
      t.session = b.session ∧ t.frame = b.frame := by
  have h := reaches_modify_bind h
  have h := reaches_modify_bind h
  have h := reaches_get_bind h
  have h := reaches_set_bind h
  obtain ⟨_, a, hattributes, h⟩ := reaches_bind h
  obtain ⟨_, b, hcodes, h⟩ := reaches_bind h
  have ha := reaches_forM_addDraft hattributes
  refine ⟨a, b, by rw [ha], by rw [ha], ?_,
    hcodes, by rw [reaches_modify h], by rw [reaches_modify h]⟩
  rw [ha]
  unfold ofCode
  rw [List.filter_eq_nil_iff]
  intro d hd
  obtain ⟨m, -, rfl⟩ := List.mem_map.mp hd
  simp

theorem openElement_finds {tag : Tag} {line : Int} {before : List Char}
    (hs : Makes g.options.keywords keywords s.session) (hline : s.line = line + feeds before)
    (h : Reaches (g.openElement tag) s () t) :
    Makes g.options.keywords keywords t.session ∧
      ofCode t.frame.drafts =
        ((tag.codeSites g.engine before).flatMap (g.codeMessages keywords line)).map
          (⟨.code, ·, false⟩) := by
  obtain ⟨a, b, hsession, hname, hnone, hcodes, htsession, htframe⟩ := openElement_split h
  have hplace : a.line = line + feeds (before ++ tag.lead) := by
    rw [hname, hline, feeds_append, Int.natCast_add, Int.add_assoc]
    rfl
  have hfinds : Finds g.options.keywords keywords
      ((tag.codeSites g.engine before).flatMap (g.codeMessages keywords line)) a b := by
    rw [flatMap_tagSites, ← hplace]
    refine finds_forM (fun _ _ _ h => (addAttributeCode_addsCode h).line) ?_ (hsession ▸ hs) hcodes
    intro entry u u' hu hsame hcode
    rw [← hsame]
    exact addAttributeCode_finds hu hcode
  obtain ⟨found, hfound, hdrafts⟩ := hfinds.frame
  rw [htsession, htframe]
  refine ⟨hfinds.makes, ?_⟩
  rw [hdrafts, ofCode_append, hnone, hfound]
  rfl

theorem addDeclaration_finds {text : String} (hs : Makes g.options.keywords keywords s.session)
    (h : Reaches (g.addDeclaration text) s () s') :
    Finds g.options.keywords keywords [] s s' := by
  unfold addDeclaration at h
  split at h
  · obtain ⟨_, t, hwarn, h⟩ := reaches_bind (reaches_get_bind h)
    have hst := warn_finds hs hwarn
    rw [reaches_modify h]
    exact ⟨hst.makes, hst.frame⟩
  · rw [reaches_modify h]
    exact .nothing hs rfl

theorem addText_finds {text : String} (hs : Makes g.options.keywords keywords s.session)
    (h : Reaches (g.addText text) s () s') :
    Finds g.options.keywords keywords
      (if g.includes s.frame.scope.domain then
        (lines text.toList).flatMap fun line =>
          (lineCodes g.engine line).flatMap (g.codeAt keywords s.line)
      else []) s s' := by
  have h := reaches_get_bind h
  by_cases hincluded : g.includes s.frame.scope.domain = true
  · simp only [hincluded, ↓reduceIte] at h ⊢
    obtain ⟨_, t, hlines, h⟩ := reaches_bind h
    have hfinds : Finds g.options.keywords keywords
        ((lines text.toList).flatMap fun line =>
          (lineCodes g.engine line).flatMap (g.codeAt keywords s.line)) s t := by
      refine finds_forM (fun _ _ _ h => (addLine_addsCode h).line) ?_ hs hlines
      intro line u u' hu hsame hline
      rw [← hsame]
      exact addLine_finds hu hline
    have h := reaches_modify_bind h
    rw [reaches_modify h]
    exact ⟨hfinds.makes, hfinds.frame⟩
  · simp only [hincluded] at h ⊢
    rw [reaches_modify h]
    exact .nothing hs rfl

end Walker

section Visit

variable {g : Walker} {o : Outset} {keywords : KeywordTable}

theorem ofCode_map_finishIn (sentence : Option String) (ds : List Draft) :
    ofCode (ds.map (Draft.finishIn sentence)) = (ofCode ds).map (Draft.finishIn sentence) := by
  unfold ofCode
  rw [List.filter_map]
  simp only [Function.comp_def, Draft.origin_finishIn]

theorem ofCode_passageDraft? (g : Walker) (f : Frame) (inSentence : Bool) :
    ofCode (g.passageDraft? f inSentence).toList = [] := by
  unfold ofCode
  rw [List.filter_eq_nil_iff]
  intro d hd
  simp [origin_of_mem_passageDraft? hd]

theorem closeElement_finds {stop : Option Tag} {f : Frame} {outer : List Frame} {ms : List Message}
    {s u s' : WalkState} (hu : Makes g.options.keywords keywords u.session)
    (houter : u.outer = f :: outer) (hf : f.drafts = s.frame.drafts)
    (hinside : ofCode u.frame.drafts = ms.map (⟨.code, ·, false⟩))
    (h : Reaches (g.closeElement stop) u () s') : Finds g.options.keywords keywords ms s s' := by
  rw [Walker.closeElement_reaches houter h]
  refine ⟨hu, u.frame.finished ++ (g.passageDraft? u.frame f.passage.isSome).toList, ?_, ?_⟩
  · rw [ofCode_append, ofCode_passageDraft?, List.append_nil, Frame.finished_eq,
      ofCode_map_finishIn,
      hinside]
    exact Draft.map_finishIn_told _ .code ms
  · change f.drafts ++ u.frame.finished ++ _ = _
    rw [hf, List.append_assoc]

mutual

/-- A node gives the messages of its codes, in order. -/
theorem visit_finds (hasked : o.asked = g.includes) (hfile : o.file = g.file) (node : Node)
    {path : List Element} {before : List Char} {s s' : WalkState} (hat : o.At path before s)
    (hs : Makes g.options.keywords keywords s.session) (h : Reaches (g.visit node) s () s') :
    Finds g.options.keywords keywords
      ((o.codeSites g.engine path before node).flatMap (g.codeMessages keywords o.line)) s s' := by
  match node with
  | .element start stop children =>
    rw [Walker.visit] at h
    obtain ⟨_, t, hopen, h⟩ := reaches_bind h
    obtain ⟨_, u, hinside, hclose⟩ := reaches_bind h
    have hentered : Entered o ⟨start, children⟩ path before s t :=
      openElement_entered hasked hfile hat hopen
    obtain ⟨ht, htag⟩ := Walker.openElement_finds hs hat.line hopen
    have hgrows := visitAll_grows hasked hfile children hentered.inside hinside
    have hfinds := visitAll_finds hasked hfile children hentered.inside ht hinside
    obtain ⟨found, hfound, hdrafts⟩ := hfinds.frame
    refine closeElement_finds hfinds.makes (hgrows.outer.trans hentered.outer) rfl ?_ hclose
    rw [hdrafts, ofCode_append, htag, hfound, Outset.codeSites,
      List.flatMap_append, List.map_append]
  | .startTag tag =>
    rw [Walker.visit] at h
    obtain ⟨_, t, hopen, hclose⟩ := reaches_bind h
    have hentered : Entered o ⟨tag, []⟩ path before s t :=
      openElement_entered hasked hfile hat hopen
    obtain ⟨ht, htag⟩ := Walker.openElement_finds hs hat.line hopen
    exact closeElement_finds ht hentered.outer rfl htag hclose
  | .text text =>
    rw [Walker.visit] at h
    have hfinds := Walker.addText_finds hs h
    rw [hat.line, hat.scope, ← hasked] at hfinds
    rw [Outset.codeSites]
    cases hasks : o.asks path with
    | true =>
      rw [show o.asked (o.scopeAt path).domain = true from hasks] at hfinds
      rw [if_pos rfl, Walker.flatMap_textSites]
      exact hfinds
    | false =>
      rw [show o.asked (o.scopeAt path).domain = false from hasks] at hfinds
      exact hfinds
  | .comment text | .characterData text | .instruction text =>
    rw [Walker.visit] at h
    rw [reaches_modify h]
    exact .nothing hs rfl
  | .declaration text =>
    rw [Walker.visit] at h
    exact Walker.addDeclaration_finds hs h
  | .unknown kind =>
    rw [Walker.visit] at h
    exact Walker.warn_finds hs h

theorem visitAll_finds (hasked : o.asked = g.includes) (hfile : o.file = g.file) (nodes : List Node)
    {path : List Element} {before : List Char} {s s' : WalkState} (hat : o.At path before s)
    (hs : Makes g.options.keywords keywords s.session) (h : Reaches (g.visitAll nodes) s () s') :
    Finds g.options.keywords keywords
      ((o.allCodeSites g.engine path before nodes).flatMap
      (g.codeMessages keywords o.line)) s s' := by
  match nodes with
  | [] =>
    rw [Walker.visitAll] at h
    rw [reaches_pure h]
    exact .nothing hs rfl
  | node :: rest =>
    rw [Walker.visitAll] at h
    obtain ⟨_, t, hnode, hrest⟩ := reaches_bind h
    have hst := visit_finds hasked hfile node hat hs hnode
    have hinside := hat.grow (visit_grows hasked hfile node hat hnode)
    rw [Outset.allCodeSites, List.flatMap_append]
    exact hst.append (visitAll_finds hasked hfile rest hinside hst.makes hrest)

end

end Visit

/-! ## Lines -/

/-- The line on which a code is read is added to the row of a call twice. -/
theorem location_of_mem_codeMessages {g : Walker} {keywords : KeywordTable} {line : Int}
    {site : CodeSite} {m : Message} (hm : m ∈ g.codeMessages keywords line site) :
    ∃ row : Nat, 0 < row ∧
      Source.CallAt keywords (Source.scan (Source.textLines site.code)).tokens row ∧
      m.location = ⟨g.file, 2 * (line + feeds site.before) + row⟩ := by
  obtain ⟨read, hread, rfl⟩ := List.mem_map.mp hm
  obtain ⟨row, hpos, hcall, hlocation⟩ := Source.location_of_mem_messagesWith hread
  refine ⟨row, hpos, hcall, ?_⟩
  have hline : line + feeds site.before + row + (line + feeds site.before) =
      2 * (line + feeds site.before) + row := by omega
  unfold Message.shift
  rw [hlocation, ← hline]

theorem messagesOf_code {ds : List Draft} {ms : List Message}
    (h : ofCode ds = ms.map (⟨.code, ·, false⟩)) : messagesOf .code ds = ms := by
  have hfilter : messagesOf .code ds = (ofCode ds).map (·.message) := by
    unfold messagesOf ofCode
    rw [← List.filterMap_eq_map', List.filterMap_filter]
    apply List.filterMap_congr
    intro d _
    simp
  rw [hfilter, h, List.map_map]
  exact List.map_id _

def Walker.keywords (g : Walker) (s : WalkState) : KeywordTable :=
  (s.session.keywords.addSpecs g.options.keywords).1

/-- A walk finds the messages of all codes of a node, in order. A message is on twice the line on
which its text starts, or its tag's name ends, and as many lines further down as the row of its call
in the code. So it is on the line of the text that holds the call just if that line is further down
by the line on which the text starts and by the row; and where the lines of a node are not more than
those before it, its messages are below all of them. -/
theorem visit_codeLines (g : Walker) (node : Node) (s s' : WalkState)
    (h : Reaches (g.visit node) s () s') :
    ∃ found, s'.frame.drafts = s.frame.drafts ++ found ∧
      messagesOf .code found = ((g.outset s).codeSites g.engine [] [] node).flatMap
        (g.codeMessages (g.keywords s) s.line) ∧
      (∀ site ∈ (g.outset s).codeSites g.engine [] [] node,
        site.before ++ site.reach <+: node.written ∧
        ∀ m ∈ g.codeMessages (g.keywords s) s.line site, ∃ row : Nat, 0 < row ∧
          Source.CallAt (g.keywords s) (Source.scan (Source.textLines site.code)).tokens row ∧
          m.location = ⟨g.file, 2 * (s.line + feeds site.before) + row⟩ ∧
          (m.location.line = s.line + feeds (site.before ++ site.reach) ↔
            feeds site.reach = s.line + feeds site.before + row)) ∧
      (feeds node.written ≤ s.line → ∀ m ∈ messagesOf .code found,
        s.line + feeds node.written < m.location.line) := by
  have hat : (g.outset s).At [] [] s := ⟨rfl, (Int.add_zero _).symm, Option.isSome_map.symm⟩
  obtain ⟨found, hfound, hdrafts⟩ := (visit_finds rfl rfl node hat rfl h).frame
  have hmessages := messagesOf_code hfound
  have hplaced (site) (hsite : site ∈ (g.outset s).codeSites g.engine [] [] node) :
      site.before ++ site.reach <+: node.written := by
    simpa using Outset.prefix_of_mem_codeSites hsite
  refine ⟨found, hdrafts, hmessages, ?_, ?_⟩
  · intro site hsite
    refine ⟨hplaced site hsite, ?_⟩
    intro m hm
    obtain ⟨row, hpos, hcall, hlocation⟩ := location_of_mem_codeMessages hm
    refine ⟨row, hpos, hcall, hlocation, ?_⟩
    rw [hlocation, feeds_append]
    dsimp only
    omega
  · intro hfeeds m hm
    rw [hmessages] at hm
    obtain ⟨site, hsite, hm⟩ := List.mem_flatMap.mp hm
    obtain ⟨row, hpos, -, hlocation⟩ := location_of_mem_codeMessages hm
    change m.location = ⟨g.file, 2 * (s.line + feeds site.before) + row⟩ at hlocation
    rw [hlocation]
    dsimp only
    omega

/-- A call on the first line of a text, and the same call two lines further down. -/
def calls : Node := .text "$\x7b_('x')\x7d\n\n$\x7b_('x')\x7d"

/-- Both messages are on the third line, where only the second call is. -/
theorem visit_codeLines_calls :
    ∃ s', Reaches (Walker.visit { engine := "python" } calls) {} () s' ∧
      messagesOf .code s'.frame.drafts =
        [{ text := some "x", location := ⟨"f", 3⟩ },
            { text := some "x", location := ⟨"f", 3⟩ }] := by
  have hok : ((ExceptT.run (Walker.visit { engine := "python" } calls)).run {}).1 = .ok () := by
    decide +kernel
  have h : Reaches (Walker.visit { engine := "python" } calls) {} ()
      ((ExceptT.run (Walker.visit { engine := "python" } calls)).run {}).2 := Prod.ext hok rfl
  obtain ⟨found, hdrafts, hfound, -, -⟩ := visit_codeLines _ calls {} _ h
  refine ⟨_, h, ?_⟩
  rw [hdrafts]
  exact hfound.trans (by decide +kernel)

/-- A call in a text on the first line alone, whose message is on the third line. -/
theorem visit_misplaced :
    ∃ s', Reaches (Walker.visit { engine := "python" } (.text "$\x7b_('x')\x7d")) {} () s' ∧
      s'.line = 1 ∧
      messagesOf .code s'.frame.drafts = [{ text := some "x", location := ⟨"f", 3⟩ }] := by
  refine ⟨((ExceptT.run (Walker.visit { engine := "python" } (.text "$\x7b_('x')\x7d"))).run {}).2,
    Prod.ext ?_ rfl, ?_, ?_⟩
  all_goals decide +kernel

end Harvest.Template
