import Harvest.Extractor
import Harvest.Proofs.Jobs
import Harvest.Proofs.Keywords

/-!
# Extractions do not depend on what came before

All extractions share the keywords of one session, and each changes them. As long as the user names
the same keywords, what an extraction gives is nevertheless the same in every place of a sequence:
whatever an extraction does from two sessions that its keywords make equal, it does alike, and it
ends in two such sessions again.
-/

namespace Harvest

/-! ## Doing the same from related states -/

/-- From related states the computation gives the same result, and ends in related states. -/
def Respects {σ α : Type} (R : σ → σ → Prop) (j : ExceptT Failure (StateM σ) α) : Prop :=
  ∀ s t, R s t → ((ExceptT.run j).run s).1 = ((ExceptT.run j).run t).1 ∧
    R ((ExceptT.run j).run s).2 ((ExceptT.run j).run t).2

namespace Respects

variable {σ α β : Type} {R : σ → σ → Prop}

theorem pure (a : α) : Respects R (pure a) := fun _ _ hst => ⟨rfl, hst⟩

theorem throw (cause : Failure) : Respects (α := α) R (throw cause) := fun _ _ hst => ⟨rfl, hst⟩

theorem liftM (x : Except Failure α) : Respects R (liftM x) := by
  cases x with
  | ok a => exact .pure a
  | error cause => exact .throw cause

theorem modify {f : σ → σ} (hf : ∀ s t, R s t → R (f s) (f t)) : Respects R (modify f) :=
  fun s t hst => ⟨rfl, hf s t hst⟩

theorem bind {x : ExceptT Failure (StateM σ) α} {f : α → ExceptT Failure (StateM σ) β}
    (hx : Respects R x) (hf : ∀ a, Respects R (f a)) : Respects R (x >>= f) := by
  intro s t hst
  obtain ⟨hresult, hstate⟩ := hx s t hst
  rw [ExceptT.run_bind, StateT.run_bind, StateT.run_bind]
  cases hs : (ExceptT.run x).run s with
  | mk outcome s' =>
    cases ht : (ExceptT.run x).run t with
    | mk outcome' t' =>
      rw [hs, ht] at hresult hstate
      cases hresult
      cases outcome with
      | error cause => exact ⟨rfl, hstate⟩
      | ok a => exact hf a s' t' hstate

theorem get_bind {f : σ → ExceptT Failure (StateM σ) β} (hread : ∀ s t, R s t → f s = f t)
    (hf : ∀ s, Respects R (f s)) : Respects R (get >>= f) := by
  intro s t hst
  rw [run_get_bind, run_get_bind, ← hread s t hst]
  exact hf s s t hst

theorem get_set_bind {f : σ → σ} {k : σ → ExceptT Failure (StateM σ) β}
    (hf : ∀ s t, R s t → R (f s) (f t)) (hread : ∀ s t, R s t → k s = k t)
    (hk : ∀ s, Respects R (k s)) : Respects R (do let s ← get; set (f s); k s) := by
  intro s t hst
  have hs := hk s (f s) (f t) (hf s t hst)
  change ((ExceptT.run (k s)).run (f s)).1 = ((ExceptT.run (k t)).run (f t)).1 ∧
    R ((ExceptT.run (k s)).run (f s)).2 ((ExceptT.run (k t)).run (f t)).2
  rwa [← hread s t hst]

theorem tryCatch {x : ExceptT Failure (StateM σ) α}
    {handle : Failure → ExceptT Failure (StateM σ) α}
    (hx : Respects R x) (hhandle : ∀ cause, Respects R (handle cause)) :
    Respects R (tryCatch x handle) := by
  intro s t hst
  obtain ⟨hresult, hstate⟩ := hx s t hst
  rw [ExceptT.run_tryCatch, StateT.run_bind, StateT.run_bind]
  cases hs : (ExceptT.run x).run s with
  | mk outcome s' =>
    cases ht : (ExceptT.run x).run t with
    | mk outcome' t' =>
      rw [hs, ht] at hresult hstate
      cases hresult
      cases outcome with
      | error cause => exact hhandle cause s' t' hstate
      | ok a => exact ⟨rfl, hstate⟩

theorem forM {f : α → ExceptT Failure (StateM σ) PUnit} (hf : ∀ a, Respects R (f a)) (xs : List α) :
    Respects R (xs.forM f) := by
  induction xs with
  | nil => exact .pure ()
  | cons x xs ih => exact .bind (hf x) fun _ => ih

end Respects

/-! ## Templates -/

namespace Template

structure Akin (R : Session → Session → Prop) (s t : WalkState) : Prop where
  session : R s.session t.session
  line : s.line = t.line
  frame : s.frame = t.frame
  outer : s.outer = t.outer

variable {R : Session → Session → Prop}

theorem Akin.messages {s t : WalkState} (hst : Akin R s t) : s.messages = t.messages := by
  unfold WalkState.messages WalkState.drafts
  rw [hst.frame, hst.outer]

theorem respects_job {α : Type} {j : Job α} (hj : Respects R j) :
    Respects (Akin R) (Walk.job j) := by
  have hset (s t : WalkState) (hst : Akin R s t) :
      Akin R { s with session := ((ExceptT.run j).run s.session).2 }
        { t with session := ((ExceptT.run j).run t.session).2 } :=
    ⟨(hj _ _ hst.session).2, hst.line, hst.frame, hst.outer⟩
  refine .get_set_bind hset (fun s t hst => ?_) fun s => ?_
  · -- Both sides go on with the result of the job, which is the same.
    have hresult : (j s.session).1 = (j t.session).1 := (hj _ _ hst.session).1
    rw [hresult]
  · split
    · exact .pure _
    · exact .throw _

theorem respects_advance (lines : Nat) : Respects (Akin R) (Walk.advance lines) :=
  .modify fun _ _ hst => ⟨hst.session, congrArg (· + _) hst.line, hst.frame, hst.outer⟩

theorem respects_addDraft (d : Draft) : Respects (Akin R) (Walk.addDraft d) :=
  .modify fun _ _ hst => ⟨hst.session, hst.line, by rw [hst.frame], hst.outer⟩

theorem respects_changePassage (f : Passage → Passage) : Respects (Akin R) (Walk.changePassage f) :=
  .modify fun _ _ hst => ⟨hst.session, hst.line, by rw [hst.frame], hst.outer⟩

/-- A walk whose jobs keep a relation between sessions. -/
structure Walker.Keeps (g : Walker) (R : Session → Session → Prop) : Prop where
  say : ∀ line, Respects R (Job.say line)
  warn : ∀ line, Respects R (Job.warn line)
  extract : ∀ line code, Respects R (Source.extractText g.options g.file line code)

namespace Walker

variable {g : Walker}

section Steps

variable (hg : g.Keeps R)

include hg

theorem respects_abort {α : Type} (what : List Char) : Respects (α := α) (Akin R) (g.abort what) :=
  .get_bind (fun _ _ hst => by simp only [hst.line]) fun _ =>
    .bind (respects_job (hg.say _)) fun _ => .throw _

theorem respects_addCode (code : List Char) : Respects (Akin R) (g.addCode code) :=
  .get_bind (fun _ _ hst => by simp only [hst.line]) fun s =>
    .bind (respects_job (hg.extract s.line code)) fun found =>
      .forM (fun _ => respects_addDraft _) found

theorem respects_endSearch (ending : CodeEnd) : Respects (Akin R) (g.endSearch ending) := by
  cases ending with
  | done => exact .pure ()
  | invalid code => exact respects_abort hg code
  | failed cause => exact .throw cause

theorem respects_runSearch (found : CodeSearch) :
    Respects (Akin R) (g.runSearch found g.addCode) := by
  have hcodes : Respects (Akin R) (do found.codes.forM g.addCode; g.endSearch found.ending) :=
    .bind (.forM (respects_addCode hg) _) fun _ => respects_endSearch hg _
  unfold runSearch
  cases found.complaint with
  | none => exact hcodes
  | some what =>
    exact .get_bind (fun _ _ hst => by simp only [hst.line]) fun _ =>
      .bind (respects_job (hg.say _)) fun _ => hcodes

theorem respects_addAttributeCode (name : QualifiedName) (value : String) :
    Respects (Akin R) (g.addAttributeCode name value) :=
  .bind (.liftM _) fun _ => respects_runSearch hg _

theorem respects_openElement (tag : Tag) : Respects (Akin R) (g.openElement tag) := by
  refine .bind (respects_advance _) fun _ => .bind (respects_changePassage _) fun _ =>
    .get_set_bind (fun s t hst => ?_) (fun s t hst => ?_) fun s => ?_
  · exact ⟨hst.session, hst.line, by simp only [hst.frame, hst.line], by rw [hst.frame, hst.outer]⟩
  · simp only [hst.frame, hst.line]
  · exact .bind (.forM (fun _ => respects_addDraft _) _) fun _ =>
      .bind (.forM (fun _ => respects_addAttributeCode hg _ _) _) fun _ =>
        .modify fun _ _ hst => ⟨hst.session, rfl, hst.frame, hst.outer⟩

omit hg in
theorem respects_closeElement (stop : Option Tag) : Respects (Akin R) (g.closeElement stop) := by
  unfold closeElement
  cases stop
  case' some tag => refine .bind (respects_advance _) fun _ => ?_
  all_goals
    refine .modify fun ⟨_, _, _, outer⟩ ⟨_, _, _, _⟩ hst => ?_
    obtain ⟨hsession, rfl, rfl, rfl⟩ := hst
    cases outer <;> exact ⟨hsession, rfl, rfl, rfl⟩

theorem respects_addLine (line : List Char) : Respects (Akin R) (g.addLine line) := by
  refine .bind (.liftM _) fun line => .bind (.forM (fun code => ?_) _) fun _ => ?_
  · refine .tryCatch (respects_addCode hg code) fun cause => ?_
    split
    · exact respects_abort hg line
    · exact .throw cause
  · split
    · exact .pure ()
    · exact respects_abort hg line
    · exact .throw _

theorem respects_addText (text : String) : Respects (Akin R) (g.addText text) := by
  refine .get_bind (fun s t hst => by simp only [hst.frame]) fun s => ?_
  split
  · exact .bind (.forM (respects_addLine hg) _) fun _ =>
      .bind (respects_changePassage _) fun _ => respects_advance _
  · exact respects_advance _

theorem respects_addDeclaration (text : String) : Respects (Akin R) (g.addDeclaration text) := by
  unfold addDeclaration
  split
  · exact .get_bind (fun _ _ hst => by simp only [hst.line]) fun _ =>
      .bind (respects_job (hg.warn _)) fun _ => respects_advance _
  · exact respects_advance _

end Steps

mutual

theorem respects_visit (hg : g.Keeps R) (node : Node) : Respects (Akin R) (g.visit node) := by
  match node with
  | .element start stop children =>
    rw [visit]
    exact .bind (respects_openElement hg start) fun _ =>
      .bind (respects_visitAll hg children) fun _ => respects_closeElement stop
  | .startTag tag =>
    rw [visit]
    exact .bind (respects_openElement hg tag) fun _ => respects_closeElement none
  | .text s =>
    rw [visit]
    exact respects_addText hg s
  | .comment s | .characterData s | .instruction s =>
    rw [visit]
    exact respects_advance _
  | .declaration s =>
    rw [visit]
    exact respects_addDeclaration hg s
  | .unknown kind =>
    rw [visit]
    exact respects_job (hg.warn _)

theorem respects_visitAll (hg : g.Keeps R) (nodes : List Node) :
    Respects (Akin R) (g.visitAll nodes) := by
  match nodes with
  | [] =>
    rw [visitAll]
    exact .pure ()
  | node :: rest =>
    rw [visitAll]
    exact .bind (respects_visit hg node) fun _ => respects_visitAll hg rest

end

end Walker

theorem respects_extract {options : Options} {file engine : String}
    (hg : Walker.Keeps { options, file, engine } R) (bytes : List UInt8) :
    Respects R (extract options file engine bytes) := by
  unfold extract
  split
  · exact .bind (hg.warn _) fun _ => .throw _
  · refine .bind (.liftM _) fun nodes => ?_
    -- A walk starts in the same state whatever the session is.
    have hwalk (s t : Session) (hst : R s t) :=
      Walker.respects_visitAll hg nodes { session := s } { session := t } ⟨hst, rfl, rfl, rfl⟩
    refine .get_set_bind (fun s t hst => (hwalk s t hst).2.session) (fun s t hst => ?_) fun s => ?_
    · have hresult := (hwalk s t hst).1
      have hmessages := (hwalk s t hst).2.messages
      dsimp only [StateT.run, ExceptT.run] at hresult hmessages ⊢
      rw [hresult, hmessages]
    · split
      · exact .pure _
      · exact .throw _

end Template

/-! ## Sessions -/

/-- Two sessions in which the same was printed and whose keywords become those that `initial`
becomes, once the specifications are added. -/
structure Kindred (specs : List String) (initial : KeywordTable) (s t : Session) : Prop where
  printed : s.printed = t.printed
  left : initial.Alike specs s.keywords
  right : initial.Alike specs t.keywords

variable {specs : List String} {initial : KeywordTable}

theorem respects_say (line : String) : Respects (Kindred specs initial) (Job.say line) :=
  .modify fun _ _ hst => ⟨by rw [hst.printed], hst.left, hst.right⟩

theorem respects_warn (line : String) : Respects (Kindred specs initial) (Job.warn line) :=
  .modify fun _ _ hst => ⟨by rw [hst.printed], hst.left, hst.right⟩

theorem respects_abort {α : Type} (line : String) :
    Respects (α := α) (Kindred specs initial) (Job.abort line) :=
  .bind (respects_warn line) fun _ => .throw _

theorem respects_readFailure {α : Type} (file : String) (firstLine : Int)
    (fault : Source.ReadFault) :
    Respects (α := α) (Kindred specs initial) (Source.readFailure file firstLine fault) := by
  cases fault with
  | unexpected what row => exact respects_abort _
  | failure cause => exact .throw cause

theorem respects_scanFailure {α : Type} (file : String) (firstLine : Int)
    (fault : Source.ScanFault) :
    Respects (α := α) (Kindred specs initial) (Source.scanFailure file firstLine fault) := by
  cases fault with
  | openString row column => exact respects_abort _
  | openStatement row => exact respects_abort _
  | badDedent => exact .throw _
  | undecodable fault => exact .throw _

theorem respects_conclude (file : String) (firstLine : Int) (scanFault : Option Source.ScanFault)
    (read : Source.Reader × Option Source.ReadFault) :
    Respects (Kindred specs initial) (Source.conclude file firstLine scanFault read) := by
  refine .bind (.forM respects_warn _) fun _ => ?_
  split
  · exact respects_readFailure _ _ _
  · exact respects_scanFailure _ _ _
  · exact .pure _

/-- The specifications are read in both sessions or fail in both, for the same reason. -/
theorem Kindred.added {s t : Session} (hst : Kindred specs initial s t) :
    (∃ table, s.keywords.addSpecs specs = (table, none) ∧
      t.keywords.addSpecs specs = (table, none)) ∨
    ∃ left right fault, s.keywords.addSpecs specs = (left, some fault) ∧
      t.keywords.addSpecs specs = (right, some fault) := by
  have hs : (s.keywords.addSpecs specs).2 = (initial.addSpecs specs).2 :=
    KeywordTable.addSpecs_fault ..
  have ht : (t.keywords.addSpecs specs).2 = (initial.addSpecs specs).2 :=
    KeywordTable.addSpecs_fault ..
  cases hfault : (initial.addSpecs specs).2 with
  | none =>
    have hinitial : initial.addSpecs specs = ((initial.addSpecs specs).1, none) := by
      rw [← hfault]
    exact .inl ⟨_, (hst.left hfault).symm.trans hinitial, (hst.right hfault).symm.trans hinitial⟩
  | some fault =>
    rw [hfault] at hs ht
    exact .inr ⟨_, _, fault, Prod.ext rfl hs, Prod.ext rfl ht⟩

theorem Kindred.addSpecs {s t : Session} (hst : Kindred specs initial s t) :
    Kindred specs initial { s with keywords := (s.keywords.addSpecs specs).1 }
      { t with keywords := (t.keywords.addSpecs specs).1 } :=
  ⟨hst.printed, hst.left.addSpecs, hst.right.addSpecs⟩

/-! ## Sources -/

theorem respects_source (options : Options) (file : String) (firstLine : Int)
    (lines : List Source.Line) :
    Respects (Kindred options.keywords initial) (Source.extract options file firstLine lines) := by
  intro s t hst
  have hadded := hst.addSpecs
  rcases hst.added with ⟨keywords, hs, ht⟩ | ⟨left, right, fault, hs, ht⟩
  · rw [hs, ht] at hadded
    rw [Source.run_extract hs, Source.run_extract ht]
    exact respects_conclude _ _ _ _ _ _ hadded
  · rw [hs, ht] at hadded
    rw [Source.run_extract_fault hs, Source.run_extract_fault ht]
    exact respects_abort _ _ _ hadded

/-! ## The other formats -/

theorem respects_template (options : Options) (file engine : String) (content : List UInt8) :
    Respects (Kindred options.keywords initial) (Template.extract options file engine content) :=
  Template.respects_extract
    ⟨respects_say, respects_warn, fun line _ => respects_source options file line _⟩ content

theorem respects_configuration (options : Options) (file : String) (content : List UInt8) :
    Respects (Kindred specs initial) (Zcml.extract options file content) := by
  unfold Zcml.extract
  split
  · exact .pure _
  · exact respects_abort _
  · exact .throw _
  · exact .throw _

theorem respects_plugin (plugin : Plugin) (domain : Plugin.DomainChoice) (settings : Bindings)
    (options : Options) (file : String) (firstLine : Int) (content : List UInt8) :
    Respects (Kindred options.keywords initial)
      (plugin.run domain settings options file firstLine content) := by
  intro s t hst
  rcases hst.added with ⟨keywords, hs, ht⟩ | ⟨left, right, fault, hs, ht⟩
  · unfold Plugin.run
    rw [run_get_bind, run_get_bind, hs, ht]
    exact Respects.bind (.forM respects_warn _) (fun _ => .pure _) s t hst
  · unfold Plugin.run
    rw [run_get_bind, run_get_bind, hs, ht]
    exact respects_abort _ s t hst

/-! ## Sequences of extractions -/

/-- An extraction: the extractor that is called, and what it is called with. -/
inductive Extraction where
  | source (options : Options) (file : String) (firstLine : Int) (lines : List Source.Line)
  | template (options : Options) (file engine : String) (content : List UInt8)
  | configuration (options : Options) (file : String) (content : List UInt8)
  | plugin (program : Plugin) (domain : Plugin.DomainChoice) (settings : Bindings)
      (options : Options) (file : String) (firstLine : Int) (content : List UInt8)

/-- What an extraction gives: messages, what a plugin was asked, and the failure that ended the
search of a plugin after these messages. -/
structure Gain where
  messages : List Message
  request : Option Plugin.Request := none
  failure : Option Failure := none
deriving DecidableEq, Repr

/-- How an extraction has ended, and what it has printed. -/
structure Extraction.Outcome where
  result : Except Failure Gain
  printed : Transcript
deriving DecidableEq, Repr

namespace Extraction

def options : Extraction → Options
  | .source options _ _ _ => options
  | .template options _ _ _ => options
  | .configuration options _ _ => options
  | .plugin _ _ _ options _ _ _ => options

def job : Extraction → Job Gain
  | .source options file firstLine lines =>
      return { messages := ← Source.extract options file firstLine lines }
  | .template options file engine content =>
      return { messages := ← Template.extract options file engine content }
  | .configuration options file content =>
      return { messages := ← Zcml.extract options file content }
  | .plugin program domain settings options file firstLine content => do
      let (request, harvested) ← program.run domain settings options file firstLine content
      return { messages := harvested.messages, request, failure := harvested.failure }

def perform (e : Extraction) (keywords : KeywordTable) : Outcome × KeywordTable :=
  let (result, after) := (ExceptT.run e.job).run { keywords }
  (⟨result, after.printed⟩, after.keywords)

/-- Makes extractions in turn; each finds the keywords that those before it have left. -/
def performAll (keywords : KeywordTable) : List Extraction → List Outcome
  | [] => []
  | e :: rest =>
      let (outcome, keywords) := e.perform keywords
      outcome :: performAll keywords rest

theorem respects_job (e : Extraction) : Respects (Kindred e.options.keywords initial) e.job := by
  cases e with
  | source options file firstLine lines =>
    exact .bind (respects_source options file firstLine lines) fun _ => .pure _
  | template options file engine content =>
    exact .bind (respects_template options file engine content) fun _ => .pure _
  | configuration options file content =>
    exact .bind (respects_configuration options file content) fun _ => .pure _
  | plugin program domain settings options file firstLine content =>
    exact .bind (respects_plugin program domain settings options file firstLine content)
      fun _ => .pure _

/-- Where the keywords come to the same, an extraction ends in the same way, and leaves keywords
that come to the same again. -/
theorem perform_alike {e : Extraction} {keywords : KeywordTable}
    (h : initial.Alike e.options.keywords keywords) :
    (e.perform keywords).1 = (e.perform initial).1 ∧
      initial.Alike e.options.keywords (e.perform keywords).2 := by
  have hstart : Kindred e.options.keywords initial { keywords } { keywords := initial } :=
    ⟨rfl, h, .refl _ _⟩
  obtain ⟨hresult, hafter⟩ := e.respects_job _ _ hstart
  exact ⟨congrArg₂ Outcome.mk hresult hafter.printed, hafter.left⟩

/-- Extractions with the same specifications end as each of them ends alone. -/
theorem performAll_eq_map (specs : List String) (initial : KeywordTable) (es : List Extraction)
    (hes : ∀ e ∈ es, e.options.keywords = specs) :
    performAll initial es = es.map fun e => (e.perform initial).1 := by
  -- The sequence may start with any keywords that come to the same.
  suffices h : ∀ keywords, initial.Alike specs keywords →
      performAll keywords es = es.map fun e => (e.perform initial).1 from h initial (.refl _ _)
  induction es with
  | nil => exact fun _ _ => rfl
  | cons e rest ih =>
    intro keywords hkeywords
    have he : e.options.keywords = specs := hes e List.mem_cons_self
    subst he
    obtain ⟨houtcome, hafter⟩ := perform_alike hkeywords
    rw [List.map_cons, ← houtcome, ← ih (fun e he => hes e (List.mem_cons_of_mem _ he)) _ hafter]
    rfl

/-- The user starts over with one keyword; a template cannot be read, a source calls the keyword
without arguments, and a plugin finds a call of it. -/
def startedOver : List Extraction :=
  let options : Options := { keywords := ["", "tr"] }
  [.template options "a.pt" "python" [0xFF],
    .source options "b.py" 0 (Source.textLines "tr()".toList),
    .plugin (fun _ => [{ line := 7, function := some "tr", arguments := [.text "text"] }]) .untold
      []
      options "c.js" 0 []]

theorem performAll_eq_map_startedOver :
    (∀ e ∈ startedOver, e.options.keywords = ["", "tr"]) ∧
      (performAll .builtin startedOver).getLast? = some
        { result := .ok {
            messages := [{ text := some "text", location := ⟨"c.js", 7⟩ }]
            request := some { keywords := ["", "tr"], tags := [], settings := [], content := [] } }
          printed := {} } := by
  have hspecs : ∀ e ∈ startedOver, e.options.keywords = ["", "tr"] := by
    simp [startedOver, options]
  refine ⟨hspecs, ?_⟩
  rw [performAll_eq_map _ .builtin startedOver hspecs]
  decide

end Extraction

end Harvest
