import Harvest.Proofs.Source.ReaderRuns
import Harvest.Proofs.Template.CodeLines

/-!
# When a walk succeeds

Only code can make a walk fail: a character reference in the text around it that stands for nothing,
an expression that is not valid, or a source that is not understood.
-/

namespace Harvest.Template

open Text Walk

namespace Walk

variable {α β : Type} {s s' t : WalkState}

def Succeeds (w : Walk PUnit) (s : WalkState) : Prop := ∃ s', Reaches w s () s'

theorem reaches_bind_of {w : Walk α} {f : α → Walk β} {a : α} {b : β} (hw : Reaches w s a t)
    (hf : Reaches (f a) t b s') : Reaches (w >>= f) s b s' := by
  unfold Reaches at *
  rw [ExceptT.run_bind, StateT.run_bind, hw]
  exact hf

theorem succeeds_bind_iff {w : Walk PUnit} {f : PUnit → Walk PUnit} :
    Succeeds (w >>= f) s ↔ ∃ t, Reaches w s () t ∧ Succeeds (f ()) t := by
  constructor
  · rintro ⟨s', h⟩
    obtain ⟨_, t, hw, hf⟩ := reaches_bind h
    exact ⟨t, hw, s', hf⟩
  · rintro ⟨t, hw, s', hf⟩
    exact ⟨s', reaches_bind_of hw hf⟩

theorem succeeds_get_bind {f : WalkState → Walk PUnit} (h : Succeeds (f s) s) :
    Succeeds (get >>= f) s := h

theorem succeeds_set_bind {t : WalkState} {f : PUnit → Walk PUnit} (h : Succeeds (f ()) t) :
    Succeeds (set t >>= f) s := h

theorem succeeds_modify_bind {update : WalkState → WalkState} {f : PUnit → Walk PUnit}
    (h : Succeeds (f ()) (update s)) : Succeeds (modify update >>= f) s := h

/-- A loop whose steps keep an invariant, and under it depend on their item alone. -/
theorem succeeds_forM_iff {f : α → Walk PUnit} {P : α → Prop} {I : WalkState → Prop} {xs : List α}
    (hkeep : ∀ x t t', I t → Reaches (f x) t () t' → I t')
    (hstep : ∀ x t, I t → (Succeeds (f x) t ↔ P x)) (hs : I s) :
    Succeeds (xs.forM f) s ↔ ∀ x ∈ xs, P x := by
  induction xs generalizing s with
  | nil => exact ⟨fun _ => nofun, fun _ => ⟨s, rfl⟩⟩
  | cons x xs ih =>
    rw [List.forM_eq_forM, List.forM_cons, succeeds_bind_iff, List.forall_mem_cons]
    constructor
    · rintro ⟨t, hx, hxs⟩
      exact ⟨(hstep x s hs).mp ⟨t, hx⟩, (ih (hkeep x s t hs hx)).mp hxs⟩
    · rintro ⟨hx, hxs⟩
      obtain ⟨t, hx⟩ := (hstep x s hs).mpr hx
      exact ⟨t, hx, (ih (hkeep x s t hs hx)).mpr hxs⟩

theorem succeeds_forM_addDraft {f : α → Draft} (xs : List α) (s : WalkState) :
    Succeeds (xs.forM fun x => addDraft (f x)) s := by
  refine (succeeds_forM_iff (P := fun _ => True) (I := fun _ => True) ?_ ?_ trivial).mpr fun _ _ =>
    trivial
  · exact fun _ _ _ _ _ => trivial
  · exact fun x t _ => iff_of_true ⟨_, rfl⟩ trivial

theorem succeeds_addDrafts_bind {f : α → Draft} {xs : List α} {k : PUnit → Walk PUnit}
    (h : ∀ t, t.session = s.session → t.line = s.line → Succeeds (k ()) t) :
    Succeeds ((xs.forM fun x => addDraft (f x)) >>= k) s := by
  obtain ⟨t, hdrafts⟩ := succeeds_forM_addDraft xs s
  have ht := reaches_forM_addDraft hdrafts
  refine succeeds_bind_iff.mpr ⟨t, hdrafts, h t ?_ ?_⟩
  · rw [ht]
  · rw [ht]

theorem reaches_job_of {j : Job α} {a : α} {session : Session}
    (h : (ExceptT.run j).run s.session = (.ok a, session)) :
    Reaches (job j) s a { s with session } := by
  have hget : Reaches (get : Walk WalkState) s s s := rfl
  refine reaches_bind_of hget ?_
  dsimp only [StateT.run, ExceptT.run] at h ⊢
  rw [h]
  rfl

end Walk

namespace Walker

variable {g : Walker} {keywords : KeywordTable} {line : Int} {s s' t : WalkState}

/-! ## Reading code -/

def Understands (g : Walker) (keywords : KeywordTable) (line : Int) (code : List Char) : Prop :=
  (keywords.addSpecs g.options.keywords).2 = none ∧
    (Source.scan (Source.textLines code)).fault = none ∧
    (Source.Reader.run ⟨g.options, keywords, g.file, line⟩ {}
      (Source.scan (Source.textLines code)).tokens).2 = none

/-- A walk on this line that reads code with these keywords. -/
structure Ready (g : Walker) (keywords : KeywordTable) (line : Int) (s : WalkState) : Prop where
  makes : Makes g.options.keywords keywords s.session
  line : s.line = line

/-- Code is extracted if its source can be read. -/
theorem exists_extractText_iff {code : List Char} {session : Session}
    (hs : Makes g.options.keywords keywords session) :
    (∃ ms session', (ExceptT.run (Source.extractText g.options g.file line code)).run session =
      (.ok ms, session')) ↔ g.Understands keywords line code := by
  unfold Source.extractText Understands
  simp only [Source.run_extract_ok_iff]
  have hfault : (session.keywords.addSpecs g.options.keywords).2 =
      (keywords.addSpecs g.options.keywords).2 := KeywordTable.addSpecs_fault ..
  constructor
  · rintro ⟨_, _, _, r, hadded, hscan, hread, -, -⟩
    have hkeywords : keywords = _ := hs.symm.trans (congrArg Prod.fst hadded)
    subst hkeywords
    exact ⟨hfault.symm.trans (congrArg Prod.snd hadded), hscan, congrArg Prod.snd hread⟩
  · rintro ⟨hadded, hscan, hread⟩
    exact ⟨_, _, keywords, _, Prod.ext hs (hfault.trans hadded), hscan,
      Prod.ext rfl hread, rfl, rfl⟩

theorem addCode_succeeds_iff {code : List Char} (hs : g.Ready keywords line s) :
    Succeeds (g.addCode code) s ↔ g.Understands keywords line code := by
  rw [← exists_extractText_iff hs.makes, ← hs.line]
  constructor
  · rintro ⟨s', h⟩
    obtain ⟨ms, t, hjob, -⟩ := reaches_bind (reaches_get_bind h)
    obtain ⟨session, hrun, -⟩ := reaches_job_run hjob
    exact ⟨ms, session, hrun⟩
  · rintro ⟨ms, session, hrun⟩
    obtain ⟨s', hdrafts⟩ := succeeds_forM_addDraft ms { s with session }
    have hget : Reaches (get : Walk WalkState) s s s := rfl
    exact ⟨s', reaches_bind_of hget (reaches_bind_of (reaches_job_of hrun) hdrafts)⟩

theorem Ready.addCode {code : List Char} (hs : g.Ready keywords line s)
    (h : Reaches (g.addCode code) s () s') : g.Ready keywords line s' :=
  ⟨(addCode_finds hs.makes h).makes, (addCode_addsCode h).line.trans hs.line⟩

/-- Codes are added if all of them are understood. -/
theorem codes_succeed_iff {codes : List (List Char)} (hs : g.Ready keywords line s) :
    Succeeds (codes.forM g.addCode) s ↔ ∀ code ∈ codes, g.Understands keywords line code :=
  succeeds_forM_iff (fun _ _ _ => Ready.addCode) (fun _ _ => addCode_succeeds_iff) hs

/-! ## Attributes -/

theorem endSearch_succeeds_iff {ending : CodeEnd} :
    Succeeds (g.endSearch ending) s ↔ ending = .done := by
  cases ending with
  | done => exact iff_of_true ⟨s, rfl⟩ rfl
  | invalid code =>
    refine iff_of_false ?_ nofun
    rintro ⟨s', h⟩
    exact not_reaches_abort h
  | failed cause =>
    refine iff_of_false ?_ nofun
    rintro ⟨s', h⟩
    exact not_reaches_throw h

/-- A search for codes succeeds if it comes to its end and all codes are understood. -/
theorem runSearch_succeeds_iff {found : CodeSearch} (hs : g.Ready keywords line s) :
    Succeeds (g.runSearch found g.addCode) s ↔
      found.ending = .done ∧ ∀ code ∈ found.codes, g.Understands keywords line code := by
  have hcodes (t) (ht : g.Ready keywords line t) :
      Succeeds (do found.codes.forM g.addCode; g.endSearch found.ending) t ↔
        found.ending = .done ∧ ∀ code ∈ found.codes, g.Understands keywords line code := by
    rw [succeeds_bind_iff, ← codes_succeed_iff ht]
    constructor
    · rintro ⟨u, hcodes, hend⟩
      exact ⟨endSearch_succeeds_iff.mp hend, u, hcodes⟩
    · rintro ⟨hend, u, hcodes⟩
      exact ⟨u, hcodes, endSearch_succeeds_iff.mpr hend⟩
  unfold runSearch
  cases found.complaint with
  | none => exact hcodes s hs
  | some what =>
    -- A complaint is only printed.
    exact hcodes _ ⟨hs.makes, hs.line⟩

def ReadsValue (g : Walker) (keywords : KeywordTable) (line : Int) (name : QualifiedName)
    (value : String) : Prop :=
  ∃ decoded, decodeReferences value.toList = .ok decoded ∧
    (attributeCodes g.engine name decoded).ending = .done ∧
    ∀ code ∈ (attributeCodes g.engine name decoded).codes, g.Understands keywords line code

theorem succeeds_liftM_bind_iff {α : Type} {x : Except Failure α} {f : α → Walk PUnit} :
    Succeeds ((liftM x : Walk α) >>= f) s ↔ ∃ a, x = .ok a ∧ Succeeds (f a) s := by
  constructor
  · rintro ⟨s', h⟩
    obtain ⟨a, t, hx, hf⟩ := reaches_bind h
    obtain ⟨rfl, rfl⟩ := reaches_liftM_ok hx
    exact ⟨a, rfl, s', hf⟩
  · rintro ⟨a, rfl, s', hf⟩
    exact ⟨s', hf⟩

/-- The code in a value is added if the value can be read. -/
theorem addAttributeCode_succeeds_iff {name : QualifiedName} {value : String}
    (hs : g.Ready keywords line s) :
    Succeeds (g.addAttributeCode name value) s ↔ g.ReadsValue keywords line name value := by
  unfold addAttributeCode ReadsValue
  rw [succeeds_liftM_bind_iff]
  simp only [runSearch_succeeds_iff hs]

theorem Ready.addAttributeCode {name : QualifiedName} {value : String}
    (hs : g.Ready keywords line s)
    (h : Reaches (g.addAttributeCode name value) s () s') : g.Ready keywords line s' :=
  ⟨(addAttributeCode_finds hs.makes h).makes, (addAttributeCode_addsCode h).line.trans hs.line⟩

/-- An element is opened if all values of its start tag can be read. -/
theorem openElement_succeeds_iff {tag : Tag} (hs : Makes g.options.keywords keywords s.session) :
    Succeeds (g.openElement tag) s ↔
      ∀ entry ∈ tag.qualified, g.ReadsValue keywords (s.line + tag.nameFeeds) entry.1 entry.2 := by
  have hloop (t : WalkState) (ht : g.Ready keywords (s.line + tag.nameFeeds) t) :
      Succeeds (tag.qualified.forM fun entry => g.addAttributeCode entry.1 entry.2) t ↔
        ∀ entry ∈ tag.qualified, g.ReadsValue keywords (s.line + tag.nameFeeds) entry.1 entry.2 :=
    succeeds_forM_iff (fun _ _ _ => Ready.addAttributeCode)
      (fun _ _ => addAttributeCode_succeeds_iff) ht
  constructor
  · rintro ⟨s', h⟩
    obtain ⟨a, b, hsession, hline, -, hcodes, -, -⟩ := openElement_split h
    exact (hloop a ⟨hsession ▸ hs, hline⟩).mp ⟨b, hcodes⟩
  · intro hreads
    refine succeeds_modify_bind (succeeds_modify_bind (succeeds_get_bind (succeeds_set_bind ?_)))
    refine succeeds_addDrafts_bind fun a hsession hline => ?_
    obtain ⟨b, hcodes⟩ := (hloop a ⟨hsession ▸ hs, hline⟩).mpr hreads
    exact succeeds_bind_iff.mpr ⟨b, hcodes, _, rfl⟩

theorem closeElement_succeeds (g : Walker) (stop : Option Tag) (s : WalkState) :
    Succeeds (g.closeElement stop) s := by
  unfold closeElement
  cases stop <;> exact ⟨_, rfl⟩

/-! ## Texts -/

def ReadsLine (g : Walker) (keywords : KeywordTable) (line : Int) (text : List Char) : Prop :=
  ∃ decoded, decodeReferences text = .ok decoded ∧
    (interpolations Source.verdict g.engine decoded).ending = .valid ∧
    ∀ code ∈ (interpolations Source.verdict g.engine decoded).codes.filter hasMark,
      g.Understands keywords line code

theorem Ready.addLine {text : List Char} (hs : g.Ready keywords line s)
    (h : Reaches (g.addLine text) s () s') : g.Ready keywords line s' :=
  ⟨(addLine_finds hs.makes h).makes, (addLine_addsCode h).line.trans hs.line⟩

theorem addLine_succeeds_iff {text : List Char} (hs : g.Ready keywords line s) :
    Succeeds (g.addLine text) s ↔ g.ReadsLine keywords line text := by
  unfold addLine ReadsLine
  rw [succeeds_liftM_bind_iff]
  refine exists_congr fun decoded => and_congr_right fun _ => ?_
  -- A failure in a code is told in other words, but it stays one.
  have hcode (code : List Char) (a b : WalkState) : Reaches (tryCatch (g.addCode code) fun cause =>
      if isCodeFailure cause then g.abort decoded else throw cause) a () b ↔
        Reaches (g.addCode code) a () b := by
    constructor
    · refine reaches_tryCatch fun cause c hc => ?_
      split at hc
      · exact not_reaches_abort hc
      · exact not_reaches_throw hc
    · intro h
      unfold Reaches at h ⊢
      rw [ExceptT.run_tryCatch, StateT.run_bind, h]
      rfl
  have hcodes (t : WalkState) (ht : g.Ready keywords line t) (codes : List (List Char)) :
      Succeeds (codes.forM fun code => tryCatch (g.addCode code) fun cause =>
        if isCodeFailure cause then g.abort decoded else throw cause) t ↔
        ∀ code ∈ codes, g.Understands keywords line code := by
    refine succeeds_forM_iff ?_ ?_ ht
    · exact fun code a b ha h => ha.addCode ((hcode code a b).mp h)
    · intro code a ha
      rw [← addCode_succeeds_iff ha]
      exact exists_congr fun b => hcode code a b
  rw [succeeds_bind_iff, ← hcodes s hs]
  constructor
  · rintro ⟨t, hcodes, s', hend⟩
    refine ⟨?_, t, hcodes⟩
    split at hend
    · assumption
    · exact absurd hend not_reaches_abort
    · exact absurd hend not_reaches_throw
  · rintro ⟨hend, t, hcodes⟩
    refine ⟨t, hcodes, t, ?_⟩
    rw [hend]
    rfl

/-- A text is added if its lines can be read, or if its domain is not asked for. -/
theorem addText_succeeds_iff {text : String} (hs : Makes g.options.keywords keywords s.session) :
    Succeeds (g.addText text) s ↔
      (g.includes s.frame.scope.domain → ∀ line ∈ lines text.toList,
      g.ReadsLine keywords s.line line) := by
  have hloop : Succeeds ((lines text.toList).forM g.addLine) s ↔
      ∀ line ∈ lines text.toList, g.ReadsLine keywords s.line line :=
    succeeds_forM_iff (fun _ _ _ => Ready.addLine) (fun _ _ => addLine_succeeds_iff) ⟨hs, rfl⟩
  rw [← hloop]
  constructor
  · rintro ⟨s', h⟩ hincluded
    have h := reaches_get_bind h
    simp only [hincluded, ↓reduceIte] at h
    obtain ⟨_, t, hlines, -⟩ := reaches_bind h
    exact ⟨t, hlines⟩
  · intro hlines
    refine succeeds_get_bind ?_
    by_cases hincluded : g.includes s.frame.scope.domain = true
    · simp only [hincluded, ↓reduceIte]
      obtain ⟨t, hlines⟩ := hlines hincluded
      exact succeeds_bind_iff.mpr ⟨t, hlines, _, rfl⟩
    · simp only [hincluded]
      exact ⟨_, rfl⟩

theorem addDeclaration_succeeds (g : Walker) (text : String) (s : WalkState) :
    Succeeds (g.addDeclaration text) s := by
  unfold addDeclaration
  split <;> exact ⟨_, rfl⟩

end Walker

end Harvest.Template
