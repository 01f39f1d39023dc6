import Harvest.Template.Walk

/-!
# The steps of a walk

What each step of a walk changes when it succeeds. The search for code may print and may add
messages of code, and leaves all else alone.
-/

namespace Harvest.Template

open Text

namespace Walk

variable {α β : Type} {s s' : WalkState}

/-- The walk succeeds from `s`, with this result and in the state `s'`. -/
def Reaches (w : Walk α) (s : WalkState) (a : α) (s' : WalkState) : Prop :=
  (ExceptT.run w).run s = (.ok a, s')

theorem reaches_pure {a b : α} (h : Reaches (pure a) s b s') : s' = s := by
  cases h
  rfl

theorem reaches_modify {f : WalkState → WalkState} {a : PUnit} (h : Reaches (modify f) s a s') :
    s' = f s := by
  cases h
  rfl

theorem not_reaches_throw {cause : Failure} {a : α} : ¬ Reaches (throw cause) s a s' := by
  intro h
  cases h

theorem reaches_bind {w : Walk α} {f : α → Walk β} {b : β} (h : Reaches (w >>= f) s b s') :
    ∃ a t, Reaches w s a t ∧ Reaches (f a) t b s' := by
  unfold Reaches at h ⊢
  rw [ExceptT.run_bind, StateT.run_bind] at h
  cases hw : (ExceptT.run w).run s with
  | mk outcome t =>
    rw [hw] at h
    cases outcome with
    | ok a => exact ⟨a, t, rfl, h⟩
    | error cause => cases h

theorem reaches_get_bind {f : WalkState → Walk β} {b : β} (h : Reaches (get >>= f) s b s') :
    Reaches (f s) s b s' := h

theorem reaches_set_bind {t : WalkState} {f : PUnit → Walk β} {b : β}
    (h : Reaches (set t >>= f) s b s') : Reaches (f ()) t b s' := h

theorem reaches_modify_bind {update : WalkState → WalkState} {f : PUnit → Walk β} {b : β}
    (h : Reaches (modify update >>= f) s b s') : Reaches (f ()) (update s) b s' := h

theorem reaches_liftM {x : Except Failure α} {a : α} (h : Reaches (liftM x : Walk α) s a s') :
    s' = s := by
  cases x with
  | ok b => cases h; rfl
  | error cause => cases h

theorem reaches_tryCatch {w : Walk α} {handle : Failure → Walk α} {a : α}
    (hhandle : ∀ cause t, ¬ Reaches (handle cause) t a s')
    (h : Reaches (tryCatch w handle) s a s') : Reaches w s a s' := by
  unfold Reaches at h ⊢
  rw [ExceptT.run_tryCatch, StateT.run_bind] at h
  cases hw : (ExceptT.run w).run s with
  | mk outcome t =>
    rw [hw] at h
    cases outcome with
    | ok b => exact h
    | error cause => exact absurd h (hhandle cause t)

theorem reaches_job {j : Job α} {a : α} (h : Reaches (job j) s a s') :
    ∃ session, s' = { s with session } := by
  refine ⟨((ExceptT.run j).run s.session).2, ?_⟩
  have h := reaches_set_bind (reaches_get_bind h)
  split at h
  · exact reaches_pure h
  · exact absurd h not_reaches_throw

theorem reaches_forM {R : WalkState → WalkState → Prop} {f : α → Walk PUnit} {xs : List α}
    (hrefl : ∀ s, R s s) (htrans : ∀ {s t u}, R s t → R t u → R s u)
    (hstep : ∀ x s t, Reaches (f x) s () t → R s t) (h : Reaches (xs.forM f) s () s') : R s s' := by
  induction xs generalizing s with
  | nil =>
    rw [reaches_pure h]
    exact hrefl s
  | cons x xs ih =>
    obtain ⟨_, t, hx, hxs⟩ := reaches_bind h
    exact htrans (hstep x s t hx) (ih hxs)

theorem reaches_forM_addDraft {f : α → Draft} {xs : List α}
    (h : Reaches (xs.forM fun x => addDraft (f x)) s () s') :
    s' = { s with frame := { s.frame with drafts := s.frame.drafts ++ xs.map f } } := by
  induction xs generalizing s with
  | nil => rw [reaches_pure h, List.map_nil, List.append_nil]
  | cons x xs ih =>
    obtain ⟨_, t, hx, hxs⟩ := reaches_bind h
    rw [ih hxs, reaches_modify hx, List.map_cons, ← List.append_cons]

/-! ## The search for code -/

/-- At most the session has changed, and messages of code have been added. -/
def AddsCode (s s' : WalkState) : Prop :=
  ∃ session found, (∀ d ∈ found, d.origin = .code) ∧
    s' = { s with session, frame := { s.frame with drafts := s.frame.drafts ++ found } }

theorem AddsCode.of_session (session : Session) : AddsCode s { s with session } := by
  refine ⟨session, [], by simp, ?_⟩
  rw [List.append_nil]

theorem AddsCode.refl (s : WalkState) : AddsCode s s := .of_session s.session

theorem AddsCode.trans {t u : WalkState} (hst : AddsCode s t) (htu : AddsCode t u) :
    AddsCode s u := by
  obtain ⟨_, found, hfound, rfl⟩ := hst
  obtain ⟨session, more, hmore, rfl⟩ := htu
  refine ⟨session, found ++ more, ?_, by rw [List.append_assoc]⟩
  intro d hd
  rcases List.mem_append.mp hd with hd | hd
  · exact hfound d hd
  · exact hmore d hd

end Walk

namespace Walker

open Walk

variable {g : Walker} {s s' : WalkState}

theorem not_reaches_abort {α : Type} {what : List Char} {a : α} :
    ¬ Reaches (g.abort what) s a s' := by
  intro h
  obtain ⟨_, _, -, h⟩ := reaches_bind h
  obtain ⟨_, _, -, h⟩ := reaches_bind h
  exact not_reaches_throw h

theorem reaches_job_addsCode {α : Type} {j : Job α} {a : α} (h : Reaches (job j) s a s') :
    AddsCode s s' := by
  obtain ⟨session, rfl⟩ := reaches_job h
  exact .of_session session

theorem addCode_addsCode {code : List Char} (h : Reaches (g.addCode code) s () s') :
    AddsCode s s' := by
  obtain ⟨ms, u, hjob, h⟩ := reaches_bind (reaches_get_bind h)
  refine (reaches_job_addsCode hjob).trans ⟨u.session, _, ?_, reaches_forM_addDraft h⟩
  intro d hd
  obtain ⟨m, -, rfl⟩ := List.mem_map.mp hd
  rfl

theorem endSearch_reaches {ending : CodeEnd} (h : Reaches (g.endSearch ending) s () s') :
    s' = s := by
  cases ending with
  | done => exact reaches_pure h
  | invalid code => exact absurd h not_reaches_abort
  | failed cause => exact absurd h not_reaches_throw

theorem runSearch_addsCode {found : CodeSearch}
    (h : Reaches (g.runSearch found g.addCode) s () s') :
    AddsCode s s' := by
  have hcodes (t) (h : Reaches (do found.codes.forM g.addCode; g.endSearch found.ending) t () s') :
      AddsCode t s' := by
    obtain ⟨_, u, hcodes, h⟩ := reaches_bind h
    rw [endSearch_reaches h]
    exact reaches_forM AddsCode.refl AddsCode.trans (fun _ _ _ => addCode_addsCode) hcodes
  -- A complaint is printed before any code is looked at.
  unfold runSearch at h
  cases hcomplaint : found.complaint with
  | some what =>
    rw [hcomplaint] at h
    obtain ⟨_, t, hsay, h⟩ := reaches_bind (reaches_get_bind h)
    exact (reaches_job_addsCode hsay).trans (hcodes t h)
  | none =>
    rw [hcomplaint] at h
    exact hcodes s h

theorem addAttributeCode_addsCode {name : QualifiedName} {value : String}
    (h : Reaches (g.addAttributeCode name value) s () s') : AddsCode s s' := by
  obtain ⟨_, t, hvalue, h⟩ := reaches_bind h
  cases reaches_liftM hvalue
  exact runSearch_addsCode h

theorem addLine_addsCode {line : List Char} (h : Reaches (g.addLine line) s () s') :
    AddsCode s s' := by
  obtain ⟨line, t, hline, h⟩ := reaches_bind h
  cases reaches_liftM hline
  obtain ⟨_, u, hcodes, h⟩ := reaches_bind h
  have hsu : AddsCode s u := by
    refine reaches_forM AddsCode.refl AddsCode.trans ?_ hcodes
    intro code s t hcode
    apply addCode_addsCode
    refine reaches_tryCatch ?_ hcode
    intro cause t h
    split at h
    · exact not_reaches_abort h
    · exact not_reaches_throw h
  refine hsu.trans ?_
  split at h
  · rw [reaches_pure h]
    exact .refl u
  · exact absurd h not_reaches_abort
  · exact absurd h not_reaches_throw

/-! ## Opening and closing an element -/

theorem openElement_reaches {tag : Tag} (h : Reaches (g.openElement tag) s () s') :
    ∃ session found, (∀ d ∈ found, d.origin = .code) ∧
      s' = {
        session
        line := s.line + tag.nameFeeds + tag.restFeeds
        frame := {
          scope := s.frame.scope.enter tag
          passage := g.passage? (s.frame.scope.enter tag)
            (s.line + tag.nameFeeds + tag.restFeeds) tag
          name := tag.get? .internationalization "name"
          drafts := (g.attributeMessages (s.frame.scope.enter tag) (s.line + tag.nameFeeds) tag).map
            (⟨.attribute, ·, false⟩) ++ found }
        outer := { s.frame with
          passage := s.frame.passage.map (·.addElement (tag.get? .internationalization "name")) } ::
            s.outer } := by
  have h := reaches_modify_bind h
  have h := reaches_modify_bind h
  have h := reaches_get_bind h
  have h := reaches_set_bind h
  obtain ⟨_, t, hattributes, h⟩ := reaches_bind h
  obtain ⟨_, u, hcodes, h⟩ := reaches_bind h
  obtain ⟨session, found, hfound, rfl⟩ :=
    reaches_forM AddsCode.refl AddsCode.trans (fun _ _ _ => addAttributeCode_addsCode) hcodes
  refine ⟨session, found, hfound, ?_⟩
  rw [reaches_modify h, reaches_forM_addDraft hattributes]
  rfl

theorem closeElement_reaches {stop : Option Tag} {f : Frame} {outer : List Frame}
    (houter : s.outer = f :: outer) (h : Reaches (g.closeElement stop) s () s') :
    s' = {
      session := s.session
      line := s.line + (stop.map fun tag => tag.nameFeeds + tag.restFeeds).getD 0
      frame := g.leave s.frame f
      outer } := by
  unfold closeElement at h
  cases stop with
  | some tag =>
    have h := reaches_modify_bind h
    rw [reaches_modify h]
    simp only [houter]
    rfl
  | none =>
    rw [reaches_modify h]
    simp [houter]

/-! ## Texts -/

theorem addText_reaches {text : String} (h : Reaches (g.addText text) s () s') :
    ∃ session found, (∀ d ∈ found, d.origin = .code) ∧
      s' = { s with
        session
        line := s.line + textFeeds text
        frame := { s.frame with
          passage := if g.includes s.frame.scope.domain then
            s.frame.passage.map (·.addText text.toList) else s.frame.passage
          drafts := s.frame.drafts ++ found } } := by
  have h := reaches_get_bind h
  by_cases hincluded : g.includes s.frame.scope.domain = true
  · simp only [hincluded, ↓reduceIte] at h ⊢
    obtain ⟨_, t, hlines, h⟩ := reaches_bind h
    obtain ⟨session, found, hfound, rfl⟩ :=
      reaches_forM AddsCode.refl AddsCode.trans (fun _ _ _ => addLine_addsCode) hlines
    have h := reaches_modify_bind h
    exact ⟨session, found, hfound, reaches_modify h⟩
  · simp only [hincluded] at h ⊢
    refine ⟨s.session, [], by simp, ?_⟩
    rw [reaches_modify h, List.append_nil]
    rfl

theorem addDeclaration_reaches {text : String} (h : Reaches (g.addDeclaration text) s () s') :
    ∃ session, s' = { s with session, line := s.line + textFeeds text } := by
  unfold addDeclaration at h
  split at h
  · obtain ⟨_, t, hwarn, h⟩ := reaches_bind (reaches_get_bind h)
    obtain ⟨session, rfl⟩ := reaches_job hwarn
    exact ⟨session, reaches_modify h⟩
  · exact ⟨s.session, reaches_modify h⟩

end Walker

end Harvest.Template
