import Harvest.Source.Extract
import Mathlib.Data.List.Basic

/-!
# Runs of jobs

What a job comes to is told by its parts. A job that succeeds has parts that succeed one after the
other, each in the session that the one before it has left; a job that fails has a first part that
does.
-/

namespace Harvest

theorem run_get_bind {σ β : Type} (f : σ → ExceptT Failure (StateM σ) β) (s : σ) :
    (ExceptT.run (get >>= f)).run s = (ExceptT.run (f s)).run s := rfl

/-! ## Jobs that succeed and jobs that fail -/

/-- The job succeeds in the session `s`, with this result, and leaves the session `s'`. -/
def Job.Gives {α : Type} (j : Job α) (s : Session) (a : α) (s' : Session) : Prop :=
  (ExceptT.run j).run s = (.ok a, s')

namespace Job

variable {α β : Type} {s s' : Session}

theorem gives_bind_iff {j : Job α} {f : α → Job β} {b : β} :
    (j >>= f).Gives s b s' ↔ ∃ a t, j.Gives s a t ∧ (f a).Gives t b s' := by
  unfold Gives
  constructor
  · intro h
    rw [ExceptT.run_bind, StateT.run_bind] at h
    cases hj : (ExceptT.run j).run s with
    | mk outcome t =>
      rw [hj] at h
      cases outcome with
      | error cause => cases h
      | ok a => exact ⟨a, t, rfl, h⟩
  · rintro ⟨a, t, hj, hf⟩
    rw [ExceptT.run_bind, StateT.run_bind, hj]
    exact hf

theorem Gives.unique {j : Job α} {a b : α} {t u : Session} (ha : j.Gives s a t)
    (hb : j.Gives s b u) :
    a = b ∧ t = u := by
  cases ha.symm.trans hb
  exact ⟨rfl, rfl⟩

theorem gives_pure_iff {a b : α} : (pure a : Job α).Gives s b s' ↔ b = a ∧ s' = s := by
  constructor
  · rintro ⟨⟩
    exact ⟨rfl, rfl⟩
  · rintro ⟨rfl, rfl⟩
    rfl

theorem not_gives_throw {cause : Failure} {a : α} : ¬ (throw cause : Job α).Gives s a s' := by
  rintro ⟨⟩

theorem not_gives_abort {line : String} {a : α} : ¬ (abort line : Job α).Gives s a s' := by
  rintro ⟨⟩

end Job

/-! ## Sources -/

theorem run_addKeywords {keywords : KeywordTable} {s : Session}
    {specs : List String} (hs : s.keywords.addSpecs specs = (keywords, none)) :
    (ExceptT.run (Job.addKeywords specs)).run s = (.ok (), { s with keywords }) := by
  unfold Job.addKeywords
  rw [run_get_bind, hs]
  rfl

theorem run_addKeywords_fault {keywords : KeywordTable} {fault : Text.IntegerFault} {s : Session}
    {specs : List String} (hs : s.keywords.addSpecs specs = (keywords, some fault)) :
    (ExceptT.run (Job.addKeywords specs)).run s =
      (ExceptT.run (Job.abort fault.message)).run { s with keywords } := by
  unfold Job.addKeywords
  rw [run_get_bind, hs]
  rfl

namespace Source

/-- Once the keywords are added, an extraction is a reader's run over the tokens of the lines. -/
theorem run_extract {options : Options} {keywords : KeywordTable} {s : Session}
    (hs : s.keywords.addSpecs options.keywords = (keywords, none)) (file : String) (firstLine : Int)
    (lines : List Line) :
    (ExceptT.run (extract options file firstLine lines)).run s =
      (ExceptT.run (conclude file firstLine (scan lines).fault
        (Reader.run { options, keywords, file, firstLine } {}
          (scan lines).tokens))).run { s with keywords } := by
  unfold extract
  rw [ExceptT.run_bind, StateT.run_bind, run_addKeywords hs]
  rfl

/-- A specification that cannot be read ends an extraction before a token is read. -/
theorem run_extract_fault {options : Options} {keywords : KeywordTable} {fault : Text.IntegerFault}
    {s : Session} (hs : s.keywords.addSpecs options.keywords = (keywords, some fault))
    (file : String) (firstLine : Int) (lines : List Line) :
    (ExceptT.run (extract options file firstLine lines)).run s =
      (ExceptT.run (Job.abort fault.message)).run { s with keywords } := by
  unfold extract
  rw [ExceptT.run_bind, StateT.run_bind, run_addKeywords_fault hs]
  rfl

end Source

end Harvest
