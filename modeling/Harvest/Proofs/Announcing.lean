import Harvest.Proofs.Text.Words
import Harvest.Session
import Mathlib.Data.List.Infix

/-!
# Announcing the end of the program

When the program has to end it prints a line that starts with certain words. Printed text is made of
whole lines, so each line that is printed can be looked at on its own; and what a job may print
follows from what its parts may print.
-/

namespace Harvest

open Text

/-! ## Texts -/

def announcement : List Char := "Aborting due to".toList

def announces (s : List Char) : Bool := (s.splitOn '\n').any (announcement.isPrefixOf ·)

theorem announces_append_newline (s t : List Char) :
    announces (s ++ '\n' :: t) = (announces s || announces t) := by
  rw [announces, List.splitOn_append_cons_self, List.any_append]
  rfl

theorem announces_of_notMem {s : List Char} (h : '\n' ∉ s) :
    announces s = announcement.isPrefixOf s := by
  rw [announces, List.splitOn_eq_singleton h, List.any_cons, List.any_nil, Bool.or_false]

theorem announces_announcement (s : List Char) : announces (announcement ++ s) = true := by
  obtain ⟨part, parts, hfields⟩ := List.exists_cons_of_ne_nil (List.splitOn_ne_nil '\n' s)
  have hwords : '\n' ∉ announcement := by decide
  rw [announces, splitOn_append_of_notMem hwords hfields, List.any_cons, Bool.or_eq_true,
    List.isPrefixOf_iff_prefix]
  exact .inl (List.prefix_append announcement part)

theorem prefix_append_cons_iff {w s t : List Char} {c : Char} (hc : c ∉ w) :
    w <+: s ++ c :: t ↔ w <+: s := by
  refine ⟨fun h => ?_, fun h => h.trans (List.prefix_append _ _)⟩
  rcases List.prefix_or_prefix_of_prefix h (List.prefix_append s (c :: t)) with hw | ⟨r, rfl⟩
  · exact hw
  · have hr : r <+: c :: t := (List.prefix_append_right_inj s).mp h
    cases r with
    | nil => rw [List.append_nil]
    | cons d r =>
      obtain ⟨rfl, -⟩ := List.cons_prefix_cons.mp hr
      exact absurd (List.mem_append_right s List.mem_cons_self) hc

theorem announces_append {c : Char} (hc : c ∉ announcement) {t : List Char} (ht : '\n' ∉ c :: t)
    (s : List Char) : announces (s ++ c :: t) = announces s := by
  by_cases hs : '\n' ∈ s
  · obtain ⟨u, v, rfl⟩ := List.append_of_mem hs
    have hv := announces_append hc ht v
    rw [List.append_assoc, List.cons_append, announces_append_newline, announces_append_newline, hv]
  · have hboth : '\n' ∉ s ++ c :: t := by
      rw [List.mem_append, not_or]
      exact ⟨hs, ht⟩
    rw [announces_of_notMem hs, announces_of_notMem hboth, Bool.eq_iff_iff,
      List.isPrefixOf_iff_prefix,
      List.isPrefixOf_iff_prefix, prefix_append_cons_iff hc]
termination_by s.length
decreasing_by
  subst_vars
  rw [List.length_append, List.length_cons]
  omega

/-! ## Whole lines -/

/-- A text in which every line is ended. -/
def Whole (s : List Char) : Prop := s = [] ∨ ∃ t, s = t ++ ['\n']

theorem announces_print {s : List Char} (h : Whole s) (line : List Char) :
    announces (s ++ line ++ ['\n']) = (announces s || announces line) := by
  have hempty : announces [] = false := rfl
  rcases h with rfl | ⟨t, rfl⟩
  · rw [List.nil_append, announces_append_newline, hempty, Bool.or_false, Bool.false_or]
  · have hsplit : t ++ ['\n'] ++ line ++ ['\n'] = t ++ '\n' :: (line ++ '\n' :: []) := by simp
    rw [hsplit, announces_append_newline, announces_append_newline,
      announces_append_newline, hempty,
      Bool.or_false, Bool.or_false]

theorem toList_print (s line : String) :
    (s ++ line ++ "\n").toList = s.toList ++ line.toList ++ ['\n'] := by
  rw [String.toList_append, String.toList_append]
  rfl

theorem whole_print (s line : String) : Whole (s ++ line ++ "\n").toList := by
  rw [toList_print]
  exact .inr ⟨s.toList ++ line.toList, rfl⟩

def Transcript.Whole (t : Transcript) : Prop :=
  Harvest.Whole t.out.toList ∧ Harvest.Whole t.err.toList

/-! ## What may be announced -/

section Excused

variable {excuse : Prop} {α β : Type} {outcome : Except Failure α} {outcome' : Except Failure β}
  {s s' s'' : String}

/-- A text has gone on to another while something was done: if the end of the program is announced
now, then it was before, or there is an excuse for it, or it is the outcome. -/
def Excused (excuse : Prop) (outcome : Except Failure α) (s s' : String) : Prop :=
  announces s'.toList = true → announces s.toList = true ∨ excuse ∨ outcome = .error (.exit 1)

theorem Excused.refl (s : String) : Excused excuse outcome s s := .inl

theorem Excused.print {line : String} (hs : Whole s.toList)
    (h : announces line.toList = true → excuse) :
    Excused excuse outcome s (s ++ line ++ "\n") := by
  intro hprinted
  rw [toList_print, announces_print hs, Bool.or_eq_true] at hprinted
  exact hprinted.imp_right fun hline => .inl (h hline)

theorem Excused.imp (h : Excused excuse outcome s s')
    (hexit : outcome = .error (.exit 1) → outcome' = .error (.exit 1)) :
    Excused excuse outcome' s s' :=
  fun hs' => (h hs').imp_right (Or.imp_right hexit)

theorem Excused.trans (h : Excused excuse outcome s s')
    (hexit : outcome = .error (.exit 1) → outcome' = .error (.exit 1))
    (h' : Excused excuse outcome' s' s'') : Excused excuse outcome' s s'' := by
  intro hs''
  rcases h' hs'' with hs' | hrest
  · exact h.imp hexit hs'
  · exact .inr hrest

end Excused

structure Excuses where
  out : Prop
  err : Prop

/-- A transcript has gone on to another while something was done. What it announces is excused; and
it does announce the end of the program if that is `sure` and nothing has failed. No file was
changed. -/
structure Continues (excuses : Excuses) (sure : Bool) {α : Type} (t : Transcript)
    (outcome : Except Failure α) (t' : Transcript) : Prop where
  whole : t'.Whole
  keeps : announces t.out.toList = true → announces t'.out.toList = true
  out : Excused excuses.out outcome t.out t'.out
  err : Excused excuses.err outcome t.err t'.err
  surely : sure = true → ∀ a, outcome = .ok a → announces t'.out.toList = true
  changes : t'.changes = t.changes

section Continues

variable {excuses : Excuses} {first second : Bool} {α β : Type} {t u v : Transcript}

theorem Continues.silent (h : t.Whole) (outcome : Except Failure α) :
    Continues excuses false t outcome t :=
  ⟨h, id, .refl _, .refl _, nofun, rfl⟩

theorem Continues.failure {cause : Failure}
    (h : Continues (α := α) excuses first t (.error cause) u)
    (sure : Bool) : Continues (α := β) excuses sure t (.error cause) u := by
  have hexit (he : Except.error (α := α) cause = .error (.exit 1)) :
      Except.error (α := β) cause = .error (.exit 1) := by
    cases he
    rfl
  exact ⟨h.whole, h.keeps, h.out.imp hexit, h.err.imp hexit, nofun, h.changes⟩

theorem Continues.map {sure : Bool} {outcome : Except Failure α}
    (h : Continues excuses sure t outcome u)
    (f : α → β) : Continues excuses sure t (outcome.map f) u := by
  cases outcome with
  | error cause => exact h.failure sure
  | ok a =>
    exact ⟨h.whole, h.keeps, h.out.imp nofun, h.err.imp nofun, fun hsure _ _ =>
      h.surely hsure a rfl, h.changes⟩

/-- What is sure of one part of a job is sure of the whole, if the first part succeeds. -/
theorem Continues.trans {a : α} {outcome : Except Failure β}
    (h : Continues excuses first t (.ok a) u)
    (h' : Continues excuses second u outcome v) :
    Continues excuses (first || second) t outcome v := by
  refine ⟨h'.whole, h'.keeps ∘ h.keeps, h.out.trans nofun h'.out, h.err.trans nofun h'.err,
    fun hsure b hb => ?_, h'.changes.trans h.changes⟩
  rcases Bool.or_eq_true_iff.mp hsure with hfirst | hsecond
  · exact h'.keeps (h.surely hfirst a rfl)
  · exact h'.surely hsecond b hb

end Continues

/-- Whatever has been printed before, whole lines are added to it, and that they announce the end of
the program is excused; they do on the first stream if that is `sure`. -/
def Tells {σ α : Type} (view : σ → Transcript) (excuses : Excuses) (sure : Bool)
    (j : ExceptT Failure (StateM σ) α) : Prop :=
  ∀ s, (view s).Whole →
    Continues excuses sure (view s) ((ExceptT.run j).run s).1 (view ((ExceptT.run j).run s).2)

namespace Tells

variable {σ α β : Type} {view : σ → Transcript} {excuses : Excuses} {first second sure : Bool}

theorem pure (a : α) : Tells view excuses false (pure a) := fun _ hs => .silent hs _

theorem throw (cause : Failure) : Tells (α := α) view excuses sure (throw cause) :=
  fun _ hs => (Continues.silent (α := α) hs (.error cause)).failure sure

theorem liftM (x : Except Failure α) : Tells view excuses false (liftM x) := by
  cases x with
  | ok a => exact .pure a
  | error cause => exact .throw cause

theorem modify {f : σ → σ} (hf : ∀ s, view (f s) = view s) :
    Tells view excuses false (modify f) := by
  intro s hs
  change Continues excuses false (view s) (.ok ()) (view (f s))
  rw [hf]
  exact .silent hs _

theorem bind {x : ExceptT Failure (StateM σ) α} {f : α → ExceptT Failure (StateM σ) β}
    (hx : Tells view excuses first x) (hf : ∀ a, Tells view excuses second (f a)) :
    Tells view excuses (first || second) (x >>= f) := by
  intro s hs
  have hfirst := hx s hs
  rw [ExceptT.run_bind, StateT.run_bind]
  rcases hrun : (ExceptT.run x).run s with ⟨outcome, s'⟩
  rw [hrun] at hfirst
  cases outcome with
  | error cause => exact hfirst.failure _
  | ok a => exact hfirst.trans (hf a s' hfirst.whole)

theorem bind_right {x : ExceptT Failure (StateM σ) α} {f : α → ExceptT Failure (StateM σ) β}
    (hx : Tells view excuses false x) (hf : ∀ a, Tells view excuses second (f a)) :
    Tells view excuses second (x >>= f) := by
  have h := Tells.bind hx hf
  rwa [Bool.false_or] at h

theorem get_bind {f : σ → ExceptT Failure (StateM σ) β} (hf : ∀ s, Tells view excuses sure (f s)) :
    Tells view excuses sure (get >>= f) := fun s hs => hf s s hs

theorem get_set_bind {f : σ → σ} {k : σ → ExceptT Failure (StateM σ) β}
    (hf : ∀ s, view (f s) = view s) (hk : ∀ s, Tells view excuses sure (k s)) :
    Tells view excuses sure (do let s ← get; set (f s); k s) := by
  intro s hs
  have hnext := hk s (f s) (by rwa [hf])
  rwa [hf] at hnext

/-- A failure may be told in other words, unless it is the end of the program. -/
theorem tryCatch {x : ExceptT Failure (StateM σ) α}
    {handle : Failure → ExceptT Failure (StateM σ) α}
    (hx : Tells view excuses false x) (hhandle : ∀ cause, Tells view excuses false (handle cause))
    (hexit : handle (.exit 1) = MonadExcept.throw (.exit 1)) :
    Tells view excuses false (tryCatch x handle) := by
  intro s hs
  have hfirst := hx s hs
  rw [ExceptT.run_tryCatch, StateT.run_bind]
  rcases hrun : (ExceptT.run x).run s with ⟨outcome, s'⟩
  rw [hrun] at hfirst
  cases outcome with
  | ok a => exact hfirst
  | error cause =>
    have hnext := hhandle cause s' hfirst.whole
    have hend (he : Except.error (α := α) cause = .error (.exit 1)) :
        ((ExceptT.run (handle cause)).run s').1 = .error (.exit 1) := by
      cases he
      rw [hexit]
      rfl
    exact ⟨hnext.whole, hnext.keeps ∘ hfirst.keeps, hfirst.out.trans hend hnext.out,
      hfirst.err.trans hend hnext.err, nofun, hnext.changes.trans hfirst.changes⟩

theorem forM {f : α → ExceptT Failure (StateM σ) PUnit} {tells : α → Bool} {xs : List α}
    (hf : ∀ x ∈ xs, Tells view excuses (tells x) (f x)) :
    Tells view excuses (xs.any tells) (xs.forM f) := by
  induction xs with
  | nil => exact .pure _
  | cons x xs ih =>
    obtain ⟨hx, hxs⟩ := List.forall_mem_cons.mp hf
    exact .bind hx fun _ => ih hxs

theorem forM_silent {f : α → ExceptT Failure (StateM σ) PUnit} {xs : List α}
    (hf : ∀ x ∈ xs, Tells view excuses false (f x)) : Tells view excuses false (xs.forM f) := by
  have h : Tells view excuses (xs.any fun _ => false) (xs.forM f) := .forM hf
  rwa [List.any_eq_false.mpr fun _ _ => Bool.false_ne_true] at h

theorem perhaps {j : ExceptT Failure (StateM σ) α} (h : Tells view excuses sure j) :
    Tells view excuses false j :=
  fun s hs => ⟨(h s hs).whole, (h s hs).keeps, (h s hs).out, (h s hs).err, nofun, (h s hs).changes⟩

theorem bind_left {x : ExceptT Failure (StateM σ) α} {f : α → ExceptT Failure (StateM σ) β}
    (hx : Tells view excuses sure x) (hf : ∀ a, Tells view excuses false (f a)) :
    Tells view excuses sure (x >>= f) := by
  have h := Tells.bind hx hf
  rwa [Bool.or_false] at h

theorem exit {x : ExceptT Failure (StateM σ) α} (hx : Tells view ⟨True, True⟩ false x)
    (hok : ∀ s, ∃ a, ((ExceptT.run x).run s).1 = .ok a) :
    Tells view excuses sure
      (do let _ ← x; (MonadExcept.throw (.exit 1) : ExceptT Failure (StateM σ) β)) := by
  intro s hs
  have hfirst := hx s hs
  obtain ⟨a, ha⟩ := hok s
  rw [ExceptT.run_bind, StateT.run_bind]
  rcases hrun : (ExceptT.run x).run s with ⟨outcome, s'⟩
  rw [hrun] at hfirst ha
  cases ha
  exact ⟨hfirst.whole, hfirst.keeps, fun _ => .inr (.inr rfl), fun _ => .inr (.inr rfl),
    nofun, hfirst.changes⟩

end Tells

/-! ## Jobs -/

namespace Job

variable {excuses : Excuses} {sure : Bool}

theorem tells_say (line : String) (h : announces line.toList = true → excuses.out) :
    Tells Session.printed excuses (announces line.toList) (say line) := by
  intro s hs
  have hprinted : announces (s.printed.out ++ line ++ "\n").toList =
      (announces s.printed.out.toList || announces line.toList) := by
    rw [toList_print, announces_print hs.1]
  refine ⟨⟨whole_print _ line, hs.2⟩, fun hout => ?_, .print hs.1 h, .refl _,
    fun hline _ _ => ?_, rfl⟩
  · change announces (s.printed.out ++ line ++ "\n").toList = true
    rw [hprinted, hout, Bool.true_or]
  · change announces (s.printed.out ++ line ++ "\n").toList = true
    rw [hprinted, hline, Bool.or_true]

theorem tells_warn (line : String) (h : announces line.toList = true → excuses.err) :
    Tells Session.printed excuses false (warn line) :=
  fun _ hs => ⟨⟨hs.1, whole_print _ line⟩, id, .refl _, .print hs.2 h, nofun, rfl⟩

theorem tells_abort {α : Type} (line : String) :
    Tells Session.printed excuses sure (abort line : Job α) :=
  .exit (tells_warn line fun _ => trivial) fun _ => ⟨(), rfl⟩

theorem tells_addKeywords (specs : List String) :
    Tells Session.printed excuses false (addKeywords specs) := by
  refine .get_bind fun s => .bind_right (.modify fun _ => rfl) fun _ => ?_
  split
  · exact tells_abort _
  · exact .pure _

theorem tells_warnings {lines : List String}
    (h : ∀ line ∈ lines, announces line.toList = true → excuses.err) :
    Tells Session.printed excuses false (lines.forM warn) :=
  .forM_silent fun line hline => tells_warn line (h line hline)

end Job

end Harvest
