import Harvest.Proofs.Source.Displaced

/-!
# Line breaks and comments between tokens

A reader passes over line breaks that end no statement, and over comments if none are kept. There is
one exception: what a name in a call stands for is decided by the very next token. A break between
the name and a comma, a closing bracket or an equals sign hides that token, and then the name is no
argument. Where no name is cut off like this, breaks make no difference.
-/

namespace Harvest.Source

def Token.isBreak (t : Token) : Bool := t.kind = .breakOnly || t.kind = .comment

def unbroken (ts : List Token) : List Token := ts.filter (!·.isBreak)

/-- Does this token tell that the name before it is an argument, or the name of one? -/
def Token.endsName (t : Token) : Bool := t.isOperator "," || t.isOperator ")" || t.isOperator "="

def Phase.isName : Phase → Bool
  | .name .. => true
  | _ => false

namespace Reader

/-- Does a break stand between a name in a call and the token that tells what the name is? -/
def cutsName (g : Reading) : Reader → List Token → Bool
  | _, [] => false
  | r, t :: ts =>
      (r.phase.isName && t.isBreak && (ts.find? (!·.isBreak)).any Token.endsName) ||
        match r.step g t with
        | .ok r' => cutsName g r' ts
        | .error _ => false

variable {g : Reading} {r r' q : Reader} {t : Token} {ts us : List Token}

theorem cutsName_cons (h : r.step g t = .ok r') (ts : List Token) :
    r.cutsName g (t :: ts) =
      ((r.phase.isName && t.isBreak && (ts.find? (!·.isBreak)).any Token.endsName) ||
      r'.cutsName g ts) := by
  rw [cutsName, h]

theorem step_break (hnone : g.options.comments = .none) (ht : t.isBreak = true) (r : Reader) :
    r.step g t = .ok { r with phase := r.phase.settled } := by
  have hkind : t.kind = .breakOnly ∨ t.kind = .comment := by simpa [Token.isBreak] using ht
  apply step_gap hnone
  · rcases hkind with hkind | hkind <;> simp [Token.isGap, hkind]
  · intro hdedent
    rcases hkind with hkind | hkind <;> rw [hkind] at hdedent <;> cases hdedent

/-! ## Names in calls -/

/-- A name in a call is part of an argument, and a string before it has ended. -/
def Steady (r : Reader) : Prop :=
  ∀ c name row, r.phase = .name c name row → c.inArgument = true ∧ c.inString = false

theorem steady_of_not_isName (h : r.phase.isName = false) : r.Steady := by
  intro c name row hphase
  rw [hphase] at h
  cases h

theorem steady_inCall {call : OpenCall} (h : r.inCall g call t = .ok r') : r'.Steady := by
  obtain ⟨kind, text, row, column⟩ := t
  unfold inCall at h
  cases kind with
  | name =>
    cases h
    rintro c name row ⟨⟩
    exact ⟨rfl, Bool.and_false _⟩
  | operator =>
    dsimp only at h
    split at h
    · exact steady_of_not_isName (by rw [(closeCall_places h).1]; rfl)
    · split at h
      · split at h <;> cases h
        exact steady_of_not_isName rfl
      · split at h
        · cases h
          exact steady_of_not_isName rfl
        · split at h <;> cases h
          exact steady_of_not_isName rfl
  | string =>
    cases hcall :
      stringInCall { call with inString := call.inString && TokenKind.string == .string }
        ⟨.string, text, row, column⟩ with
    | ok call' =>
      dsimp only at h
      rw [hcall] at h
      cases h
      exact steady_of_not_isName rfl
    | error fault =>
      dsimp only at h
      rw [hcall] at h
      cases h
  | number =>
    dsimp only at h
    split at h
    · cases h
    · cases hvalue : literalValue text with
      | ok value =>
        rw [hvalue] at h
        cases h
        exact steady_of_not_isName rfl
      | error fault =>
        rw [hvalue] at h
        cases h
  | comment | breakOnly | newline | indent | dedent | stray | finish => cases h

theorem steady_inGroup {call : OpenCall} {bracket : Bracket} {depth row : Nat}
    (hphase : r.phase.isName = false) (h : r.inGroup call bracket depth row t = .ok r') :
    r'.Steady := by
  unfold inGroup at h
  dsimp only at h
  split at h
  · cases h
    exact steady_of_not_isName rfl
  · split at h
    · split at h <;> cases h <;> exact steady_of_not_isName rfl
    · split at h <;> cases h
      exact steady_of_not_isName hphase

theorem steady_handle (hphase : r.phase.isName = false) (h : r.handle g t = .ok r') :
    r'.Steady := by
  unfold handle at h
  cases hp : r.phase with
  | idle =>
    simp only [hp] at h
    split at h
    · cases h
      exact steady_of_not_isName rfl
    · split at h <;> cases h
      · exact steady_of_not_isName rfl
      · exact steady_of_not_isName hphase
  | definition =>
    simp only [hp] at h
    cases h
    exact steady_of_not_isName rfl
  | keyword keyword row =>
    simp only [hp] at h
    split at h <;> cases h <;> exact steady_of_not_isName rfl
  | call call =>
    simp only [hp] at h
    exact steady_inCall h
  | name call name row =>
    rw [hp] at hphase
    cases hphase
  | group call bracket depth row =>
    simp only [hp] at h
    exact steady_inGroup hphase h

theorem steady_dispatch (hphase : r.phase.isName = false) (h : r.dispatch g t = .ok r') :
    r'.Steady := by
  unfold dispatch at h
  split at h
  · cases h
    exact steady_of_not_isName (by rwa [(comment_keeps g r t).1])
  all_goals first
    | exact steady_handle hphase h
    | cases h; exact steady_of_not_isName hphase

theorem steady_step (h : r.step g t = .ok r') : r'.Steady := by
  unfold step at h
  cases hp : r.phase with
  | idle | definition | keyword | call =>
    simp only [hp] at h
    exact steady_dispatch (by rw [hp]; rfl) h
  | group call bracket depth row =>
    simp only [hp] at h
    exact steady_inGroup (by rw [hp]; rfl) h
  | name call name row =>
    simp only [hp] at h
    unfold afterName at h
    split at h
    · exact steady_dispatch rfl h
    · split at h
      · cases h
        exact steady_of_not_isName rfl
      · split at h
        · split at h <;> cases h
          exact steady_of_not_isName rfl
        · exact steady_dispatch rfl h

/-! ## Readers that see breaks and readers that do not -/

/-- The second reader, which does not see breaks, is as far as the first. If the first has come upon
a break after a name, then the next token does not tell what the name is. -/
inductive Near (ts : List Token) (r q : Reader) : Prop
  | same (h : r.Alike 0 [] q)
  | hidden {c : OpenCall} {name : String} {row : Nat} (hq : q.phase = .name c name row)
      (h : r.Alike 0 [] { q with phase := .call c })
      (hnext : (ts.find? (!·.isBreak)).any Token.endsName = false)

theorem Near.break (h : Near (t :: ts) r q) (ht : t.isBreak = true)
    (hcut : (r.phase.isName && t.isBreak && (ts.find? (!·.isBreak)).any Token.endsName) = false) :
    Near ts { r with phase := r.phase.settled } q := by
  have hfind : (t :: ts).find? (!·.isBreak) = ts.find? (!·.isBreak) := by
    rw [List.find?_cons_of_neg (by simp [ht])]
  cases h with
  | hidden hq h hnext =>
    rw [hfind] at hnext
    have hphase := h.phase
    refine .hidden hq ⟨?_, h.pending, h.pending', h.messages⟩ hnext
    generalize r.phase = p at hphase
    cases hphase with
    | call hc => exact .call hc
  | same h =>
    have hphase := h.phase
    cases hp : r.phase with
    | name c name row =>
      rw [hp] at hphase hcut
      have hnext : (ts.find? (!·.isBreak)).any Token.endsName = false := by
        simpa [Phase.isName, ht] using hcut
      cases hq : q.phase with
      | name d name' row' =>
        rw [hq] at hphase
        cases hphase with
        | name hc => exact .hidden hq ⟨.call hc, h.pending, h.pending', h.messages⟩ hnext
      | _ =>
        rw [hq] at hphase
        cases hphase
    | _ =>
      rw [hp] at hphase
      exact .same ⟨hphase, h.pending, h.pending', h.messages⟩

theorem step_round (hround : t.isOperator "(" = true) {c : OpenCall}
    (hargument : c.inArgument = true) (hstring : c.inString = false) (r : Reader) :
    Reader.step g { r with phase := .call c } t =
      .ok { r with phase := .group c .round 1 t.row } := by
  obtain ⟨kind, text, row, column⟩ := t
  obtain ⟨keyword, start, arguments, argumentName, inArgument, inString⟩ := c
  simp only [Token.isOperator, Bool.and_eq_true, beq_iff_eq] at hround hargument hstring
  obtain ⟨rfl, rfl⟩ := hround
  subst hargument hstring
  rfl

theorem Near.token (hnone : g.options.comments = .none) (h : Near (t :: ts) r q)
    (ht : t.isBreak = false) (hsteady : q.Steady) : AlikeStep 0 [] (r.step g t) (q.step g t) := by
  cases h with
  | same h => exact h.step_zero hnone t
  | hidden hq h hnext =>
    rename_i c name row
    rw [List.find?_cons_of_pos (by simp [ht])] at hnext
    have hends : t.endsName = false := hnext
    simp only [Token.endsName, Bool.or_eq_false_iff] at hends
    obtain ⟨⟨hcomma, hclose⟩, hequals⟩ := hends
    have hstep := h.step_zero hnone t
    cases hround : t.isOperator "(" with
    | false =>
      -- The name is passed over, as it has been by the other reader.
      have hsame : q.step g t = Reader.step g { q with phase := .call c } t := by
        simp [step, hq, afterName, hcomma, hclose, hround, hequals]
      rwa [hsame]
    | true =>
      -- Both open a bracket; for one the argument starts at the name, for the other at the bracket.
      obtain ⟨hargument, hstring⟩ := hsteady c name row hq
      have hgroup : q.step g t = .ok { q with phase := .group c .round 1 row } := by
        simp [step, hq, afterName, hcomma, hclose, hround]
      rw [step_round hround hargument hstring] at hstep
      rw [hgroup]
      generalize r.step g t = x at hstep
      cases hstep with
      | ok h' =>
        rename_i r'
        have hphase := h'.phase
        refine .ok ⟨?_, h'.pending, h'.pending', h'.messages⟩
        generalize r'.phase = p at hphase
        cases hphase with
        | group hc => exact .group hc .round 1 _ _

/-- Apart from names that are cut off, breaks make no difference. -/
theorem Near.run (hnone : g.options.comments = .none) (h : Near ts r q) (hsteady : q.Steady)
    (hcut : r.cutsName g ts = false) :
    (q.run g (unbroken ts)).1.messages = (r.run g ts).1.messages ∧
      (q.run g (unbroken ts)).2 = (r.run g ts).2 := by
  induction ts generalizing r q with
  | nil =>
    cases h with
    | same h => exact ⟨h.messages, rfl⟩
    | hidden _ h _ => exact ⟨h.messages, rfl⟩
  | cons t ts ih =>
    cases ht : t.isBreak with
    | true =>
      -- Only the first reader sees a break; it does not stand behind a name, by `hcut`.
      have hstep := step_break hnone ht r
      rw [cutsName_cons hstep, Bool.or_eq_false_iff] at hcut
      have hunbroken : unbroken (t :: ts) = unbroken ts := List.filter_cons_of_neg (by simp [ht])
      rw [hunbroken, run_cons hstep]
      exact ih (h.break ht hcut.1) hsteady hcut.2
    | false =>
      have hstep := h.token hnone ht hsteady
      have hunbroken : unbroken (t :: ts) = t :: unbroken ts :=
        List.filter_cons_of_pos (by simp [ht])
      rw [hunbroken]
      cases hr : r.step g t with
      | error fault =>
        rw [hr] at hstep
        rw [Reader.run, Reader.run, hr]
        generalize q.step g t = y at hstep
        cases hstep with
        | error =>
          cases fault <;> cases h with
          | same h => exact ⟨h.messages, rfl⟩
          | hidden _ h _ => exact ⟨h.messages, rfl⟩
      | ok r' =>
        rw [cutsName_cons hr, Bool.or_eq_false_iff] at hcut
        rw [hr] at hstep
        cases hq : q.step g t with
        | error fault =>
          rw [hq] at hstep
          cases hstep
        | ok q' =>
          rw [hq] at hstep
          cases hstep with
          | ok h' =>
            rw [run_cons hr, run_cons hq]
            exact ih (.same h') (steady_step hq) hcut.2

end Reader

/-- Suppose that no comments are kept. Streams that agree apart from line breaks and comments give
the same messages, or the same fault, if in neither a break stands between a name in a call and a
comma, closing bracket or equals sign behind it. -/
theorem run_of_unbroken_eq {g : Reading} (hnone : g.options.comments = .none) {ts us : List Token}
    (hsame : unbroken ts = unbroken us) (hts : Reader.cutsName g {} ts = false)
    (hus : Reader.cutsName g {} us = false) :
    (Reader.run g {} ts).1.messages = (Reader.run g {} us).1.messages ∧
      (Reader.run g {} ts).2 = (Reader.run g {} us).2 := by
  have hstart (ts : List Token) : Reader.Near ts {} {} := .same (.refl rfl)
  have hsteady : Reader.Steady {} := Reader.steady_of_not_isName rfl
  have hleft := (hstart ts).run hnone hsteady hts
  have hright := (hstart us).run hnone hsteady hus
  rw [hsame] at hleft
  exact ⟨hleft.1.symm.trans hright.1, hleft.2.symm.trans hright.2⟩

def noteBeforeName : List Token :=
  (scan (textLines "_('x',  # canonical text\n default='d')\n".toList)).tokens

def noteBehindName : List Token :=
  (scan (textLines "_('x', default  # canonical text\n ='d')\n".toList)).tokens

theorem run_of_unbroken_eq_noteBeforeName :
    Reader.cutsName ⟨{}, .builtin, "f", 0⟩ {} noteBeforeName = false ∧
    (unbroken noteBeforeName).length + 2 = noteBeforeName.length ∧
    (Reader.run ⟨{}, .builtin, "f", 0⟩ {} (unbroken noteBeforeName)).1.messages =
      [{ text := some "x", comment := "Default: d", location := ⟨"f", 1⟩ }] := by
  have huncut : Reader.cutsName ⟨{}, .builtin, "f", 0⟩ {} noteBeforeName =
    false := by decide +kernel
  have hsame : unbroken (unbroken noteBeforeName) = unbroken noteBeforeName := by decide +kernel
  have hmessages := (run_of_unbroken_eq rfl hsame (by decide +kernel) huncut).1
  refine ⟨huncut, by decide +kernel, ?_⟩
  rw [hmessages]
  decide +kernel

/-- A comment behind the name of an argument stops the reader; without it there is a message. -/
theorem run_noteBehindName :
    (Reader.run ⟨{}, .builtin, "f", 0⟩ {} noteBehindName).2.isSome = true ∧
    (Reader.run ⟨{}, .builtin, "f", 0⟩ {} (unbroken noteBehindName)).2.isSome = false ∧
    (Reader.run ⟨{}, .builtin, "f", 0⟩ {} (unbroken noteBehindName)).1.messages =
      [{ text := some "x", comment := "Default: d", location := ⟨"f", 1⟩ }] := by
  refine ⟨?_, ?_, ?_⟩
  all_goals decide +kernel

end Harvest.Source
