import Harvest.Proofs.Source.MovedTokens

/-!
# One source after another

What is left over between statements is little, but not nothing: a reader that has come upon the
name of a keyword, or upon `def`, waits for the next token even if the line ends, and a scanner
remembers that a string broke off. Where neither makes a difference, the messages of two sources
written one below the other are the messages of the first and those of the second.
-/

namespace Harvest

namespace Text

theorem feedLinesFrom_append_of_ended {a : List Char} (ha : a.getLast? = some '\n')
    (line b : List Char) :
    feedLinesFrom line (a ++ b) = feedLinesFrom line a ++ feedLinesFrom [] b := by
  induction a generalizing line with
  | nil => cases ha
  | cons c a ih =>
    rw [List.cons_append, feedLinesFrom, feedLinesFrom]
    cases a with
    | nil =>
      have hc : c = '\n' := by simpa using ha
      rw [if_pos hc, if_pos hc]
      rfl
    | cons d a =>
      rw [List.getLast?_cons_cons] at ha
      by_cases hc : c = '\n'
      · rw [if_pos hc, if_pos hc, ih ha, List.cons_append]
      · rw [if_neg hc, if_neg hc, ih ha]

theorem feedLinesFrom_of_ended {a : List Char} (ha : a.getLast? = some '\n') (line : List Char) :
    (∀ l ∈ feedLinesFrom line a, l.getLast? = some '\n') ∧
    (feedLinesFrom line a).length = feeds a := by
  induction a generalizing line with
  | nil => cases ha
  | cons c a ih =>
    have hfeeds : feeds (c :: a) = feeds a + if c = '\n' then 1 else 0 := by
      unfold feeds
      rw [List.count_cons]
      simp
    rw [feedLinesFrom, hfeeds]
    cases a with
    | nil =>
      have hc : c = '\n' := by simpa using ha
      simp [hc, feedLinesFrom, feeds]
    | cons d a =>
      rw [List.getLast?_cons_cons] at ha
      by_cases hc : c = '\n'
      · obtain ⟨hends, hlength⟩ := ih ha []
        rw [if_pos hc, if_pos hc, List.forall_mem_cons, List.length_cons, hlength]
        exact ⟨⟨by simp [hc], hends⟩, rfl⟩
      · rw [if_neg hc, if_neg hc]
        exact ih ha (c :: line)

end Text

namespace Source

/-! ## Scanning on -/

def Scanner.after (s : Scanner) : List (List Char) → Scanner
  | [] => s
  | line :: lines =>
      match s.line line with
      | .next _ s' => s'.after lines
      | _ => s

variable {k : Nat} {s s' : Scanner}

theorem Scanner.after_of_next {line : List Char} {tokens : List Token}
    (h : s.line line = .next tokens s')
    (lines : List (List Char)) : s.after (line :: lines) = s'.after lines := by
  rw [Scanner.after, h]

theorem row_of_next {line : List Char} {tokens : List Token} (h : s.line line = .next tokens s') :
    s'.row = s.row + 1 := by
  unfold Scanner.line at h
  split at h
  · unfold Scanner.stringLine at h
    dsimp only at h
    split at h
    · cases h
      rfl
    · split at h <;> cases h <;> rfl
  · split at h
    · unfold Scanner.freshLine at h
      dsimp only at h
      split at h
      · cases h
      · split at h
        · cases h
          rfl
        · split at h
          · cases h
            rfl
          · split at h
            · cases h
              rfl
            · split at h
              · cases h
                rfl
              · cases h
    · cases h
      rfl

def Scanner.Nested (s : Scanner) : Prop := s.indents.Pairwise (· > ·) ∧ s.indents.head?.isSome

theorem Scanner.Nested.abreast (h : s.Nested) : s.Abreast 0 true s := by
  obtain ⟨top, htop⟩ := Option.isSome_iff_exists.mp h.2
  refine ⟨rfl, rfl, rfl, ?_, rfl, h.1, h.1, ⟨top, top, htop, htop, fun _ => rfl⟩, nofun⟩
  cases s.pending <;> rfl

theorem Scanner.Abreast.nested {started : Bool} (h : s.Abreast k started s') : s.Nested := by
  obtain ⟨top, -, htop, -⟩ := h.blocks
  exact ⟨h.sorted, htop ▸ rfl⟩

/-- A whole line keeps the indentations of open blocks in order, or is a fault by itself. -/
theorem Scanner.Nested.line (h : s.Nested) {line : List Char} (hend : line.getLast? = some '\n') :
    (∃ fault, s.line line = .fault [] fault) ∨
    ∃ tokens s', s.line line = .next tokens s' ∧ s'.Nested := by
  rcases line_move h.abreast hend with hfault | hfault | ⟨tokens, s', _, _, _,
    hnext, _, habreast, _⟩
  · exact .inl hfault
  · exact .inl hfault
  · exact .inr ⟨tokens, s', hnext, habreast.nested⟩

theorem lines_append {lines : List (List Char)} (hends : ∀ line ∈ lines, line.getLast? = some '\n')
    {last : List Char} (hlast : last = [] ∨ last.getLast? = some '\n') (h : s.Nested)
    (hscan : (s.lines last (lines.map .ok)).fault = none) :
    ∃ tokens last', (∀ rest, s.lines last (lines.map .ok ++ rest) =
        ((s.after lines).lines last' rest).prepend tokens) ∧
      (last' = [] ∨ last'.getLast? = some '\n') ∧ (s.after lines).Nested ∧
      (s.after lines).row = s.row + lines.length := by
  induction lines generalizing s last with
  | nil => exact ⟨[], last, fun rest => rfl, hlast, h, rfl⟩
  | cons line lines ih =>
    rw [List.forall_mem_cons] at hends
    rw [List.map_cons] at hscan
    rcases h.line hends.1 with ⟨fault, hfault⟩ | ⟨tokens, s', hnext, hnested⟩
    · rw [lines_of_fault hfault] at hscan
      cases hscan
    · rw [lines_of_next hnext] at hscan
      obtain ⟨more, last', hrest, hlast', hafter, hrow⟩ := ih hends.2 (.inr hends.1) hnested hscan
      rw [Scanner.after_of_next hnext]
      refine ⟨tokens ++ more, last', fun rest => ?_, hlast', hafter, ?_⟩
      · rw [List.map_cons, List.cons_append, lines_of_next hnext, hrest]
        unfold Scan.prepend
        rw [List.append_assoc]
      · rw [hrow, row_of_next hnext, List.length_cons]
        omega

/-- The tokens of a source that goes on after `a` are those of `a` up to its last statement, and
then those of `b` but for the tokens of blocks. -/
theorem scan_append {a b : List Char} (ha : a.getLast? = some '\n') (hb : b.getLast? = some '\n')
    (hscanA : (scan (textLines a)).fault = none) (hscanB : (scan (textLines b)).fault = none)
    (hscan : (scan (textLines (a ++ b))).fault = none)
    (hmark : Scanner.lines { needsMark := (Scanner.after {} (Text.feedLines a)).needsMark }
      [] (textLines b) = scan (textLines b)) :
    ∃ body dedents finish us, (scan (textLines a)).tokens = body ++ (dedents ++ [finish]) ∧
      (∀ t ∈ dedents, t.kind = .dedent) ∧ finish.kind = .finish ∧
      (scan (textLines (a ++ b))).tokens = body ++ us ∧
      Moved (Text.feeds a) false (scan (textLines b)).tokens us := by
  obtain ⟨hendsA, hlength⟩ := Text.feedLinesFrom_of_ended ha []
  obtain ⟨hendsB, -⟩ := Text.feedLinesFrom_of_ended hb []
  have hnested : Scanner.Nested {} := ⟨by simp, rfl⟩
  obtain ⟨body, last, hrest, hlast, hafter, hrow⟩ := lines_append hendsA (.inl rfl) hnested hscanA
  have hlines : textLines (a ++ b) = textLines a ++ textLines b := by
    unfold textLines Text.feedLines
    rw [Text.feedLinesFrom_append_of_ended ha, List.map_append]
  have hfirst : scan (textLines a) =
      ((Scanner.after {} (Text.feedLines a)).finish last).prepend body := by
    have hnothing := hrest []
    rw [List.append_nil] at hnothing
    exact hnothing
  have hboth : scan (textLines (a ++ b)) =
      ((Scanner.after {} (Text.feedLines a)).lines last (textLines b)).prepend body := by
    rw [hlines]
    exact hrest (textLines b)
  change (Scanner.after {} (Text.feedLines a)).Nested at hafter
  change (Scanner.after {} (Text.feedLines a)).row = 0 + (Text.feedLines a).length at hrow
  generalize Scanner.after {} (Text.feedLines a) = s at hmark hfirst hboth hafter hrow
  rw [hfirst] at hscanA ⊢
  rw [hboth] at hscan ⊢
  obtain ⟨hpending, hdepth, hcontinued⟩ := finish_fault_eq_none hscanA
  rw [finish_of_complete hpending hdepth hcontinued, finalTokens_of_ended hlast]
  refine ⟨body, _, _, _, rfl, fun t ht => ?_, rfl, rfl, ?_⟩
  · rw [(List.mem_replicate.mp ht).2]
  · -- After the first text the scanner is as at the start, but for its row and open blocks.
    have habreast : Scanner.Abreast (Text.feeds a) false { needsMark := s.needsMark } s := by
      obtain ⟨top, htop⟩ := Option.isSome_iff_exists.mp hafter.2
      refine ⟨?_, hdepth, hcontinued, hpending, rfl, hnested.1, hafter.1,
        ⟨0, top, rfl, htop, nofun⟩,
        fun _ => ⟨rfl, rfl, rfl⟩⟩
      rw [hrow, ← hlength]
      rfl
    rw [← hmark] at hscanB ⊢
    exact lines_move hendsB (.inl rfl) hlast habreast hscanB hscan

/-! ## Reading on -/

def Token.starts (keywords : KeywordTable) (t : Token) : Bool :=
  t.kind = .name && ((keywords.get? t.text).isSome || t.text = "_" || t.text = "def")

/-- Is this token read after what is left over as it is read at the start of a source? -/
def Phase.passes (keywords : KeywordTable) (t : Token) : Phase → Bool
  | .idle => true
  | .definition => !t.starts keywords
  | .keyword .. => !t.starts keywords && !t.isOperator "("
  | _ => false

def Phase.isOutside : Phase → Bool
  | .idle | .definition | .keyword .. => true
  | _ => false

namespace Reader

variable {earlier : List Message} {g : Reading} {r r' q : Reader} {t : Token} {ts us : List Token}

/-- The second reader is as far as the first, or it is left with something by tokens before, which
the next token makes it forget. -/
inductive Joined (k : Nat) (earlier : List Message) (keywords : KeywordTable)
    (ts : List Token) (r q : Reader) :
    Prop
  | alike (h : r.Alike k earlier q)
  | left (hr : r.phase = .idle) (hq : q.phase.isOutside = true) (hpending : r.pending = none)
      (hpending' : q.pending = none) (hmessages : q.messages = earlier ++ r.messages)
      (hfirst : ∀ t, ts.find? (!·.isGap) = some t → q.phase.passes keywords t = true)

theorem step_gap_outside (hnone : g.options.comments = .none) (ht : t.isGap = true)
    (houtside : r.phase.isOutside = true) : r.step g t = .ok r := by
  obtain ⟨phase, pending, messages, warnings⟩ := r
  rw [step_gap hnone ht]
  · cases phase with
    | idle | definition | keyword => rfl
    | call | name | group => cases houtside
  · intro _
    cases phase with
    | idle | definition | keyword => rfl
    | call | name | group => cases houtside

/-- Outside of calls, comments and layout are passed over. -/
theorem run_gaps_outside (hnone : g.options.comments = .none) {l : List Token}
    (hl : ∀ t ∈ l, t.isGap = true)
    (houtside : r.phase.isOutside = true) (ts : List Token) : r.run g (l ++ ts) = r.run g ts := by
  induction l with
  | nil => rfl
  | cons t l ih =>
    rw [List.forall_mem_cons] at hl
    rw [List.cons_append, run_cons (step_gap_outside hnone hl.1 houtside), ih hl.2]

theorem dispatch_of_not_gap (hgap : t.isGap = false) (r : Reader) :
    r.dispatch g t = r.handle g t := by
  unfold dispatch
  cases hkind : t.kind with
  | comment | indent | dedent | newline | breakOnly => simp [Token.isGap, hkind] at hgap
  | name | number | string | operator | stray | finish => rfl

theorem step_idle (hgap : t.isGap = false) (hr : r.phase = .idle)
    (hstarts : t.starts g.keywords = false) :
    r.step g t = .ok r := by
  have hmarks : (t.kind = .name && ((g.keywords.get? t.text).isSome || t.text = "_")) = false := by
    cases hname : decide (t.kind = .name) with
    | false => rfl
    | true =>
      simp only [Token.starts, hname, Bool.true_and, Bool.or_eq_false_iff] at hstarts ⊢
      exact hstarts.1
  have hdef : (t.kind = .name && t.text = "def") = false := by
    cases hname : decide (t.kind = .name) with
    | false => rfl
    | true =>
      simp only [Token.starts, hname, Bool.true_and, Bool.or_eq_false_iff] at hstarts ⊢
      exact hstarts.2
  simp only [step, hr, dispatch_of_not_gap hgap, handle, hmarks, hdef, Bool.false_eq_true, if_false]

theorem step_of_passes (hgap : t.isGap = false) (hpasses : q.phase.passes g.keywords t = true) :
    q.phase = .idle ∨ t.starts g.keywords = false ∧ q.step g t = .ok { q with phase := .idle } := by
  cases hq : q.phase with
  | idle => exact .inl rfl
  | definition =>
    rw [hq] at hpasses
    refine .inr ⟨by simpa [Phase.passes] using hpasses, ?_⟩
    simp only [step, hq, dispatch_of_not_gap hgap, handle]
  | keyword keyword row =>
    rw [hq] at hpasses
    obtain ⟨hstarts, hround⟩ : t.starts g.keywords = false ∧ t.isOperator "(" = false := by
      simpa [Phase.passes] using hpasses
    refine .inr ⟨hstarts, ?_⟩
    simp only [step, hq, dispatch_of_not_gap hgap, handle, hround, Bool.false_eq_true, if_false]
  | call | name | group =>
    rw [hq] at hpasses
    cases hpasses

/-- One token keeps the readers joined: what the tokens before have left is gone or still harmless.
-/
theorem Joined.step (hnone : g.options.comments = .none)
    (h : Joined k earlier g.keywords (t :: ts) r q) (hstep : r.step (g.below k) t = .ok r') :
    ∃ q', q.step g (t.shift k) = .ok q' ∧ Joined k earlier g.keywords ts r' q' := by
  have halike (h : r.Alike k earlier q) :
      ∃ q', q.step g (t.shift k) = .ok q' ∧ Joined k earlier g.keywords ts r' q' := by
    have hmatched := h.step hnone t
    rw [hstep] at hmatched
    cases hq : q.step g (t.shift k) with
    | error fault =>
      rw [hq] at hmatched
      cases hmatched
    | ok q' =>
      rw [hq] at hmatched
      cases hmatched with
      | ok h' => exact ⟨q', rfl, .alike h'⟩
  cases h with
  | alike h => exact halike h
  | left hr hq hpending hpending' hmessages hfirst =>
    cases hgap : t.isGap with
    | true =>
      rw [step_gap_outside (g := g.below k) hnone hgap (by rw [hr]; rfl)] at hstep
      cases hstep
      rw [List.find?_cons_of_neg (by simp [hgap])] at hfirst
      exact ⟨q, step_gap_outside hnone hgap hq, .left hr hq hpending hpending' hmessages hfirst⟩
    | false =>
      have hpasses := hfirst t (List.find?_cons_of_pos (by simp [hgap]))
      rcases step_of_passes (t := t.shift k) hgap hpasses with hidle | ⟨hstarts, hq'⟩
      · refine halike ⟨?_, hpending, hpending', hmessages⟩
        rw [hr, hidle]
        exact .idle
      · rw [step_idle (g := g.below k) hgap hr hstarts] at hstep
        cases hstep
        refine ⟨_, hq', .alike ⟨?_, hpending, hpending', hmessages⟩⟩
        rw [hr]
        exact .idle

theorem Joined.messages {keywords : KeywordTable} (h : Joined k earlier keywords ts r q) :
    q.messages = earlier ++ r.messages := by
  cases h with
  | alike h => exact h.messages
  | left _ _ _ _ hmessages _ => exact hmessages

theorem Joined.drop_gaps {keywords : KeywordTable} {l : List Token} (hl : ∀ t ∈ l, t.isGap = true)
    (h : Joined k earlier keywords (l ++ ts) r q) : Joined k earlier keywords ts r q := by
  cases h with
  | alike h => exact .alike h
  | left hr hq hpending hpending' hmessages hfirst =>
    have hgaps : l.find? (!·.isGap) = none := by simpa using hl
    rw [List.find?_append, hgaps, Option.none_or] at hfirst
    exact .left hr hq hpending hpending' hmessages hfirst

theorem Joined.settled {keywords : KeywordTable} (h : Joined k earlier keywords ts r q) :
    Joined k earlier keywords ts { r with phase := r.phase.settled }
      { q with phase := q.phase.settled } := by
  cases h with
  | alike h =>
    have hphase := h.phase
    refine .alike ⟨?_, h.pending, h.pending', h.messages⟩
    generalize r.phase = p, q.phase = p' at hphase
    cases hphase with
    | idle => exact .idle
    | definition => exact .definition
    | keyword keyword row => exact .keyword keyword row
    | call hc => exact .call hc
    | name hc => exact .call hc
    | group hc bracket depth row row' => exact .group hc bracket depth row row'
  | left hr hq hpending hpending' hmessages hfirst =>
    have hsettled : q.phase.settled = q.phase := by
      cases hphase : q.phase with
      | name c name row =>
        rw [hphase] at hq
        cases hq
      | _ => rfl
    rw [← hsettled] at hq hfirst
    exact .left (by rw [hr]; rfl) hq hpending hpending' hmessages hfirst

theorem heeds_of_step_dedent (ht : t.kind = .dedent) (h : r.step g t = .ok r') :
    r.phase.heeds = true := by
  cases hphase : r.phase with
  | group c bracket depth row => simp [step, hphase, inGroup, Token.isOperator, ht] at h
  | _ => rfl

theorem heeds_of_isOutside {p : Phase} (h : p.isOutside = true) : p.heeds = true := by
  cases p with
  | idle | definition | keyword => rfl
  | call | name | group => cases h

theorem Joined.heeds {keywords : KeywordTable} (h : Joined k earlier keywords ts r q)
    (hr : r.phase.heeds = true) : q.phase.heeds = true := by
  cases h with
  | alike h =>
    have hphase := h.phase
    generalize r.phase = p, q.phase = p' at hphase hr
    cases hphase with
    | idle | definition | keyword | call | name => rfl
    | group => cases hr
  | left _ hq _ _ _ _ => exact heeds_of_isOutside hq

theorem Joined.isOutside {keywords : KeywordTable} (h : Joined k earlier keywords ts r q)
    (hr : r.phase.isOutside = true) : q.phase.isOutside = true := by
  cases h with
  | alike h =>
    have hphase := h.phase
    generalize r.phase = p, q.phase = p' at hphase hr
    cases hphase with
    | idle | definition | keyword => rfl
    | call | name | group => cases hr
  | left _ hq _ _ _ _ => exact hq

theorem run_dedents (hnone : g.options.comments = .none) {l : List Token} (hne : l ≠ [])
    (hl : ∀ t ∈ l, t.kind = .dedent) (hheeds : r.phase.heeds = true) (ts : List Token) :
    r.run g (l ++ ts) = Reader.run g { r with phase := r.phase.settled } ts := by
  have hsettled : r.phase.settled.heeds = true ∧ r.phase.settled.settled = r.phase.settled := by
    cases hphase : r.phase with
    | group c bracket depth row =>
      rw [hphase] at hheeds
      cases hheeds
    | _ => exact ⟨rfl, rfl⟩
  have hgap {t : Token} (ht : t.kind = .dedent) : t.isGap = true := by simp [Token.isGap, ht]
  -- After the first dedent nothing changes.
  have hmore {l : List Token} (hl : ∀ t ∈ l, t.kind = .dedent) :
      Reader.run g { r with phase := r.phase.settled } (l ++ ts) =
        Reader.run g { r with phase := r.phase.settled } ts := by
    induction l with
    | nil => rfl
    | cons t l ih =>
      rw [List.forall_mem_cons] at hl
      have hstep := step_gap (r := { r with phase := r.phase.settled }) hnone (hgap hl.1) fun _ =>
        hsettled.1
      rw [List.cons_append, run_cons hstep, hsettled.2, ih hl.2]
  cases l with
  | nil => exact absurd rfl hne
  | cons t l =>
    rw [List.forall_mem_cons] at hl
    rw [List.cons_append, run_cons (step_gap hnone (hgap hl.1) fun _ => hheeds), hmore hl.2]

theorem step_finish (ht : t.kind = .finish) (houtside : r.phase.isOutside = true) :
    ∃ r', r.step g t = .ok r' ∧ r'.messages = r.messages := by
  cases hphase : r.phase with
  | idle => exact ⟨r, by simp [step, hphase, dispatch, handle, ht], rfl⟩
  | definition =>
    exact ⟨{ r with phase := .idle }, by simp [step, hphase, dispatch, handle, ht], rfl⟩
  | keyword keyword row =>
    exact ⟨{ r with phase := .idle }, by simp [step, hphase, dispatch, handle, ht,
      Token.isOperator], rfl⟩
  | call | name | group =>
    rw [hphase] at houtside
    cases houtside

theorem isOutside_of_step_finish (ht : t.kind = .finish) (h : r.step g t = .ok r') :
    r.phase.isOutside = true := by
  cases hphase : r.phase with
  | idle | definition | keyword => rfl
  | call c => simp [step, hphase, dispatch, handle, inCall, ht] at h
  | name c name row =>
    simp [step, hphase, afterName, Token.isOperator, dispatch, handle, inCall, ht] at h
  | group c bracket depth row => simp [step, hphase, inGroup, Token.isOperator, ht] at h

/-- A source that can be read to its end does not end in a call. -/
theorem isOutside_of_run_finish (hnone : g.options.comments = .none) {l : List Token}
    (hl : ∀ t ∈ l, t.kind = .dedent) (ht : t.kind = .finish) (h : (r.run g (l ++ [t])).2 = none) :
    r.phase.isOutside = true := by
  cases l with
  | nil =>
    obtain ⟨r', hstep, -⟩ := exists_step_of_run h
    exact isOutside_of_step_finish ht hstep
  | cons u l =>
    obtain ⟨r', hstep, -⟩ := exists_step_of_run h
    have hheeds := heeds_of_step_dedent (hl u List.mem_cons_self) hstep
    rw [run_dedents hnone (List.cons_ne_nil u l) hl hheeds] at h
    obtain ⟨r', hstep, -⟩ := exists_step_of_run h
    have houtside := isOutside_of_step_finish ht hstep
    cases hphase : r.phase with
    | idle | definition | keyword => rfl
    | call | name | group =>
      rw [hphase] at houtside
      cases houtside

/-- A run without a fault goes through the reader that the first tokens lead to. -/
theorem exists_run_append {l : List Token} (h : (r.run g (l ++ ts)).2 = none) :
    ∃ r' : Reader, (r'.run g ts).2 = none ∧ ∀ us, r.run g (l ++ us) = r'.run g us := by
  induction l generalizing r with
  | nil => exact ⟨r, h, fun us => rfl⟩
  | cons t l ih =>
    obtain ⟨r', hstep, h⟩ := exists_step_of_run h
    obtain ⟨q, hq, hrest⟩ := ih h
    exact ⟨q, hq, fun us => by rw [List.cons_append, run_cons hstep, hrest]⟩

theorem pending_run (hnone : g.options.comments = .none) (hpending : r.pending = none)
    (ts : List Token) :
    (r.run g ts).1.pending = none := by
  induction ts generalizing r with
  | nil => exact hpending
  | cons t ts ih =>
    have hsame := (Alike.refl hpending).step_zero hnone t
    cases hstep : r.step g t with
    | error fault =>
      rw [run, hstep]
      exact hpending
    | ok r' =>
      rw [hstep] at hsame
      rw [run_cons hstep]
      cases hsame with
      | ok h => exact ih h.pending

end Reader

variable {g : Reading} {earlier : List Message}

theorem isGap_of_dedent {l : List Token} (hl : ∀ t ∈ l, t.kind = .dedent) :
    ∀ t ∈ l, t.isGap = true := by
  intro t ht
  simp [Token.isGap, hl t ht]

/-- Tokens that differ only by those of blocks give the same messages after something else. -/
theorem Moved.run (hnone : g.options.comments = .none) {started : Bool} {ts us : List Token}
    (hmoved : Moved k started ts us) {r q : Reader} (h : Reader.Joined k earlier g.keywords ts r q)
    (hstarted : started = false → r.phase = .idle ∧ q.phase.isOutside = true)
    (hread : (r.run (g.below k) ts).2 = none) :
    (q.run g us).2 = none ∧
      (q.run g us).1.messages = earlier ++ (r.run (g.below k) ts).1.messages := by
  have hnone' : (g.below k).options.comments = .none := hnone
  -- Outside of calls both readers pass over the tokens that only one of the sources has.
  induction hmoved generalizing r q with
  | token t hmoved ih =>
    obtain ⟨r', hstep, hread⟩ := Reader.exists_step_of_run hread
    obtain ⟨q', hstep', h'⟩ := h.step hnone hstep
    rw [Reader.run_cons hstep, Reader.run_cons hstep']
    exact ih h' nofun hread
  | gap t ht hmoved ih =>
    obtain ⟨hr, hq⟩ := hstarted rfl
    have hstep : r.step (g.below k) t = .ok r := Reader.step_gap_outside hnone' ht (by rw [hr]; rfl)
    have hstep' : q.step g (t.shift k) = .ok q := Reader.step_gap_outside hnone ht hq
    rw [Reader.run_cons hstep] at hread ⊢
    rw [Reader.run_cons hstep']
    exact ih (Reader.Joined.drop_gaps (l := [t]) (List.forall_mem_singleton.mpr ht) h) hstarted
      hread
  | start hl hm hmoved ih =>
    obtain ⟨hr, hq⟩ := hstarted rfl
    rw [Reader.run_gaps_outside hnone' hl (by rw [hr]; rfl)] at hread ⊢
    rw [Reader.run_gaps_outside hnone hm hq]
    exact ih (h.drop_gaps hl) nofun hread
  | dedents hl hl' hm hm' hmoved ih =>
    rename_i l m ts us
    obtain ⟨u, l', rfl⟩ := List.exists_cons_of_ne_nil hl
    obtain ⟨r', hstep, -⟩ := Reader.exists_step_of_run hread
    have hheeds := Reader.heeds_of_step_dedent (hl' u List.mem_cons_self) hstep
    rw [Reader.run_dedents hnone' hl hl' hheeds] at hread ⊢
    rw [Reader.run_dedents hnone hm hm' (h.heeds hheeds)]
    exact ih (h.drop_gaps (isGap_of_dedent hl')).settled nofun hread
  | finish hl hm ht =>
    have houtside := Reader.isOutside_of_run_finish hnone' hl ht hread
    rw [Reader.run_gaps_outside hnone' (isGap_of_dedent hl) houtside] at hread ⊢
    rw [Reader.run_gaps_outside hnone (isGap_of_dedent hm) (h.isOutside houtside)]
    obtain ⟨r', hstep, hmessages⟩ := Reader.step_finish (g := g.below k) ht houtside
    obtain ⟨q', hstep', hmessages'⟩ :=
      Reader.step_finish (g := g) (t := Token.shift _ k) ht (h.isOutside houtside)
    rw [Reader.run_cons hstep, Reader.run_cons hstep']
    refine ⟨rfl, ?_⟩
    change q'.messages = earlier ++ r'.messages
    rw [hmessages, hmessages', h.messages]

/-- Suppose that no comments are kept, and that two sources with line ends give messages. If they
can be scanned one below the other, then this gives the messages of the first and then those of the
second, with lines counted on, provided that the second is scanned and that its first token is read
as at the start of a source: the first source may leave behind a string that broke off, and a name
that waits for the next token. -/
theorem extractText_append {options : Options} (hnone : options.comments = .none)
    {file : String} {firstLine : Int}
    {a b : List Char} (ha : a.getLast? = some '\n') (hb : b.getLast? = some '\n')
    {s sa sb : Session} {ma mb : List Message}
    (hfirst : (ExceptT.run (extractText options file firstLine a)).run s = (.ok ma, sa))
    (hsecond : (ExceptT.run (extractText options file (firstLine + Text.feeds a) b)).run s =
      (.ok mb, sb))
    (hscan : (scan (textLines (a ++ b))).fault = none)
    (hmark : Scanner.lines { needsMark := (Scanner.after {} (Text.feedLines a)).needsMark }
      [] (textLines b) = scan (textLines b))
    (hpasses : ∀ t, (scan (textLines b)).tokens.find? (!·.isGap) = some t →
      (Reader.run ⟨options, sa.keywords, file, firstLine⟩ {}
        (scan (textLines a)).tokens.dropLast).1.phase.passes sa.keywords t = true) :
    ∃ s', (ExceptT.run (extractText options file firstLine (a ++ b))).run s =
        (.ok (ma ++ mb), s') := by
  obtain ⟨keywords, ra, hkeywords, hscanA, hreadA, rfl, rfl⟩ := run_extract_ok_iff.mp hfirst
  obtain ⟨keywords', rb, hkeywords', hscanB, hreadB, rfl, rfl⟩ := run_extract_ok_iff.mp hsecond
  cases hkeywords.symm.trans hkeywords'
  rw [keywords_warned] at hpasses
  obtain ⟨body, dedents, finish, us, htokens, hdedents, hfinish, hboth, hmoved⟩ :=
    scan_append ha hb hscanA hscanB hscan hmark
  rw [htokens] at hreadA hpasses
  -- The reader `q` has read the first text up to the dedents at its end.
  obtain ⟨q, hreadQ, hrest⟩ := Reader.exists_run_append (congrArg Prod.snd hreadA)
  have houtside := Reader.isOutside_of_run_finish hnone hdedents hfinish hreadQ
  have hgaps := isGap_of_dedent hdedents
  have hbody := hrest []
  rw [List.append_nil] at hbody
  have hpending : q.pending = none := by
    have hkept := Reader.pending_run (g := ⟨options, keywords, file, firstLine⟩)
      (r := {}) hnone rfl body
    rwa [hbody] at hkept
  have hmessages : q.messages = ra.messages := by
    obtain ⟨r, hstep, hmessages⟩ :=
      Reader.step_finish (g := ⟨options, keywords, file, firstLine⟩) hfinish houtside
    rw [hrest, Reader.run_gaps_outside hnone hgaps houtside, Reader.run_cons hstep] at hreadA
    cases hreadA
    exact hmessages.symm
  have hphase : (Reader.run ⟨options, keywords, file, firstLine⟩ {}
      (body ++ (dedents ++ [finish])).dropLast).1.phase = q.phase := by
    have hend := Reader.run_gaps_outside (g := ⟨options, keywords, file, firstLine⟩)
      hnone hgaps houtside []
    rw [List.append_nil] at hend
    rw [← List.append_assoc, List.dropLast_concat, hrest, hend]
    rfl
  rw [hphase] at hpasses
  -- The second text starts where a new reader would, but for what `q` is left with.
  have hjoined :
      Reader.Joined (Text.feeds a) ra.messages keywords (scan (textLines b)).tokens {} q :=
    .left rfl houtside rfl hpending (by rw [hmessages]; exact (List.append_nil _).symm) hpasses
  obtain ⟨hread, hfound⟩ := hmoved.run (g := ⟨options, keywords, file, firstLine⟩) hnone hjoined
    (fun _ => ⟨rfl, houtside⟩) (congrArg Prod.snd hreadB)
  have hfound : (Reader.run ⟨options, keywords, file, firstLine⟩ q us).1.messages =
      ra.messages ++ rb.messages := by
    rw [hfound]
    exact congrArg (ra.messages ++ ·.1.messages) hreadB
  refine ⟨_, run_extract_ok_iff.mpr ⟨keywords, _, hkeywords, hscan, ?_, hfound, rfl⟩⟩
  rw [hboth, hrest]
  exact Prod.ext rfl hread

/-- A block at the end of which the name of a keyword is written without a call. -/
def nameAtEnd : List Char := "if x:\n    gettext('a'); f = gettext\n".toList

def callsBelow : List Char := "f('b')\nngettext('c', 'd', n)\n".toList

theorem extractText_append_nameAtEnd :
    (ExceptT.run (extractText {} "f" 0 nameAtEnd)).run {} =
      (.ok [{ text := some "a", location := ⟨"f", 2⟩ }], {}) ∧
    ∃ s', (ExceptT.run (extractText {} "f" 0 (nameAtEnd ++ callsBelow))).run {} =
      (.ok [{ text := some "a", location := ⟨"f", 2⟩ },
        { text := some "c", plural := some "d", location := ⟨"f", 4⟩ }], s') := by
  have hfirst : (ExceptT.run (extractText {} "f" 0 nameAtEnd)).run {} =
      (.ok [{ text := some "a", location := ⟨"f", 2⟩ }], {}) := Prod.ext_iff.mpr (by decide +kernel)
  have hsecond : (ExceptT.run (extractText {} "f" (0 + Text.feeds nameAtEnd) callsBelow)).run {} =
      (.ok [{ text := some "c", plural := some "d", location := ⟨"f", 4⟩ }], {}) :=
    Prod.ext_iff.mpr (by decide +kernel)
  have hmark : (Scanner.after {} (Text.feedLines nameAtEnd)).needsMark = false := by decide +kernel
  have hnext : (scan (textLines callsBelow)).tokens.find? (!·.isGap) = some ⟨.name, "f", 1, 0⟩ := by
    decide +kernel
  refine ⟨hfirst, extractText_append rfl rfl rfl hfirst hsecond (by decide +kernel) ?_ fun t ht =>
    ?_⟩
  · rw [hmark]
    rfl
  · rw [hnext] at ht
    cases ht
    decide +kernel

/-- A name on a line of its own and brackets on the next make a call, though neither line
has one. -/
theorem extractText_name_above_brackets :
    (ExceptT.run (extractText {} "f" 0 "gettext\n".toList)).run {} = (.ok [], {}) ∧
    (ExceptT.run (extractText {} "f" 1 "('foo')\n".toList)).run {} = (.ok [], {}) ∧
    (ExceptT.run (extractText {} "f" 0 "gettext\n('foo')\n".toList)).run {} =
      (.ok [{ text := some "foo", location := ⟨"f", 1⟩ }], {}) := by
  refine ⟨Prod.ext_iff.mpr ?_, Prod.ext_iff.mpr ?_, Prod.ext_iff.mpr ?_⟩
  all_goals decide +kernel

end Source

end Harvest
