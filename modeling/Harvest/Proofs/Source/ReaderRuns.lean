import Harvest.Proofs.Jobs
import Harvest.Proofs.Source.ReaderSteps

/-!
# The calls that a reader comes upon

Which calls a reader comes upon does not depend on what it does with comments and with their
messages, so readers with other options go through the same calls. Apart from flags and comments,
the messages of a reader are those of the calls that it is asked for.
-/

namespace Harvest.Source

/-! ## Calls and messages -/

def MarkedCall.wanted (options : Options) (c : MarkedCall) : Bool :=
  Reader.wantsDomain options c.parts.domain

def Phase.marked? (p : Phase) (t : Token) : Option MarkedCall :=
  (p.ended? t).bind fun c => c.parts?.map (⟨c.row, ·⟩)

def Reading.below (g : Reading) (k : Int) : Reading := { g with firstLine := g.firstLine + k }

namespace Reader

/-- The calls with messages that a reader comes upon, up to the one at which it stops if it does. -/
def calls (g : Reading) : Reader → List Token → List MarkedCall
  | _, [] => []
  | r, t :: ts =>
      (r.phase.marked? t).toList ++
        match r.step g t with
        | .ok r' => calls g r' ts
        | .error _ => []

variable {g : Reading} {r r' : Reader} {t : Token} {ts : List Token}

theorem run_cons (h : r.step g t = .ok r') (ts : List Token) : r.run g (t :: ts) = r'.run g ts := by
  rw [run, h]

theorem calls_cons (h : r.step g t = .ok r') (ts : List Token) :
    r.calls g (t :: ts) = (r.phase.marked? t).toList ++ r'.calls g ts := by
  rw [calls, h]

theorem exists_step_of_run (h : (r.run g (t :: ts)).2 = none) :
    ∃ r', r.step g t = .ok r' ∧ (r'.run g ts).2 = none := by
  cases hstep : r.step g t with
  | ok r' =>
    rw [run_cons hstep] at h
    exact ⟨r', rfl, h⟩
  | error fault =>
    rw [run, hstep] at h
    cases h

theorem bare_remark (g : Reading) (r : Reader) (text : Remark) (row : Nat) :
    (r.remark g text row).messages.map bare = r.messages.map bare ∧
      (r.remark g text row).warnings = r.warnings := by
  rcases remark_cases g r row with ⟨before, last, hmessages, hline⟩ | hapart
  · rw [remark_of_last hmessages hline]
    exact ⟨by simp [bare, hmessages], rfl⟩
  · rw [remark_of_apart hapart]
    exact ⟨rfl, rfl⟩

theorem bare_comment (g : Reading) (r : Reader) (t : Token) :
    (r.comment g t).messages.map bare = r.messages.map bare ∧
      (r.comment g t).warnings = r.warnings := by
  unfold comment
  split
  · exact bare_remark g r _ _
  · exact ⟨rfl, rfl⟩

theorem marked?_of_ended? {p : Phase} {c : OpenCall} (h : p.ended? t = some c) :
    p.marked? t = c.parts?.map (⟨c.row, ·⟩) := by
  unfold Phase.marked?
  rw [h, Option.bind_some]

theorem marked?_of_ended?_eq_none {p : Phase} (h : p.ended? t = none) : p.marked? t = none := by
  unfold Phase.marked?
  rw [h, Option.bind_none]

theorem bare_step (h : r.step g t = .ok r') :
    r'.messages.map bare = r.messages.map bare ++
      ((r.phase.marked? t).toList.filter (·.wanted g.options)).map
        (MarkedCall.message g.file g.firstLine) := by
  rcases token_cases r.phase t with ⟨hkind, hheeds⟩ | ⟨c, parts, hended, hparts⟩ |
    ⟨c, hended, hparts⟩ | ⟨hcomment, hended⟩
  · rw [step_of_comment hkind hheeds] at h
    cases h
    rw [(bare_comment _ _ _).1, marked?_of_ended?_eq_none (ended?_of_comment hkind)]
    exact (List.append_nil _).symm
  · rw [step_of_ended hended, closeCall_of_parts? hparts] at h
    rw [marked?_of_ended? hended, hparts, Option.map_some, Option.toList_some]
    rcases addMessage_cases h with ⟨hwanted, rfl⟩ | ⟨m, hwanted, hm, rfl⟩
    · simp [MarkedCall.wanted, hwanted]
    · have hbare := bare_of_message? hm
      simp [MarkedCall.wanted, hwanted, hbare]
  · rw [step_of_ended hended, closeCall_of_refusal hparts] at h
    obtain ⟨lines, -, rfl⟩ := exists_of_map_eq_ok h
    rw [marked?_of_ended? hended, hparts]
    exact (List.append_nil _).symm
  · obtain ⟨next, hnext⟩ := exists_moves_step g.keywords hcomment hended
    rw [hnext.eq g r rfl rfl] at h
    obtain ⟨p', -, rfl⟩ := exists_of_map_eq_ok h
    rw [marked?_of_ended?_eq_none hended]
    exact (List.append_nil _).symm

/-- Apart from flags and comments, the messages are those of the calls that are asked for,
in order. -/
theorem bare_run (h : (r.run g ts).2 = none) :
    (r.run g ts).1.messages.map bare = r.messages.map bare ++
      ((r.calls g ts).filter (·.wanted g.options)).map (MarkedCall.message g.file g.firstLine) := by
  induction ts generalizing r with
  | nil => exact (List.append_nil _).symm
  | cons t ts ih =>
    obtain ⟨r', hstep, h⟩ := exists_step_of_run h
    rw [run_cons hstep, calls_cons hstep, ih h, bare_step hstep,
      List.filter_append, List.map_append,
      List.append_assoc]

/-! ## Readers with other options -/

theorem isSome_message? (g : Reading) (r : Reader) (c : OpenCall) {parts : MessageParts}
    (htext : parts.text.isSome) : (r.message? g c parts).isSome := by
  obtain ⟨text, htext⟩ := Option.isSome_iff_exists.mp htext
  unfold message?
  rw [htext]
  rfl

/-- Whether a call stops the reader does not depend on the file or on the first line. -/
theorem exists_refusal {c : OpenCall} {file : String} {firstLine : Int} {lines : List String}
    (h : c.refusal file firstLine = .ok lines) (file' : String) (firstLine' : Int) :
    ∃ lines', c.refusal file' firstLine' = .ok lines' := by
  unfold OpenCall.refusal at h ⊢
  cases hkeyword : c.keyword with
  | some keyword =>
    dsimp only
    cases keyword.pick c.arguments with
    | ok parts => exact ⟨_, rfl⟩
    | error fault => exact ⟨_, rfl⟩
  | none =>
    rw [hkeyword] at h
    dsimp only at h ⊢
    cases hstring : translationString c.arguments with
    | some parts => exact ⟨_, rfl⟩
    | none =>
      rw [hstring] at h
      cases h

variable {g' : Reading} {q : Reader}

theorem step_lockstep (hkeywords : g'.keywords = g.keywords) (hphase : q.phase = r.phase)
    (htext : ∀ c ∈ r.phase.marked? t, c.parts.text.isSome) (h : r.step g t = .ok r') :
    ∃ q', q.step g' t = .ok q' ∧ q'.phase = r'.phase ∧
      (g'.file = g.file → g'.firstLine = g.firstLine → q.warnings = r.warnings →
        q'.warnings = r'.warnings) := by
  rcases token_cases r.phase t with ⟨hkind, hheeds⟩ | ⟨c, parts, hended, hparts⟩ |
    ⟨c, hended, hparts⟩ | ⟨hcomment, hended⟩
  · rw [step_of_comment hkind hheeds] at h
    cases h
    rw [← hphase] at hheeds
    refine ⟨_, step_of_comment hkind hheeds, ?_, fun _ _ hwarnings => ?_⟩
    · rw [(comment_keeps _ _ _).1, (comment_keeps _ _ _).1, hphase]
    · rw [(bare_comment _ _ _).2, (bare_comment _ _ _).2]
      exact hwarnings
  · -- A call with a text never fails, whether its message is asked for or not.
    have hgiven (g : Reading) (r : Reader) :
        ∃ ms, r.addMessage g c parts = .ok { r with messages := ms } := by
      cases hwanted : wantsDomain g.options parts.domain with
      | false => exact ⟨r.messages, addMessage_of_unwanted hwanted r c⟩
      | true =>
        have hsome : parts.text.isSome := htext ⟨c.row, parts⟩ (by
          rw [marked?_of_ended? hended, hparts]
          rfl)
        obtain ⟨m, hm⟩ := Option.isSome_iff_exists.mp (isSome_message? g r c hsome)
        exact ⟨r.messages ++ [m], by rw [addMessage_of_wanted hwanted, hm]; rfl⟩
    rw [step_of_ended hended, closeCall_of_parts? hparts] at h
    obtain ⟨ms, hms⟩ := hgiven g { r with phase := .idle }
    obtain ⟨ns, hns⟩ := hgiven g' { q with phase := .idle }
    rw [hms] at h
    cases h
    rw [← hphase] at hended
    refine ⟨{ q with phase := .idle, messages := ns }, ?_, rfl, fun _ _ hwarnings => hwarnings⟩
    rw [step_of_ended hended, closeCall_of_parts? hparts, hns]
  · rw [step_of_ended hended, closeCall_of_refusal hparts] at h
    obtain ⟨lines, hlines, rfl⟩ := exists_of_map_eq_ok h
    obtain ⟨lines', hlines'⟩ := exists_refusal hlines g'.file g'.firstLine
    rw [← hphase] at hended
    refine ⟨{ q with phase := .idle, warnings := q.warnings ++ lines' }, ?_, rfl,
      fun hfile hline hwarnings => ?_⟩
    · rw [step_of_ended hended, closeCall_of_refusal hparts, hlines']
      rfl
    · rw [hfile, hline, hlines] at hlines'
      cases hlines'
      rw [hwarnings]
  · obtain ⟨next, hnext⟩ := exists_moves_step g.keywords hcomment hended
    rw [hnext.eq g r rfl rfl] at h
    obtain ⟨p', rfl, rfl⟩ := exists_of_map_eq_ok h
    exact ⟨{ q with phase := p' }, hnext.eq g' q hkeywords hphase, rfl,
      fun _ _ hwarnings => hwarnings⟩

/-- If all calls have a text, readers with other options come upon the same calls. -/
theorem run_lockstep (hkeywords : g'.keywords = g.keywords) (hphase : q.phase = r.phase)
    (htext : ∀ c ∈ r.calls g ts, c.parts.text.isSome) (h : (r.run g ts).2 = none) :
    (q.run g' ts).2 = none ∧ q.calls g' ts = r.calls g ts ∧
      (g'.file = g.file → g'.firstLine = g.firstLine → q.warnings = r.warnings →
        (q.run g' ts).1.warnings = (r.run g ts).1.warnings) := by
  induction ts generalizing r q with
  | nil => exact ⟨rfl, rfl, fun _ _ hwarnings => hwarnings⟩
  | cons t ts ih =>
    obtain ⟨r', hstep, h⟩ := exists_step_of_run h
    rw [calls_cons hstep] at htext ⊢
    have hnow : ∀ c ∈ r.phase.marked? t, c.parts.text.isSome := fun c hc =>
      htext c (List.mem_append_left _ (Option.mem_toList.mpr hc))
    obtain ⟨q', hstep', hphase', hwarnings'⟩ := step_lockstep hkeywords hphase hnow hstep
    obtain ⟨hread, hcalls, hwarnings⟩ :=
      ih hphase' (fun c hc => htext c (List.mem_append_right _ hc)) h
    rw [run_cons hstep', run_cons hstep, calls_cons hstep', hcalls, hphase]
    exact ⟨hread, rfl, fun hfile hline h => hwarnings hfile hline (hwarnings' hfile hline h)⟩

end Reader

/-! ## Readers side by side -/

def ReadFault.shift (k : Nat) : ReadFault → ReadFault
  | .unexpected what row => .unexpected what (row + k)
  | .failure cause => .failure cause

/-- Two results that are related, or the same fault. -/
inductive Matched (k : Nat) {α β : Type} (R : α → β → Prop) :
    Except ReadFault α → Except ReadFault β → Prop
  | ok {a : α} {b : β} (h : R a b) : Matched k R (.ok a) (.ok b)
  | error (fault : ReadFault) : Matched k R (.error fault) (.error (fault.shift k))

theorem Matched.bind {k : Nat} {α β γ δ : Type} {R : α → β → Prop} {S : γ → δ → Prop}
    {x : Except ReadFault α} {y : Except ReadFault β} {f : α → Except ReadFault γ}
    {f' : β → Except ReadFault δ}
    (h : Matched k R x y) (hf : ∀ a b, R a b → Matched k S (f a) (f' b)) :
    Matched k S (x >>= f) (y >>= f') := by
  cases h with
  | ok h => exact hf _ _ h
  | error fault => exact .error fault

theorem Matched.ite {k : Nat} {α β : Type} {R : α → β → Prop} {p p' : Prop}
    [Decidable p] [Decidable p']
    {x x' : Except ReadFault α} {y y' : Except ReadFault β} (hp : p' ↔ p) (h : Matched k R x y)
    (h' : Matched k R x' y') : Matched k R (if p then x else x') (if p' then y else y') := by
  by_cases hcase : p
  · rwa [if_pos hcase, if_pos (hp.mpr hcase)]
  · rwa [if_neg hcase, if_neg fun hcase' => hcase (hp.mp hcase')]

theorem ReadFault.shift_zero (fault : ReadFault) : fault.shift 0 = fault := by
  cases fault <;> rfl

/-- The call that is being read has been looked up among these keywords. -/
def Phase.Known (keywords : KeywordTable) (p : Phase) : Prop :=
  ∀ h, p.head? = some h → ∃ name, h.1 = keywords.get? name

theorem Matched.fault {α β : Type} {R : α → β → Prop} (fault : ReadFault) :
    Matched 0 R (.error fault) (.error fault) := by
  have h : Matched 0 R (.error fault) (.error (fault.shift 0)) := .error fault
  rwa [fault.shift_zero] at h

namespace Reader

variable {g g' : Reading} {r r' q : Reader} {t : Token}

theorem known_step (h : r.phase.Known g.keywords) (hstep : r.step g t = .ok r') :
    r'.phase.Known g.keywords := by
  rcases token_cases r.phase t with ⟨hkind, hheeds⟩ | ⟨c, parts, hended, hparts⟩ |
    ⟨c, hended, hparts⟩ | ⟨hcomment, hended⟩
  · rw [step_of_comment hkind hheeds] at hstep
    cases hstep
    intro found hfound
    rw [(comment_keeps _ _ _).1, head?_settled] at hfound
    exact h found hfound
  · rw [step_of_ended hended] at hstep
    rw [(closeCall_places hstep).1]
    nofun
  · rw [step_of_ended hended] at hstep
    rw [(closeCall_places hstep).1]
    nofun
  · obtain ⟨next, hnext⟩ := exists_moves_step g.keywords hcomment hended
    rw [hnext.eq g r rfl rfl] at hstep
    obtain ⟨p', hp', rfl⟩ := exists_of_map_eq_ok hstep
    intro found hfound
    rcases hnext.head p' hp' found hfound with hsame | ⟨name, rfl⟩
    · exact h found hsame
    · exact ⟨name, rfl⟩

/-- Readers that go by `g` and by `g'` stay related if comments and closed calls keep them so:
between these a reader only moves on, and related readers are in the same phase. -/
structure Parallel (g g' : Reading) (R : Reader → Reader → Prop) : Prop where
  keywords : g'.keywords = g.keywords
  phase : ∀ {r q}, R r q → q.phase = r.phase
  move : ∀ {r q}, R r q → ∀ p, R { r with phase := p } { q with phase := p }
  comment : ∀ {r q}, R r q → ∀ t, R (r.comment g t) (q.comment g' t)
  close : ∀ {r q}, R r q → ∀ c name, c.keyword = g.keywords.get? name →
    Matched 0 R (r.closeCall g c) (q.closeCall g' c)

variable {R : Reader → Reader → Prop}

/-- Readers in step do the same with a token, or stop at the same fault. -/
theorem Parallel.step (hparallel : Parallel g g' R) (h : R r q) (hknown : r.phase.Known g.keywords)
    (t : Token) : Matched 0 R (r.step g t) (q.step g' t) := by
  have hphase := hparallel.phase h
  have hclose {c : OpenCall} (hended : r.phase.ended? t = some c) :
      Matched 0 R (r.step g t) (q.step g' t) := by
    obtain ⟨name, hname⟩ := hknown _ (head?_of_ended? hended)
    rw [step_of_ended hended, step_of_ended (hphase ▸ hended)]
    exact hparallel.close h c name hname
  rcases token_cases r.phase t with ⟨hkind, hheeds⟩ | ⟨c, parts, hended, hparts⟩ |
    ⟨c, hended, hparts⟩ | ⟨hcomment, hended⟩
  · rw [step_of_comment hkind hheeds, step_of_comment hkind (hphase ▸ hheeds), hphase]
    exact .ok (hparallel.comment (hparallel.move h _) t)
  · exact hclose hended
  · exact hclose hended
  · obtain ⟨next, hnext⟩ := exists_moves_step g.keywords hcomment hended
    rw [hnext.eq g r rfl rfl, hnext.eq g' q hparallel.keywords hphase]
    cases next with
    | ok p => exact .ok (hparallel.move h p)
    | error fault => exact .fault fault

/-- Readers in step stay so over all tokens, and stop at the same fault if at all. -/
theorem Parallel.run (hparallel : Parallel g g' R) (h : R r q) (hknown : r.phase.Known g.keywords)
    (ts : List Token) : (q.run g' ts).2 = (r.run g ts).2 ∧ R (r.run g ts).1 (q.run g' ts).1 := by
  induction ts generalizing r q with
  | nil => exact ⟨rfl, h⟩
  | cons t ts ih =>
    have hstep := hparallel.step h hknown t
    cases hr : r.step g t with
    | error fault =>
      rw [hr] at hstep
      rw [Reader.run, Reader.run, hr]
      generalize q.step g' t = y at hstep
      cases hstep with
      | error => exact ⟨congrArg some fault.shift_zero, h⟩
    | ok r' =>
      rw [hr] at hstep
      rw [Reader.run, Reader.run, hr]
      generalize q.step g' t = y at hstep
      cases hstep with
      | ok h' => exact ih h' (known_step hknown hr)

theorem known_idle (keywords : KeywordTable) : Phase.Known keywords .idle := nofun

end Reader

/-! ## Extractions that succeed -/

def warned (s : Session) (lines : List String) : Session :=
  lines.foldl (fun s line =>
    { s with printed := { s.printed with err := s.printed.err ++ line ++ "\n" } }) s

theorem run_forM_warn (s : Session) (lines : List String) :
    (ExceptT.run (lines.forM Job.warn)).run s = (.ok (), warned s lines) := by
  induction lines generalizing s with
  | nil => rfl
  | cons line lines ih => exact ih _

theorem keywords_warned (s : Session) (lines : List String) :
    (warned s lines).keywords = s.keywords := by
  induction lines generalizing s with
  | nil => rfl
  | cons line lines ih => exact ih _

/-- A reader concludes with its messages unless it or the scanner has come upon a fault. -/
theorem run_conclude_ok_iff {file : String} {firstLine : Int} {scanFault : Option ScanFault}
    {read : Reader × Option ReadFault} {s s' : Session} {ms : List Message} :
    (ExceptT.run (conclude file firstLine scanFault read)).run s = (.ok ms, s') ↔
      scanFault = none ∧ read.2 = none ∧ read.1.messages = ms ∧ warned s read.1.warnings = s' := by
  unfold conclude
  rw [ExceptT.run_bind, StateT.run_bind, run_forM_warn]
  obtain ⟨r, fault⟩ := read
  constructor
  · intro h
    cases fault with
    | some fault => cases fault <;> cases h
    | none =>
      cases scanFault with
      | some fault => cases fault <;> cases h
      | none =>
        cases h
        exact ⟨rfl, rfl, rfl, rfl⟩
  · rintro ⟨rfl, hfault, rfl, rfl⟩
    cases hfault
    rfl

/-- An extraction succeeds if the specifications can be read and neither the scanner nor the reader
comes upon a fault; it gives the messages of the reader and prints its warnings. -/
theorem run_extract_ok_iff {options : Options} {file : String} {firstLine : Int} {lines : List Line}
    {s s' : Session} {ms : List Message} :
    (ExceptT.run (extract options file firstLine lines)).run s = (.ok ms, s') ↔
      ∃ keywords r, s.keywords.addSpecs options.keywords = (keywords, none) ∧
        (scan lines).fault = none ∧
        Reader.run ⟨options, keywords, file, firstLine⟩ {} (scan lines).tokens = (r, none) ∧
        r.messages = ms ∧ warned { s with keywords } r.warnings = s' := by
  rcases hadded : s.keywords.addSpecs options.keywords with ⟨keywords, fault⟩
  cases fault with
  | some fault =>
    rw [run_extract_fault hadded]
    constructor
    · intro h
      cases h
    · rintro ⟨_, _, ⟨⟩, -⟩
  | none =>
    rw [run_extract hadded, run_conclude_ok_iff]
    constructor
    · rintro ⟨hscan, hread, hmessages, hsession⟩
      exact ⟨keywords, _, rfl, hscan, Prod.ext rfl hread, hmessages, hsession⟩
    · rintro ⟨_, r, ⟨⟩, hscan, hread, hmessages, hsession⟩
      rw [hread]
      exact ⟨hscan, rfl, hmessages, hsession⟩

end Harvest.Source
