import Harvest.Proofs.Source.ReaderRuns

/-!
# The same source further down in a file

A source that is part of a file is read with the number of the line before it. That number is added
to the rows of messages, to the rows of comments where they are compared with those of messages, and
to the rows that the user is told about. It decides nothing else: further down in a file, a source
gives the same messages or fails in the same way, and all lines are larger by the distance.
-/

namespace Harvest.Source

/-! ## What the user is told -/

/-- What the user is told while a source is extracted. -/
inductive Notice where
  | keyword (fault : Text.IntegerFault)
  | argument (part : Part) (line : Int)
  | aborted (line : Int) (what : String)
deriving DecidableEq, Repr

def Notice.text (file : String) : Notice → String
  | .keyword fault => fault.message
  | .argument part line => s!"{file}[{line}]: {part.complaint}"
  | .aborted line what => abortLine file line what

def Notice.shift (k : Int) : Notice → Notice
  | .keyword fault => .keyword fault
  | .argument part line => .argument part (line + k)
  | .aborted line what => .aborted (line + k) what

/-- The same is said in the second lines as in the first, about what is `k` lines further down. -/
def Told (file : String) (k : Int) (lines lines' : List String) : Prop :=
  ∃ notices : List Notice, lines = notices.map (Notice.text file) ∧
    lines' = (notices.map (Notice.shift k)).map (Notice.text file)

variable {file : String} {k : Int}

theorem Told.nil : Told file k [] [] := ⟨[], rfl, rfl⟩

theorem Told.append {a a' b b' : List String} (ha : Told file k a a') (hb : Told file k b b') :
    Told file k (a ++ b) (a' ++ b') := by
  obtain ⟨as, rfl, rfl⟩ := ha
  obtain ⟨bs, rfl, rfl⟩ := hb
  exact ⟨as ++ bs, by simp, by simp⟩

theorem below_row (n k : Int) (row : Int) : n + k + row = n + row + k := by omega

theorem told_warning? (fault : PickFault) (file : String) (n k : Int) :
    Told file k (fault.warning? file n).toList (fault.warning? file (n + k)).toList := by
  cases fault with
  | wrongCount => exact .nil
  | absent => exact .nil
  | notText part row =>
    refine ⟨[.argument part (n + row)], rfl, ?_⟩
    dsimp only [PickFault.warning?]
    rw [below_row]
    rfl

theorem refusal_below (c : OpenCall) (file : String) (n k : Int) :
    Matched 0 (Told file k) (c.refusal file n) (c.refusal file (n + k)) := by
  unfold OpenCall.refusal
  cases c.keyword with
  | some keyword =>
    dsimp only
    cases keyword.pick c.arguments with
    | ok parts => exact .ok .nil
    | error fault => exact .ok (told_warning? fault file n k)
  | none =>
    dsimp only
    cases translationString c.arguments with
    | none => exact .fault _
    | some parts => exact .ok .nil

/-! ## Readers -/

namespace Reader

/-- The second reader is as far as the first, in the same source `k` lines further down. -/
structure Below (file : String) (k : Int) (r q : Reader) : Prop where
  phase : q.phase = r.phase
  pending : q.pending = r.pending
  messages : q.messages = r.messages.map (·.shift k)
  warnings : Told file k r.warnings q.warnings

variable {g : Reading} {r q : Reader}

theorem Below.start : Below file k {} {} := ⟨rfl, rfl, rfl, .nil⟩

theorem Below.move (h : Below file k r q) (p : Phase) :
    Below file k { r with phase := p } { q with phase := p } :=
  ⟨rfl, h.pending, h.messages, h.warnings⟩

theorem Below.remark (h : Below file k r q) (text : Remark) (row : Nat) :
    Below file k (r.remark g text row) (q.remark (g.below k) text row) := by
  -- The last message and the remark are both further down, so they meet just if they did before.
  have hmeet (m : Message) : (m.shift k).location.line = (g.below k).firstLine + row ↔
      m.location.line = g.firstLine + row := by
    show m.location.line + k = g.firstLine + k + row ↔ _
    omega
  rcases remark_cases g r row with ⟨before, last, hmessages, hrow⟩ | hapart
  · have hmessages' : q.messages = before.map (·.shift k) ++ [last.shift k] := by
      rw [h.messages, hmessages, List.map_append]
      rfl
    rw [remark_of_last hmessages hrow, remark_of_last hmessages' ((hmeet last).mpr hrow)]
    refine ⟨h.phase, h.pending, ?_, h.warnings⟩
    rw [List.map_append]
    rfl
  · have hapart' (m : Message) (hm : q.messages.getLast? = some m) :
        m.location.line ≠ (g.below k).firstLine + row := by
      rw [h.messages, List.getLast?_map] at hm
      obtain ⟨last, hlast, rfl⟩ := Option.map_eq_some_iff.mp hm
      exact fun hrow => hapart last hlast ((hmeet last).mp hrow)
    rw [remark_of_apart hapart, remark_of_apart hapart', h.pending]
    exact ⟨h.phase, rfl, h.messages, h.warnings⟩

theorem Below.comment (h : Below file k r q) (t : Token) :
    Below file k (r.comment g t) (q.comment (g.below k) t) := by
  unfold Reader.comment
  have hoptions : (g.below k).options = g.options := rfl
  rw [hoptions]
  cases commentText? g.options.comments t.text with
  | none => exact h
  | some text => exact h.remark _ _

theorem Below.message? (h : Below file k r q) (c : OpenCall) (parts : MessageParts) :
    q.message? (g.below k) c parts = (r.message? g c parts).map (·.shift k) := by
  unfold Reader.message? remarkFor
  dsimp only
  rw [h.pending, Option.map_map]
  congr 1
  funext flags
  simp only [Function.comp_apply, Message.shift, Reading.below, below_row]

/-- A call that is closed further down gives the same message and warnings, with larger lines. -/
theorem Below.close (h : Below g.file k r q) (c : OpenCall) :
    Matched 0 (Below g.file k) (r.closeCall g c) (q.closeCall (g.below k) c) := by
  have hidle := h.move .idle
  cases hparts : c.parts? with
  | some parts =>
    rw [closeCall_of_parts? hparts, closeCall_of_parts? hparts]
    cases hwanted : wantsDomain g.options parts.domain with
    | false =>
      rw [addMessage_of_unwanted hwanted, addMessage_of_unwanted (g := g.below k) hwanted]
      exact .ok hidle
    | true =>
      rw [addMessage_of_wanted hwanted, addMessage_of_wanted (g := g.below k) hwanted,
        hidle.message?]
      cases Reader.message? g { r with phase := .idle } c parts with
      | none => exact .fault _
      | some m =>
        refine .ok ⟨rfl, h.pending, ?_, h.warnings⟩
        rw [List.map_append, ← h.messages]
        rfl
  | none =>
    rw [closeCall_of_refusal hparts, closeCall_of_refusal hparts]
    have hrefusal := refusal_below c g.file g.firstLine k
    change Matched 0 _ _ ((c.refusal g.file (g.firstLine + k)).map _)
    generalize c.refusal g.file g.firstLine = x, c.refusal g.file (g.firstLine + k) = y at hrefusal
    cases hrefusal with
    | ok hlines => exact .ok ⟨rfl, h.pending, h.messages, h.warnings.append hlines⟩
    | error fault => exact .error fault

theorem parallel_below (g : Reading) (k : Int) : Parallel g (g.below k) (Below g.file k) where
  keywords := rfl
  phase h := h.phase
  move h p := h.move p
  comment h t := h.comment t
  close h c _ _ := h.close c

/-- A source is read alike wherever it starts, and its messages move with it. -/
theorem run_below (g : Reading) (k : Int) (ts : List Token) :
    (Reader.run (g.below k) {} ts).2 = (Reader.run g {} ts).2 ∧
      Below g.file k (Reader.run g {} ts).1 (Reader.run (g.below k) {} ts).1 :=
  (parallel_below g k).run .start (known_idle g.keywords) ts

end Reader

/-! ## Extractions -/

/-- Whatever the session, the first job comes to this result and says these lines. -/
def Concludes {α : Type} (j : Job α) (result : Except Failure α) (lines : List String) : Prop :=
  ∀ s, (ExceptT.run j).run s = (result, warned s lines)

/-- The second job gives and says what the first does, with all lines larger by `k`. -/
def JobBelow (file : String) (k : Int) (j j' : Job (List Message)) : Prop :=
  ∃ result lines lines', Told file k lines lines' ∧ Concludes j result lines ∧
    Concludes j' (result.map (·.map (·.shift k))) lines'

theorem Concludes.after_warnings {α : Type} {j : Job α} {result : Except Failure α}
    {more : List String} (h : Concludes j result more) (lines : List String) :
    Concludes (lines.forM Job.warn >>= fun _ => j) result (lines ++ more) := by
  intro s
  have happend : warned s (lines ++ more) = warned (warned s lines) more := List.foldl_append ..
  rw [ExceptT.run_bind, StateT.run_bind, run_forM_warn, happend]
  exact h _

theorem JobBelow.after_warnings {j j' : Job (List Message)} (h : JobBelow file k j j')
    {lines lines' : List String} (htold : Told file k lines lines') :
    JobBelow file k (lines.forM Job.warn >>= fun _ => j)
      (lines'.forM Job.warn >>= fun _ => j') := by
  obtain ⟨result, more, more', hmore, hj, hj'⟩ := h
  exact ⟨result, _, _, htold.append hmore, hj.after_warnings lines, hj'.after_warnings lines'⟩

theorem jobBelow_throw (file : String) (k : Int) (cause : Failure) :
    JobBelow file k (throw cause) (throw cause) :=
  ⟨.error cause, [], [], .nil, fun _ => rfl, fun _ => rfl⟩

theorem jobBelow_abort (file : String) (n k : Int) (row : Nat) (what : String) :
    JobBelow file k (Job.abort (abortLine file (n + row) what))
      (Job.abort (abortLine file (n + k + row) what)) := by
  have htold : Told file k [abortLine file (n + row) what] [abortLine file (n + row + k) what] :=
    ⟨[.aborted (n + row) what], rfl, rfl⟩
  rw [below_row]
  exact ⟨.error (.exit 1), _, _, htold, fun _ => rfl, fun _ => rfl⟩

theorem jobBelow_readFailure (file : String) (n k : Int) (fault : ReadFault) :
    JobBelow file k (readFailure file n fault) (readFailure file (n + k) fault) := by
  cases fault with
  | unexpected what row => exact jobBelow_abort file n k row what
  | failure cause => exact jobBelow_throw file k cause

theorem jobBelow_scanFailure (file : String) (n k : Int) (fault : ScanFault) :
    JobBelow file k (scanFailure file n fault) (scanFailure file (n + k) fault) := by
  cases fault with
  | openString row column => exact jobBelow_abort file n k row _
  | openStatement row => exact jobBelow_abort file n k row _
  | badDedent => exact jobBelow_throw file k _
  | undecodable fault => exact jobBelow_throw file k _

/-- Readers in step conclude alike, and what they say differs in the lines only. -/
theorem jobBelow_conclude {read read' : Reader × Option ReadFault} (hfault : read'.2 = read.2)
    (h : Reader.Below file k read.1 read'.1) (n : Int) (scanFault : Option ScanFault) :
    JobBelow file k (conclude file n scanFault read) (conclude file (n + k) scanFault read') := by
  obtain ⟨r, fault⟩ := read
  obtain ⟨q, fault'⟩ := read'
  obtain rfl : fault' = fault := hfault
  cases fault' with
  | some fault => exact (jobBelow_readFailure file n k fault).after_warnings h.warnings
  | none =>
    cases scanFault with
    | some fault => exact (jobBelow_scanFailure file n k fault).after_warnings h.warnings
    | none =>
      have hdone : JobBelow file k (pure r.messages) (pure q.messages) := by
        rw [h.messages]
        exact ⟨.ok r.messages, [], [], .nil, fun _ => rfl, fun _ => rfl⟩
      exact hdone.after_warnings h.warnings

/-- From line `n + k` on instead of from line `n` on, a source gives the same messages `k` lines
further down, or the same failure. The same keywords are added to the session, and the user is told
the same with all lines larger by `k`. -/
theorem extract_shifted (options : Options) (file : String) (n k : Int)
    (lines : List Line) (s : Session) :
    let near := (ExceptT.run (extract options file n lines)).run s
    let far := (ExceptT.run (extract options file (n + k) lines)).run s
    let added : Session := { s with keywords := (s.keywords.addSpecs options.keywords).1 }
    far.1 = near.1.map (·.map (·.shift k)) ∧
      ∃ notices : List Notice, near.2 = warned added (notices.map (Notice.text file)) ∧
        far.2 = warned added ((notices.map (Notice.shift k)).map (Notice.text file)) := by
  rcases hadded : s.keywords.addSpecs options.keywords with ⟨keywords, fault⟩
  cases fault with
  | some fault =>
    rw [run_extract_fault hadded, run_extract_fault hadded]
    exact ⟨rfl, [.keyword fault], rfl, rfl⟩
  | none =>
    rw [run_extract hadded, run_extract hadded]
    obtain ⟨hfault, hbelow⟩ := Reader.run_below ⟨options, keywords, file, n⟩ k (scan lines).tokens
    obtain ⟨result, said, said', ⟨notices, rfl, rfl⟩, hnear, hfar⟩ :=
      jobBelow_conclude hfault hbelow n (scan lines).fault
    unfold Reading.below at hfar
    rw [hnear, hfar]
    exact ⟨rfl, notices, rfl, rfl⟩

end Harvest.Source
