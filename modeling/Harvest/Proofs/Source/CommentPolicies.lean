import Harvest.Proofs.Keywords
import Harvest.Proofs.Source.ReaderRuns

/-!
# Other comments are kept

Which comments are kept for translators changes the flags and comments of messages, and with the
flags what has to be looked at in a text. It does not change which messages are found: whatever
comments are kept, a source gives the same messages apart from these two, or fails in the same way.
A message without a text is different, since it is a fault unless flags say all about its format; so
all keywords must name one.
-/

namespace Harvest.Source

def Reading.withComments (g : Reading) (policy : CommentPolicy) : Reading :=
  { g with options := { g.options with comments := policy } }

namespace Reader

/-- The second reader is as far as the first and has found the same, apart from flags
and comments. -/
structure SameCalls (r q : Reader) : Prop where
  phase : q.phase = r.phase
  messages : q.messages.map bare = r.messages.map bare
  warnings : q.warnings = r.warnings

variable {g : Reading} {policy : CommentPolicy} {r q : Reader}

theorem SameCalls.move (h : SameCalls r q) (p : Phase) :
    SameCalls { r with phase := p } { q with phase := p } :=
  ⟨rfl, h.messages, h.warnings⟩

theorem SameCalls.comment (h : SameCalls r q) (t : Token) :
    SameCalls (r.comment g t) (q.comment (g.withComments policy) t) := by
  constructor
  · rw [(comment_keeps _ _ _).1, (comment_keeps _ _ _).1, h.phase]
  · rw [(bare_comment _ _ _).1, (bare_comment _ _ _).1, h.messages]
  · rw [(bare_comment _ _ _).2, (bare_comment _ _ _).2, h.warnings]

/-- With another policy a call that is closed gives the same message, apart from flags and comments.
-/
theorem SameCalls.close (h : SameCalls r q) {c : OpenCall} (htext : c.HasText) :
    Matched 0 SameCalls (r.closeCall g c) (q.closeCall (g.withComments policy) c) := by
  cases hparts : c.parts? with
  | some parts =>
    rw [closeCall_of_parts? hparts, closeCall_of_parts? hparts]
    cases hwanted : wantsDomain g.options parts.domain with
    | false =>
      rw [addMessage_of_unwanted hwanted,
        addMessage_of_unwanted (g := g.withComments policy) hwanted]
      exact .ok (h.move .idle)
    | true =>
      have hsome := isSome_text_of_parts? htext hparts
      obtain ⟨m, hm⟩ :=
        Option.isSome_iff_exists.mp (isSome_message? g { r with phase := .idle } c hsome)
      obtain ⟨m', hm'⟩ := Option.isSome_iff_exists.mp
        (isSome_message? (g.withComments policy) { q with phase := .idle } c hsome)
      have hbare : bare m' = bare m := (bare_of_message? hm').trans (bare_of_message? hm).symm
      rw [addMessage_of_wanted hwanted, addMessage_of_wanted (g := g.withComments policy) hwanted,
        hm, hm']
      refine .ok ⟨rfl, ?_, h.warnings⟩
      rw [List.map_append, List.map_append, h.messages, List.map_singleton,
        List.map_singleton, hbare]
  | none =>
    rw [closeCall_of_refusal hparts, closeCall_of_refusal hparts]
    change Matched 0 _ _ ((c.refusal g.file g.firstLine).map _)
    cases c.refusal g.file g.firstLine with
    | ok lines => exact .ok ⟨rfl, h.messages, congrArg (· ++ lines) h.warnings⟩
    | error fault => exact .fault fault

/-- Readers with different policies stay in step if every keyword has a place for the text. -/
theorem parallel_withComments (htext : ∀ entry ∈ g.keywords.entries, entry.2.text ≠ 0)
    (policy : CommentPolicy) : Parallel g (g.withComments policy) SameCalls where
  keywords := rfl
  phase h := h.phase
  move h p := h.move p
  comment h t := h.comment t
  close h _ _ hname :=
    h.close fun _ hk => htext _ (KeywordTable.mem_entries_of_get? (hname.symm.trans hk))

end Reader

/-! ## Extractions -/

/-- Readers in step conclude with the same messages up to comments, or with the same failure. -/
theorem run_conclude_sameCalls {read read' : Reader × Option ReadFault} (hfault : read'.2 = read.2)
    (h : Reader.SameCalls read.1 read'.1) (file : String) (firstLine : Int)
    (scanFault : Option ScanFault) (s : Session) :
    let one := (ExceptT.run (conclude file firstLine scanFault read)).run s
    let other := (ExceptT.run (conclude file firstLine scanFault read')).run s
    other.1.map (·.map bare) = one.1.map (·.map bare) ∧ other.2 = one.2 := by
  obtain ⟨r, fault⟩ := read
  obtain ⟨q, fault'⟩ := read'
  obtain rfl : fault' = fault := hfault
  unfold conclude
  rw [ExceptT.run_bind, ExceptT.run_bind, StateT.run_bind, StateT.run_bind,
    run_forM_warn, run_forM_warn,
    h.warnings]
  cases fault' with
  | some fault => exact ⟨rfl, rfl⟩
  | none =>
    cases scanFault with
    | some fault => exact ⟨rfl, rfl⟩
    | none => exact ⟨congrArg Except.ok h.messages, rfl⟩

/-- If all keywords name an argument for the message, then two extractions that differ in the
comments that are kept end in the same way: with the same failure, or with the same messages apart
from flags and comments. They print the same and leave the same session. -/
theorem extract_otherComments (options : Options) (policy policy' : CommentPolicy) (file : String)
    (firstLine : Int) (lines : List Line) (s : Session)
    (htext : ∀ entry ∈ (s.keywords.addSpecs options.keywords).1.entries, entry.2.text ≠ 0) :
    let one := (ExceptT.run (extract { options with comments := policy } file firstLine lines)).run
      s
    let other :=
      (ExceptT.run (extract { options with comments := policy' } file firstLine lines)).run s
    other.1.map (·.map bare) = one.1.map (·.map bare) ∧ other.2 = one.2 := by
  rcases hadded : s.keywords.addSpecs options.keywords with ⟨keywords, fault⟩
  rw [hadded] at htext
  have hone : s.keywords.addSpecs ({ options with comments := policy } : Options).keywords =
    (keywords, fault) := hadded
  have hother : s.keywords.addSpecs ({ options with comments := policy' } : Options).keywords =
    (keywords, fault) := hadded
  cases fault with
  | some fault =>
    rw [run_extract_fault hone, run_extract_fault hother]
    exact ⟨rfl, rfl⟩
  | none =>
    rw [run_extract hone, run_extract hother]
    let g : Reading := ⟨{ options with comments := policy }, keywords, file, firstLine⟩
    have hstart : Reader.SameCalls {} {} := ⟨rfl, rfl, rfl⟩
    obtain ⟨hfault, hsame⟩ := (Reader.parallel_withComments (g := g) htext policy').run hstart
      (Reader.known_idle keywords) (scan lines).tokens
    exact run_conclude_sameCalls hfault hsame file firstLine (scan lines).fault _

/-- A call of a keyword that the user names, with comments around it; one has flags. -/
def annotatedCall : List Line :=
  textLines "# [fuzzy] Shown first.\nt('%d page', '%d pages')  # NB: a count\ngettext(n)\n".toList

/-- With other comments kept, the message of the call has neither the flag nor the comments. -/
theorem extract_otherComments_annotatedCall :
    (∀ entry ∈ ((Session.keywords {}).addSpecs ["t:1,2"]).1.entries, entry.2.text ≠ 0) ∧
    (ExceptT.run (extract { comments := .all, keywords := ["t:1,2"] } "f" 0 annotatedCall)).run {} =
      (.ok [{ text := some "%d page", plural := some "%d pages", flags := ["fuzzy", "c-format"]
              comment := "Shown first.\nNB: a count", location := ⟨"f", 2⟩ }],
        { keywords := ((Session.keywords {}).addSpecs ["t:1,2"]).1
          printed := { err := "f[3]: Message argument must be a string\n" } }) ∧
    ((ExceptT.run (extract { comments := .none, keywords := ["t:1,2"] } "f" 0 annotatedCall)).run
      {}).1.map
        (·.map bare) =
      .ok [{ text := some "%d page", plural := some "%d pages", location := ⟨"f", 2⟩ }] := by
  have htext : ∀ entry ∈ ((Session.keywords {}).addSpecs ["t:1,2"]).1.entries,
      entry.2.text ≠ 0 := by
    decide +kernel
  have hall : (ExceptT.run
    (extract { comments := .all, keywords := ["t:1,2"] } "f" 0 annotatedCall)).run {} =
      (.ok [{ text := some "%d page", plural := some "%d pages", flags := ["fuzzy", "c-format"]
              comment := "Shown first.\nNB: a count", location := ⟨"f", 2⟩ }],
        { keywords := ((Session.keywords {}).addSpecs ["t:1,2"]).1
          printed := { err := "f[3]: Message argument must be a string\n" } }) :=
    Prod.ext_iff.mpr (by decide +kernel)
  have hsame := extract_otherComments { keywords := ["t:1,2"] } .all .none "f" 0
    annotatedCall {} htext
  refine ⟨htext, hall, hsame.1.trans ?_⟩
  rw [hall]
  rfl

end Harvest.Source
