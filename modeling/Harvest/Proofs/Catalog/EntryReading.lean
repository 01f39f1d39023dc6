import Harvest.Proofs.Catalog.LineReading
import Harvest.Proofs.Outcomes

/-!
# Reading a written entry

An entry without a plural is read as it was written, up to its flags and the blanks of its comment,
if what it holds is legible.
-/

namespace Harvest.Catalog

open Text

/-! ## Fields -/

/-- The lines of a field are read as its value, whatever they were cut into. -/
theorem exists_reads_fieldLines {label : String} {role : Role} (h : (label, role) ∈ keywords)
    {width : Int} {value : String} {written : List String}
    (hwritten : fieldLines width "" label value = .ok written) (hvalue : EndsPlain value.toList)
    (file : Option String) {a : Reading} (hallows : a.stage.allows role = true)
    (hdone : role = .translation → a.stage.isDone = false) :
    ∃ b, Reads file (written.map String.toList) a b True ∧ b.stage = .after role ∧
      b.entries = a.fresh.entries ∧ b.current = role.set value.toList a.fresh.current := by
  obtain ⟨part, parts, hflatten, hlines⟩ := fieldLines_eq hwritten hvalue
  rw [hlines, ← hflatten]
  exact exists_reads_field h file hallows hdone part parts

theorem Stage.allows_text_of_context {stage : Stage} (h : stage.allows .context = true) :
    stage.allows .text = true := by
  cases stage with
  | start => rfl
  | header => rfl
  | after role => cases role <;> first | rfl | exact absurd h (by decide)

/-- The lines of the fields of an entry, one field after the other. -/
theorem entryFieldLines_eq (width : Int) (e : Entry) :
    entryFieldLines width e =
      let lead := if e.obsolete then "#~ " else ""
      e.context.elim (pure []) (fieldLines width lead "msgctxt") >>= fun context =>
        e.text.elim (throw .noText) (fieldLines width lead "msgid") >>= fun text =>
          (if e.plural.isEmpty then pure [] else fieldLines width lead "msgid_plural" e.plural) >>=
            fun plural => translationLines width lead e >>= fun translation =>
              pure (context ++ text ++ plural ++ translation) := by
  unfold entryFieldLines
  cases e.context <;> cases e.text <;> cases e.plural.isEmpty <;> rfl

/-- The fields of an entry without plural: its context, its text and its translation. -/
theorem exists_of_entryFieldLines {width : Int} {e : Entry} {written : List String}
    (h : entryFieldLines width e = .ok written) (hlive : e.obsolete = false)
    (hplural : e.plural = "") (hforms : e.forms = []) :
    ∃ context text textLines translation,
      e.context.elim (pure []) (fieldLines width "" "msgctxt") = .ok context ∧
      e.text = some text ∧ fieldLines width "" "msgid" text = .ok textLines ∧
      fieldLines width "" "msgstr" e.translation = .ok translation ∧
      written = context ++ textLines ++ translation := by
  have hempty : translationLines width "" e = fieldLines width "" "msgstr" e.translation := by
    unfold translationLines
    rw [hforms]
    rfl
  rw [entryFieldLines_eq, hlive, hplural] at h
  obtain ⟨context, hcontext, h⟩ := Except.bind_eq_ok h
  obtain ⟨textLines, htext, h⟩ := Except.bind_eq_ok h
  obtain ⟨plural, hnone, h⟩ := Except.bind_eq_ok h
  obtain ⟨translation, htranslation, h⟩ := Except.bind_eq_ok h
  obtain rfl : [] = plural := Except.ok.inj hnone
  rw [List.append_nil] at h
  cases hsome : e.text with
  | none =>
    rw [hsome] at htext
    cases htext
  | some text =>
    rw [hsome] at htext
    exact ⟨context, text, textLines, translation, hcontext, rfl, htext, hempty ▸ htranslation,
      (Except.ok.inj h).symm⟩

/-- Reading the fields of an entry completes it. -/
theorem exists_reads_entryFields {width : Int} {e : Entry} {written : List String}
    (h : entryFieldLines width e = .ok written) (hlive : e.obsolete = false)
    (hplural : e.plural = "")
    (hforms : e.forms = []) (htext : ∀ text ∈ e.text, EndsPlain text.toList)
    (hcontext : ∀ context ∈ e.context, EndsPlain context.toList)
    (htranslation : EndsPlain e.translation.toList) (file : Option String) {a : Reading}
    {entries : List Entry} {current : Entry} (ha : a.Opens entries current)
    (hcurrent : current.context = none) :
    e.text.isSome ∧ ∃ b, Reads file (written.map String.toList) a b True ∧
      b.stage = .after .translation ∧ b.entries = entries ∧
      b.current = { current with
        obsolete := false, context := e.context, text := e.text, translation :=
          e.translation } := by
  obtain ⟨contextLines, text, textLines, translationLines, hcontextLines, hsome, htextLines,
    htranslationLines, rfl⟩ := exists_of_entryFieldLines h hlive hplural hforms
  -- The context comes first, if there is one.
  obtain ⟨b, before, hread, hallows, hb⟩ : ∃ b before,
      Reads file (contextLines.map String.toList) a b before ∧
      b.stage.allows .text = true ∧ b.fresh.entries = entries ∧
      b.fresh.current = { current with context := e.context } := by
    cases hctx : e.context with
    | none =>
      rw [hctx] at hcontextLines
      obtain rfl := Except.ok.inj hcontextLines
      refine ⟨a, _, .nil, Stage.allows_text_of_context ha.allowed, ha.entries_eq, ?_⟩
      rw [ha.current_eq, ← hcurrent]
    | some context =>
      rw [hctx] at hcontextLines
      have hkeyword : ("msgctxt", Role.context) ∈ keywords := by decide
      obtain ⟨b, hread, hstage, hentries, hset⟩ := exists_reads_fieldLines hkeyword hcontextLines
        (hcontext context hctx) file ha.allowed (by simp)
      have hfresh : b.fresh = b := Reading.fresh_of_not_done (by rw [hstage]; rfl)
      refine ⟨b, _, hread, by rw [hstage]; rfl, ?_, ?_⟩
      · rw [hfresh, hentries, ha.entries_eq]
      · rw [hfresh, hset, ha.current_eq]
        simp [Role.set]
  have hkeyword : ("msgid", Role.text) ∈ keywords := by decide
  obtain ⟨c, hread', hstage, hentries, hset⟩ := exists_reads_fieldLines hkeyword htextLines
    (htext text hsome) file hallows (by simp)
  have hfresh : c.fresh = c := Reading.fresh_of_not_done (by rw [hstage]; rfl)
  have hkeyword : ("msgstr", Role.translation) ∈ keywords := by decide
  obtain ⟨d, hread'', hstage', hentries', hset'⟩ :=
    exists_reads_fieldLines hkeyword htranslationLines
    htranslation file (by rw [hstage]; rfl) fun _ => by rw [hstage]; rfl
  refine ⟨by rw [hsome]; rfl, d, ?_, hstage', ?_, ?_⟩
  · rw [List.map_append, List.map_append]
    exact (hread.append hread').append hread''
  · rw [hentries', hfresh, hentries, hb.1]
  · rw [hset', hfresh, hset, hb.2, hsome]
    simp [Role.set]

/-! ## Entries -/

/-- No line of a comment that is read again holds a line end. -/
theorem Holds.unbroken {comment : List Char} {contents : List (List Char)}
    (h : Holds (comment.splitOn '\n') contents) (hcomment : '\r' ∉ comment) {content : List Char}
    (hcontent : content ∈ contents) : Unbroken content := by
  constructor
  · intro hc
    rcases h.plain content hcontent _ hc with hspace | ⟨line, hline, hc⟩
    · exact absurd hspace (by decide)
    · exact notMem_of_mem_splitOn hline hc
  · intro hc
    rcases h.plain content hcontent _ hc with hspace | ⟨line, hline, hc⟩
    · exact absurd hspace (by decide)
    · exact hcomment (join_splitOn '\n' comment ▸ mem_join hline hc)

/-- What can be read as it is written, apart from the blanks of a comment. An empty text without a
context would be taken for the entry about the whole. -/
structure Entry.Legible (width : Int) (e : Entry) : Prop where
  named : ¬ (e.text = some "" ∧ (e.context.getD "").isEmpty = true)
  text : ∀ text ∈ e.text, EndsPlain text.toList
  context : ∀ context ∈ e.context, EndsPlain context.toList
  comment : '\r' ∉ e.comment.toList ∧
    ∀ line ∈ e.comment.toList.splitOn '\n', FillsPlainly width "#. ".toList line
  translatorComment : e.translatorComment = ""
  occurrences : (∀ o ∈ e.occurrences, o.Legible) ∧ StarsKept width e.occurrences
  flags : ∀ flag ∈ e.flags, Unbroken flag.toList

/-- An entry as it is read again: flags may change, and so may the blanks of a comment. -/
def Entry.Rereads (e other : Entry) : Prop :=
  e.text.isSome ∧ ∃ contents flags, Holds (e.comment.toList.splitOn '\n') contents ∧
    other = { text := e.text, context := e.context, translation := e.translation, flags,
              comments := contents.foldl addContent [], occurrences := e.occurrences }

structure Reading.Done (a : Reading) (entries : List Entry) : Prop where
  stage : a.stage = .after .translation
  entries_eq : a.entries ++ [a.current] = entries

theorem Reading.Done.opens {a : Reading} {entries : List Entry} (h : a.Done entries) :
    a.Opens entries { text := some "" } := by
  have hfresh : a.fresh = { a with entries := entries, current := { text := some "" } } := by
    unfold Reading.fresh
    rw [h.stage, h.entries_eq]
    rfl
  refine ⟨by rw [h.stage]; rfl, ?_, ?_⟩ <;> rw [hfresh]

/-- The line of the flags can be read; nothing but the flags of the open entry changes. -/
theorem Reading.Opens.exists_reads_flags {flags : List String}
    (hflags : ∀ flag ∈ flags, Unbroken flag.toList) (file : Option String) {a : Reading}
    {entries : List Entry} {current : Entry} (ha : a.Opens entries current) :
    ∃ b closed read,
      Reads file ((if flags.isEmpty then [] else ["#, " ++ ", ".intercalate flags]).map
        String.toList) a b
        closed ∧
      b.Opens entries { current with flags := read } := by
  by_cases hempty : flags = []
  · exact ⟨a, False, current.flags, by simpa [hempty] using Reads.nil, ha⟩
  · have hmark : (',', Role.flags) ∈ marks := by decide
    have hcontent : Unbroken (", ".intercalate flags).toList := by
      have hmem {c : Char} (hc : c ∈ (", ".intercalate flags).toList) :
          c ∈ [',', ' '] ∨ ∃ flag ∈ flags, c ∈ flag.toList := by
        rw [String.toList_intercalate] at hc
        exact (mem_of_mem_join hc).imp id fun ⟨part, hpart, hc⟩ => by
          obtain ⟨flag, hflag, rfl⟩ := List.mem_map.mp hpart
          exact ⟨flag, hflag, hc⟩
      constructor
      · intro h
        rcases hmem h with h | ⟨flag, hflag, h⟩
        · exact absurd h (by decide)
        · exact (hflags flag hflag).1 h
      · intro h
        rcases hmem h with h | ⟨flag, hflag, h⟩
        · exact absurd h (by decide)
        · exact (hflags flag hflag).2 h
    obtain ⟨b, closed, hread, hb⟩ := ha.exists_reads_led hmark file hcontent
    have hline :
      (if flags.isEmpty then [] else ["#, " ++ ", ".intercalate flags]).map String.toList =
        [led ',' (", ".intercalate flags).toList] := by
      simp [hempty, led]
    rw [hline]
    split at hb
    · exact ⟨b, closed, current.flags, hread, hb⟩
    · exact ⟨b, closed, _, hread, hb⟩

/-- The lines of a legible entry are read as one more entry, the same up to flags and blanks. -/
theorem exists_reads_entry {width : Int} {e : Entry} {written : List String}
    (h : entryLines width e = .ok written) (hlegible : e.Legible width) (hlive : e.obsolete = false)
    (hplural : e.plural = "") (hforms : e.forms = []) (htranslation : e.translation = "")
    (file : Option String) {a : Reading} {entries : List Entry}
    (ha : a.Opens entries { text := some "" }) :
    ∃ b other, Reads file (written.map String.toList) a b True ∧ b.Done (entries ++ [other]) ∧
      e.Rereads other := by
  obtain ⟨fieldLines, hfields, h⟩ := Except.bind_eq_ok h
  obtain rfl := Except.ok.inj h
  rw [hlive, hlegible.translatorComment]
  simp only [Bool.false_eq_true, if_false, List.map_append]
  -- Comments, occurrences and flags are added to an empty entry, and its fields complete it.
  obtain ⟨contents, hcomments, hholds⟩ := exists_holds_comment hlegible.comment.2
  obtain ⟨places, hplaces, hwords, hunbroken⟩ :=
    exists_occurrenceContents hlegible.occurrences.1 hlegible.occurrences.2
  have hcontents : ∀ content ∈ contents, Unbroken content :=
    fun content hcontent => hholds.unbroken hlegible.comment.1 hcontent
  have hparsed : (places.flatMap words).map Occurrence.parse = e.occurrences := by
    rw [hwords, List.map_map]
    exact (List.map_congr_left fun o ho => (hlegible.occurrences.1 o ho).parse_render).trans
      (List.map_id _)
  have hmark : ('.', Role.generated) ∈ marks := by decide
  obtain ⟨b, _, hreadComments, hb⟩ := ha.exists_reads_leds hmark file hcontents
  rw [foldl_add_generated] at hb
  have hmark : (':', Role.occurrences) ∈ marks := by decide
  obtain ⟨c, _, hreadPlaces, hc⟩ := hb.exists_reads_leds hmark file hunbroken
  rw [foldl_add_occurrences] at hc
  obtain ⟨d, _, flags, hreadFlags, hd⟩ := hc.exists_reads_flags hlegible.flags file
  obtain ⟨hsome, b', hreadFields, hstage, hentries, hcurrent⟩ :=
    exists_reads_entryFields hfields hlive
    hplural hforms hlegible.text hlegible.context (by rw [htranslation]; decide) file hd rfl
  refine ⟨b', _, ?_, ⟨hstage, by rw [hentries, hcurrent]⟩, hsome, contents, flags, hholds, ?_⟩
  · have hnone : commentLines width "# " "" = [] := rfl
    rw [hcomments, hplaces, hnone, List.map_nil, List.append_nil]
    exact ((hreadComments.append hreadPlaces).append hreadFlags).append hreadFields
  · rw [hparsed]
    rfl

end Harvest.Catalog
