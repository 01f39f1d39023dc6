import Harvest.Proofs.Catalog.EntryReading
import Harvest.Proofs.Text.Utf8

/-!
# Reading a written catalog

A written catalog starts with an entry about the whole, which is taken away again when it is read.
The other entries are read in the order in which they were written.
-/

namespace Harvest.Catalog

open Text

/-! ## The entry about the whole -/

theorem lineOf_remark {s : List Char} {rest : List (List Char)} (hhead : s.head? = some '#')
    (hwords : words s = ['#'] :: rest) : lineOf s = .role .remark s := by
  obtain ⟨hquote, hform⟩ := not_field_of_mark hhead
  have hkeyword : keywordRole? ['#'] = none := by decide
  unfold lineOf plainLine
  rw [(LineWords.of_words hwords).1, hkeyword]
  dsimp only
  rw [if_neg (by decide), if_neg hquote, if_neg hform, if_neg (by decide), if_pos (by decide)]

theorem reads_remark {s : List Char} {rest : List (List Char)} (hhead : s.head? = some '#')
    (hwords : words s = ['#'] :: rest) (hs : Unbroken s) (file : Option String) {stage : Stage}
    (hstage : stage = .start ∨ stage = .header) :
    Reads file [s] { stage } { stage := .header } False := by
  have htrim : (trimRight s).head? = some '#' := by
    obtain ⟨cs, rfl⟩ := List.head?_eq_some_iff.mp hhead
    have hhash : isBlank '#' = false := by decide
    simp [trimRight_cons, hhash]
  have hline := lineOf_remark htrim ((words_trimRight s).trans hwords)
  have happly : Reading.apply? { stage } .remark false (trimRight s) =
      some { stage := .header } := by
    rcases hstage with rfl | rfl <;> rfl
  exact (Reads.of_role (plain_of_mark hhead hwords (by decide) hs) hline happly).imp False.elim

theorem reads_remarks {contents : List (List Char)}
    (hcontents : ∀ content ∈ contents, Unbroken content) (file : Option String) :
    Reads file (contents.map ("# ".toList ++ ·)) { stage := .header }
      { stage := .header } False := by
  induction contents with
  | nil => exact .nil
  | cons content contents ih =>
    rw [List.forall_mem_cons] at hcontents
    have hwords : words ("# ".toList ++ content) = ['#'] :: words content :=
      words_append_blank (by decide) ['#'] content
    have hunbroken : Unbroken ("# ".toList ++ content) := by
      simpa [Unbroken] using hcontents.1
    exact (reads_remark rfl hwords hunbroken file (.inr rfl)).append (ih hcontents.2)

theorem exists_contents_ledLines (width : Int) (lead : List Char) {line : List Char}
    (hline : Unbroken line) :
    ∃ contents : List (List Char), ledLines width lead line = contents.map (lead ++ ·) ∧
      ∀ content ∈ contents, Unbroken content := by
  unfold ledLines
  split
  case isTrue =>
    obtain ⟨groups, hlines, hfills⟩ :=
      lines_eq_map (f := { width, first := lead, other := lead }) rfl rfl rfl line
    refine ⟨groups.map List.flatten, by simp [hlines], fun content hcontent => ?_⟩
    obtain ⟨group, hgroup, rfl⟩ := List.mem_map.mp hcontent
    have hplain (c : Char) (hc : c ∈ group.flatten) : c = ' ' ∨ isFillBlank c = false :=
      (hfills.mem_of_mem_flatten hgroup hc).imp id And.right
    exact ⟨fun h => absurd (hplain _ h) (by decide), fun h => absurd (hplain _ h) (by decide)⟩
  case isFalse => exact ⟨[line], rfl, by simpa using hline⟩

/-- No line of a comment is broken when it is written. -/
theorem exists_contents_commentLines (width : Int) (lead : String) {comment : String}
    (hcomment : '\r' ∉ comment.toList) :
    ∃ contents : List (List Char),
      (commentLines width lead comment).map String.toList = contents.map (lead.toList ++ ·) ∧
      ∀ content ∈ contents, Unbroken content := by
  have hlines : ∀ line ∈ comment.toList.splitOn '\n', Unbroken line := fun line hline =>
    ⟨notMem_of_mem_splitOn hline, fun h =>
      hcomment (join_splitOn '\n' comment.toList ▸ mem_join hline h)⟩
  rw [map_toList_commentLines]
  split
  · exact ⟨[], rfl, by simp⟩
  · generalize comment.toList.splitOn '\n' = lines at hlines
    induction lines with
    | nil => exact ⟨[], rfl, by simp⟩
    | cons line lines ih =>
      rw [List.forall_mem_cons] at hlines
      obtain ⟨first, hfirst, hunbroken⟩ := exists_contents_ledLines width lead.toList hlines.1
      obtain ⟨rest, hrest, hunbroken'⟩ := ih hlines.2
      refine ⟨first ++ rest, ?_, List.forall_mem_append.mpr ⟨hunbroken, hunbroken'⟩⟩
      rw [List.flatMap_cons, hfirst, hrest, List.map_append]

theorem exists_translation_eq (h : Header) :
    ∃ front, h.entry.translation.toList = front ++ ['\n'] := by
  have hlast : ∃ front, h.fields = front ++ [("Generated-By", "Lingua 4.14.0")] :=
    ⟨_, (List.append_assoc _ [_, _, _, _, _, _, _, _] [_]).symm⟩
  obtain ⟨front, hfields⟩ := hlast
  unfold Header.entry
  dsimp only
  rw [hfields, String.toList_join, List.map_append, List.flatMap_append]
  refine ⟨(front.map fun field => field.1 ++ ": " ++ field.2 ++ "\n").flatMap String.toList ++
    "Generated-By: Lingua 4.14.0".toList, ?_⟩
  simp

/-- The lines of the entry about the whole. -/
theorem entryLines_header (width : Int) (h : Header) :
    entryLines width h.entry = do
      let fieldLines ← entryFieldLines width h.entry
      return commentLines width "# " h.entry.translatorComment ++ ["#, fuzzy"] ++ fieldLines := by
  have hcomment : commentLines width "#. " h.entry.comment = [] := rfl
  unfold entryLines
  rw [hcomment]
  simp [Header.entry, occurrenceLines]

/-- The entry about the whole is read, apart from its title and its flags. -/
theorem exists_reads_header {width : Int} {h : Header} {written : List String}
    (hwritten : entryLines width h.entry = .ok written)
    (htitle : '\r' ∉ h.entry.translatorComment.toList) (file : Option String) :
    ∃ b flags, Reads file (['#'] :: written.map String.toList) {} b True ∧
      b.Done [{ text := some "", translation := h.entry.translation, flags }] := by
  rw [entryLines_header] at hwritten
  obtain ⟨fieldLines, hfields, hwritten⟩ := Except.bind_eq_ok hwritten
  obtain rfl := Except.ok.inj hwritten
  obtain ⟨contents, hcomments, hcontents⟩ := exists_contents_commentLines width "# " htitle
  have hwords : words ['#'] = [['#']] := by decide
  have hstart : Reads file [['#']] {} { stage := .header } False :=
    reads_remark rfl hwords ⟨by decide, by decide⟩ file (.inl rfl)
  have hopens : ({ stage := .header } : Reading).Opens [] { text := some "" } := ⟨rfl, rfl, rfl⟩
  have hflags : ∀ flag ∈ ["fuzzy"], Unbroken flag.toList := by
    intro flag hflag
    obtain rfl := List.mem_singleton.mp hflag
    exact ⟨by decide, by decide⟩
  obtain ⟨b, _, flags, hreadFlags, hb⟩ := hopens.exists_reads_flags hflags file
  obtain ⟨front, hfront⟩ := exists_translation_eq h
  have htranslation : EndsPlain h.entry.translation.toList := by simp [EndsPlain, hfront]
  obtain ⟨-, c, hreadFields, hstage, hentries, hcurrent⟩ :=
    exists_reads_entryFields hfields rfl rfl rfl
    (by simp [Header.entry, EndsPlain]) (by simp [Header.entry]) htranslation file hb rfl
  refine ⟨c, flags, ?_, hstage, by rw [hentries, hcurrent]; rfl⟩
  rw [List.map_append, List.map_append, hcomments]
  exact hstart.append (((reads_remarks hcontents file).append hreadFlags).append hreadFields)

/-! ## The other entries -/

/-- An entry that is in use and has no translation; it has plural forms if there is a plural. -/
structure Entry.Untranslated (e : Entry) : Prop where
  live : e.obsolete = false
  translation : e.translation = ""
  forms : e.forms = [] ↔ e.plural = ""

/-- The lines of entries are read as these entries, in order and after those read before. -/
theorem exists_reads_entries {width : Int} {entries : List Entry} {writtens : List (List String)}
    (hwritten : List.Forall₂ (fun e written => entryLines width e = .ok written) entries writtens)
    (hlegible : ∀ e ∈ entries, e.Legible width) (huntranslated : ∀ e ∈ entries, e.Untranslated)
    (hplural : ∀ e ∈ entries, e.plural = "") {file : Option String} {before : List (List Char)}
    {a : Reading} {read : List Entry} (hread : Reads file before {} a True) (ha : a.Done read) :
    ∃ b others,
      Reads file (before ++ writtens.flatMap fun written =>
        [] :: written.map String.toList) {} b True ∧
      b.Done (read ++ others) ∧ List.Forall₂ Entry.Rereads entries others := by
  induction hwritten generalizing before a read with
  | nil => exact ⟨a, [], by simpa using hread, by simpa using ha, .nil⟩
  | @cons e written entries writtens hfirst _ ih =>
    rw [List.forall_mem_cons] at hlegible huntranslated hplural
    obtain ⟨b, other, hentry, hb, hreread⟩ :=
      exists_reads_entry hfirst hlegible.1 huntranslated.1.live
      hplural.1 (huntranslated.1.forms.mpr hplural.1) huntranslated.1.translation file ha.opens
    -- An empty line stands before each entry and changes nothing.
    obtain ⟨c, others, hrest, hc, hrereads⟩ := ih hlegible.2 huntranslated.2 hplural.2
      ((hread.append .empty).append hentry) hb
    refine ⟨c, other :: others, ?_, ?_, .cons hreread hrereads⟩
    · simpa using hrest
    · simpa using hc

/-! ## The whole -/

theorem forall₂_of_mapM_eq_ok {ε α β : Type} {f : α → Except ε β} {xs : List α} {ys : List β}
    (h : xs.mapM f = .ok ys) : List.Forall₂ (fun x y => f x = .ok y) xs ys := by
  induction xs generalizing ys with
  | nil =>
    obtain rfl := Except.ok.inj h
    exact .nil
  | cons x xs ih =>
    rw [List.mapM_cons] at h
    obtain ⟨y, hy, h⟩ := Except.bind_eq_ok h
    obtain ⟨rest, hrest, h⟩ := Except.bind_eq_ok h
    obtain rfl := Except.ok.inj h
    exact .cons hy (ih hrest)

theorem exists_render_entry {width : Int} (hwidth : width ≤ 0 ∨ 2 < width) {e : Entry}
    (htext : e.text.isSome) : ∃ text, e.render width = .ok text := by
  have hfield := exists_fieldLines hwidth
  have htranslation (lead : String) : ∃ written, translationLines width lead e = .ok written := by
    unfold translationLines
    split
    · exact hfield ..
    · exact Except.exists_bind_eq_ok (exists_mapM_eq_ok fun form _ => hfield ..) fun _ => ⟨_, rfl⟩
  obtain ⟨text, htext⟩ := Option.isSome_iff_exists.mp htext
  have hfields : ∃ written, entryFieldLines width e = .ok written := by
    rw [entryFieldLines_eq, htext]
    refine Except.exists_bind_eq_ok ?_ fun context =>
      Except.exists_bind_eq_ok (hfield ..) fun text =>
      Except.exists_bind_eq_ok ?_ fun plural =>
        Except.exists_bind_eq_ok (htranslation _) fun _ => ⟨_, rfl⟩
    · cases e.context with
      | none => exact ⟨[], rfl⟩
      | some context => exact hfield ..
    · split
      · exact ⟨[], rfl⟩
      · exact hfield ..
  exact Except.exists_bind_eq_ok (Except.exists_bind_eq_ok hfields fun _ => ⟨_, rfl⟩) fun _ =>
    ⟨_, rfl⟩

theorem exists_render {c : Catalog} (hwidth : c.width ≤ 0 ∨ 2 < c.width)
    (htext : ∀ e ∈ c.entries, e.text.isSome) : ∃ text, c.render = .ok text := by
  refine Except.exists_bind_eq_ok (exists_mapM_eq_ok fun e he => exists_render_entry hwidth ?_)
    fun _ => ⟨_, rfl⟩
  simp only [List.cons_append, List.mem_cons, List.mem_append] at he
  rcases he with rfl | he | he
  · rfl
  · exact htext e (List.mem_of_mem_filter he)
  · exact htext e (List.mem_of_mem_filter he)

def feed (lines : List (List Char)) : List Char := lines.flatMap (· ++ ['\n'])

theorem exists_entryLines {width : Int} {entries : List Entry} {rendered : List String}
    (h : List.Forall₂ (fun e text => e.render width = .ok text) entries rendered) :
    ∃ writtens, List.Forall₂ (fun e written => entryLines width e = .ok written) entries writtens ∧
      rendered.map String.toList = writtens.map fun written =>
        feed (written.map String.toList) := by
  induction h with
  | nil => exact ⟨[], .nil, rfl⟩
  | cons hentry _ ih =>
    obtain ⟨written, hwritten, htext⟩ := Except.bind_eq_ok hentry
    obtain rfl := Except.ok.inj htext
    obtain ⟨writtens, hwrittens, hrendered⟩ := ih
    refine ⟨written :: writtens, .cons hwritten hwrittens, ?_⟩
    rw [List.map_cons, List.map_cons, hrendered, String.toList_join, feed, List.flatMap_map,
      List.flatMap_map]
    simp

def fileLines (header : List String) (writtens : List (List String)) : List (List Char) :=
  ['#'] :: header.map String.toList ++ writtens.flatMap fun written =>
    [] :: written.map String.toList

/-- A catalog in writing is the lines of its header and of its entries. -/
theorem exists_fileLines {c : Catalog} {text : String} (h : c.render = .ok text)
    (hlive : ∀ e ∈ c.entries, e.obsolete = false) :
    ∃ header writtens, entryLines c.width c.header.entry = .ok header ∧
      List.Forall₂ (fun e written => entryLines c.width e = .ok written) c.entries writtens ∧
      text.toList = feed (fileLines header writtens) := by
  -- All entries are in use, so they follow the one about the whole in their order.
  have hentries : c.header.entry :: live c.entries ++ c.entries.filter (·.obsolete) =
      c.header.entry :: c.entries := by
    have hall : live c.entries = c.entries :=
      List.filter_eq_self.mpr fun e he => by simp [hlive e he]
    have hnone : c.entries.filter (·.obsolete) = [] :=
      List.filter_eq_nil_iff.mpr fun e he => by simp [hlive e he]
    rw [hall, hnone, List.append_nil]
  unfold Catalog.render at h
  rw [hentries] at h
  obtain ⟨rendered, hrendered, h⟩ := Except.bind_eq_ok h
  obtain rfl := Except.ok.inj h
  obtain ⟨writtens, hwrittens, htexts⟩ := exists_entryLines (forall₂_of_mapM_eq_ok hrendered)
  cases hwrittens with
  | @cons _ header _ writtens hheader hothers =>
    refine ⟨header, writtens, hheader, hothers, ?_⟩
    have hjoin : "\n".toList.intercalate (rendered.map String.toList) =
        feed (header.map String.toList) ++
          writtens.flatMap fun written => '\n' :: feed (written.map String.toList) := by
      rw [htexts, List.map_cons]
      exact (join_cons ['\n'] _ _).trans (by rw [List.flatMap_map]; rfl)
    rw [String.toList_append, String.toList_intercalate, hjoin]
    simp [feed, fileLines, List.flatMap_assoc]

theorem withoutHeader?_cons {header : Entry} {others : List Entry} (hlive : header.obsolete = false)
    (htext : header.text = some "") (hcontext : header.context = none)
    (hothers : ∀ e ∈ others, ¬ (e.text = some "" ∧ (e.context.getD "").isEmpty = true)) :
    withoutHeader? (header :: others) = some others := by
  have hfound : (live (header :: others)).filter (·.text = some "") =
      header :: (live others).filter (·.text = some "") := by
    simp [live, hlive, htext]
  have hnone :
      ((live others).filter (·.text = some "")).filter (fun e => (e.context.getD "").isEmpty) =
        [] := by
    refine List.filter_eq_nil_iff.mpr fun e he hcontext => ?_
    obtain ⟨hmem, htext⟩ := List.mem_filter.mp he
    exact hothers e (List.mem_of_mem_filter hmem) ⟨by simpa using htext, hcontext⟩
  have hheader : headerOf? (header :: others) = some header := by
    unfold headerOf?
    dsimp only
    rw [hfound]
    split
    case h_1 h => cases h
    case h_2 e h => rw [(List.cons.inj h).1]
    case h_3 first rest _ h =>
      -- Of several entries without a text, the only one without a context is taken.
      obtain ⟨rfl, -⟩ := List.cons.inj h
      rw [List.filter_cons, hnone]
      simp [hcontext]
  unfold withoutHeader?
  rw [hheader]
  simp [eraseContent?]

end Harvest.Catalog
