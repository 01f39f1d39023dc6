import Harvest.Proofs.Catalog.Charset
import Harvest.Proofs.Catalog.Compare

/-!
# Recognising a written catalog

A catalog is not written again if the file counts as the same. A legible catalog that was written
and is read from its file counts as the same exactly if it has no plurals and its comments are kept.
-/

namespace Harvest.Catalog

open Text

/-! ## Reading the file -/

/-- A catalog that can be read as it is written, apart from plurals and the blanks of comments. -/
structure Legible (c : Catalog) : Prop where
  header : c.header.Legible
  entries : ∀ e ∈ c.entries, e.Legible c.width

theorem decodeFile?_encodeUtf8 {s : List Char} (h : codecOf (encodeUtf8 s) = .utf8) :
    decodeFile? (encodeUtf8 s) = some s := by
  unfold decodeFile?
  rw [h, decodeUtf8_encodeUtf8]
  rfl

/-- A file whose lines can be read is loaded as the entries without the header. -/
theorem Reads.load_eq {ls : List (List Char)} {file : String} {b : Reading}
    {entries found : List Entry} (h : Reads (some file) ls {} b True) (hb : b.Done entries)
    (hfound : withoutHeader? entries = some found)
    (hcodec : codecOf (encodeUtf8 (feed ls)) = .utf8) :
    load file (encodeUtf8 (feed ls)) = .ok found := by
  have hreturn : '\r' ∉ feed ls := by
    intro hmem
    obtain ⟨line, hline, hmem⟩ := List.mem_flatMap.mp hmem
    rcases List.mem_append.mp hmem with hmem | hmem
    · exact (h.unbroken line hline).2 hmem
    · exact absurd hmem (by decide)
  have hlines : feedLines (feed ls) = ls.map (· ++ ['\n']) :=
    feedLines_flatMap fun line hline => (h.unbroken line hline).1
  obtain ⟨r, hrun, hreading, hclosed⟩ := h.run {} rfl
  obtain ⟨hany, hcomment⟩ := hclosed trivial
  have hentries : r.entries = entries := by
    unfold Reader.entries
    rw [hany, hcomment, hreading, ← hb.entries_eq]
    rfl
  unfold load
  rw [decodeFile?_encodeUtf8 hcodec]
  dsimp only
  rw [unifyLineEnds_of_notMem hreturn, hlines]
  unfold readLines
  rw [hrun]
  rw [← hentries] at hfound
  simp only [Except.mapError, bind, Except.bind, hfound]
  rfl

theorem Entry.Rereads.key_eq {e other : Entry} (h : e.Rereads other) : other.key = e.key := by
  obtain ⟨-, contents, flags, -, rfl⟩ := h
  rfl

theorem map_key_of_rereads {entries others : List Entry}
    (h : List.Forall₂ Entry.Rereads entries others) :
    others.map Entry.key = entries.map Entry.key := by
  induction h with
  | nil => rfl
  | cons hfirst _ ih => rw [List.map_cons, List.map_cons, hfirst.key_eq, ih]

/-- A legible catalog without plurals is loaded, entry by entry, as it was written. -/
theorem exists_load {c : Catalog} {text : String} (hrender : c.render = .ok text)
    (hlegible : c.Legible) (huntranslated : ∀ e ∈ c.entries, e.Untranslated)
    (hplural : ∀ e ∈ c.entries, e.plural = "") (file : String) :
    ∃ others, load file (encodeUtf8 text.toList) = .ok others ∧
      List.Forall₂ Entry.Rereads c.entries others := by
  obtain ⟨header, writtens, hheader, hwrittens, htext⟩ :=
    exists_fileLines hrender fun e he => (huntranslated e he).live
  obtain ⟨a, flags, hreadHeader, ha⟩ :=
    exists_reads_header hheader hlegible.header.title.1 (some file)
  obtain ⟨b, others, hread, hb, hrereads⟩ :=
    exists_reads_entries hwrittens hlegible.entries huntranslated hplural hreadHeader ha
  -- Nothing before the line with the encoding mentions one, and what comes after it does not count.
  have hcodec : codecOf (encodeUtf8 (feed (fileLines header writtens))) = .utf8 := by
    obtain ⟨before, after, hsplit, hbefore⟩ := exists_header_split hheader hlegible.header
    have hlines : fileLines header writtens = (['#'] :: before) ++ quoted typeLine ::
        (after ++ writtens.flatMap fun written => [] :: written.map String.toList) := by
      simp [fileLines, hsplit]
    have hunbroken : ∀ line ∈ fileLines header writtens, '\n' ∉ line :=
      fun line hline => (hread.unbroken line hline).1
    rw [hlines] at hunbroken ⊢
    refine codecOf_feed (fun line hline => ?_) hunbroken
    rcases List.mem_cons.mp hline with rfl | hline
    · decide
    · exact hbefore line hline
  have hothers : ∀ other ∈ others, ¬ (other.text = some "" ∧
      (other.context.getD "").isEmpty = true) := by
    intro other hother
    -- The texts and contexts are those of the catalog.
    have hkey : other.key ∈ c.entries.map Entry.key :=
      map_key_of_rereads hrereads ▸ List.mem_map_of_mem hother
    obtain ⟨e, he, hkey⟩ := List.mem_map.mp hkey
    have htext : e.text = other.text := congrArg Prod.fst hkey
    have hcontext : e.context = other.context := congrArg Prod.snd hkey
    rw [← htext, ← hcontext]
    exact (hlegible.entries e he).named
  refine ⟨others, ?_, hrereads⟩
  rw [htext]
  exact hread.load_eq hb (withoutHeader?_cons rfl rfl rfl hothers) hcodec

/-! ## Comparing -/

/-- Entries as they are made from messages: one for each text, and none with a translation. -/
structure Fresh (entries : List Entry) : Prop where
  distinct : (entries.map Entry.key).Nodup
  untranslated : ∀ e ∈ entries, e.Untranslated

theorem Fresh.live_eq {entries : List Entry} (h : Fresh entries) : live entries = entries :=
  List.filter_eq_self.mpr fun e he => by simp [(h.untranslated e he).live]

theorem mem_of_lastFor? {entries : List Entry} {key : Key} {e : Entry}
    (h : lastFor? entries key = some e) : e ∈ entries :=
  List.mem_of_mem_filter (List.mem_reverse.mp (List.mem_of_find?_eq_some h))

theorem lastFor?_of_mem {entries : List Entry} (h : Fresh entries) {e : Entry} (he : e ∈ entries) :
    lastFor? entries e.key = some e := by
  have hkey : e.key ∈ liveKeys entries := by
    unfold liveKeys
    rw [h.live_eq]
    exact List.mem_map_of_mem he
  obtain ⟨x, hx⟩ := Option.isSome_iff_exists.mp (isSome_lastFor?_iff.mpr hkey)
  rwa [List.inj_on_of_nodup_map h.distinct (mem_of_lastFor? hx) he (key_of_lastFor? hx).1] at hx

theorem plural_eq_of_same {entries others : List Entry} (h : Fresh entries)
    (hsame : compareEntries entries others = .same) {e : Entry} (he : e ∈ entries) :
    e.plural = "" := by
  obtain ⟨hkeys, hagree⟩ := (compareEntries_eq_same_iff_agrees entries others).mp hsame
  have hlast := lastFor?_of_mem h he
  have hkey := (hkeys e.key).mp (isSome_lastFor?_iff.mp (Option.isSome_iff_exists.mpr ⟨e, hlast⟩))
  obtain ⟨other, hother⟩ := Option.isSome_iff_exists.mp (isSome_lastFor?_iff.mpr hkey)
  exact (h.untranslated e he).forms.mp (hagree e.key e other hlast hother).forms.1

theorem toList_comment_foldl (contents : List (List Char)) :
    ("\n".intercalate (contents.foldl addContent [])).toList = joinedComment contents := by
  rw [foldl_addContent]
  split
  case isTrue hnil =>
    unfold joinedComment
    rw [hnil]
    rfl
  case isFalse => simp

/-- An entry agrees with what is read of it just if the blanks at the ends of its comment are kept.
-/
theorem Entry.Rereads.agrees_iff {e other : Entry} (h : e.Rereads other) (hplural : e.plural = "")
    (hforms : e.forms = []) (htranslator : e.translatorComment = "") :
    e.Agrees other ↔ CommentKept e.comment.toList := by
  obtain ⟨htext, contents, flags, hholds, rfl⟩ := h
  rw [← collapse_joinedComment_iff hholds, ← toList_comment_foldl]
  constructor
  · exact fun hagrees => hagrees.comment
  · intro hcomment
    exact {
      occurrences := .refl _
      plural := by rw [hplural]
      forms := ⟨hforms, rfl⟩
      text := htext
      translation := rfl
      comment := hcomment
      translatorComment := by rw [htranslator]; rfl }

theorem rereads_of_key_eq {entries others : List Entry}
    (h : List.Forall₂ Entry.Rereads entries others)
    (hdistinct : (entries.map Entry.key).Nodup) {e other : Entry} (he : e ∈ entries)
    (hother : other ∈ others) (hkey : other.key = e.key) : e.Rereads other := by
  induction h with
  | nil => cases he
  | @cons x y entries others hfirst hrest ih =>
    rw [List.map_cons, List.nodup_cons] at hdistinct
    have hkeys := map_key_of_rereads hrest
    rcases List.mem_cons.mp he with rfl | he
    · rcases List.mem_cons.mp hother with rfl | hother
      · exact hfirst
      · exact absurd (hkeys ▸ hkey ▸ List.mem_map_of_mem hother) hdistinct.1
    · rcases List.mem_cons.mp hother with rfl | hother
      · rw [hfirst.key_eq] at hkey
        exact absurd (hkey ▸ List.mem_map_of_mem he) hdistinct.1
      · exact ih hdistinct.2 he hother

theorem fresh_of_rereads {entries others : List Entry}
    (h : List.Forall₂ Entry.Rereads entries others) (hfresh : Fresh entries) : Fresh others := by
  refine ⟨map_key_of_rereads h ▸ hfresh.distinct, fun other hother => ?_⟩
  obtain ⟨e, he, hkey⟩ := List.mem_map.mp (map_key_of_rereads h ▸ List.mem_map_of_mem hother)
  obtain ⟨-, contents, flags, -, rfl⟩ := rereads_of_key_eq h hfresh.distinct he hother hkey.symm
  exact ⟨rfl, (hfresh.untranslated e he).translation, by simp⟩

/-- Fresh entries compare the same with what is read of them just if their comments are kept. -/
theorem compareEntries_rereads_iff {entries others : List Entry}
    (h : List.Forall₂ Entry.Rereads entries others) (hfresh : Fresh entries)
    (hplural : ∀ e ∈ entries, e.plural = "")
    (htranslator : ∀ e ∈ entries, e.translatorComment = "") :
    compareEntries entries others = .same ↔ ∀ e ∈ entries, CommentKept e.comment.toList := by
  have hothers := fresh_of_rereads h hfresh
  have hkeys : liveKeys others = liveKeys entries := by
    unfold liveKeys
    rw [hfresh.live_eq, hothers.live_eq, map_key_of_rereads h]
  have hagrees {e other : Entry} (he : e ∈ entries) (hother : other ∈ others)
      (hkey : other.key = e.key) : e.Agrees other ↔ CommentKept e.comment.toList :=
    (rereads_of_key_eq h hfresh.distinct he hother hkey).agrees_iff (hplural e he)
      ((hfresh.untranslated e he).forms.mpr (hplural e he)) (htranslator e he)
  rw [compareEntries_eq_same_iff_agrees, hkeys]
  constructor
  · intro ⟨_, hsame⟩ e he
    have hmem : e.key ∈ others.map Entry.key := map_key_of_rereads h ▸ List.mem_map_of_mem he
    obtain ⟨other, hother, hkey⟩ := List.mem_map.mp hmem
    exact (hagrees he hother hkey).mp
      (hsame e.key e other (lastFor?_of_mem hfresh he) (hkey ▸ lastFor?_of_mem hothers hother))
  · intro hkept
    refine ⟨fun _ => Iff.rfl, fun key e other he hother => ?_⟩
    have hkey := (key_of_lastFor? hother).1.trans (key_of_lastFor? he).1.symm
    exact (hagrees (mem_of_lastFor? he) (mem_of_lastFor? hother) hkey).mpr
      (hkept e (mem_of_lastFor? he))

/-- A legible catalog that is read from its file counts as the same exactly if it has no plurals and
its comments are kept. -/
theorem exists_load_same_iff {c : Catalog} {text : String} (hrender : c.render = .ok text)
    (hlegible : c.Legible) (hfresh : Fresh c.entries) (file : String) :
    (∃ others, load file (encodeUtf8 text.toList) = .ok others ∧
        compareEntries c.entries others = .same) ↔
      ∀ e ∈ c.entries, e.plural = "" ∧ CommentKept e.comment.toList := by
  have htranslator : ∀ e ∈ c.entries, e.translatorComment = "" :=
    fun e he => (hlegible.entries e he).translatorComment
  constructor
  · intro ⟨others, hload, hsame⟩
    have hplural : ∀ e ∈ c.entries, e.plural = "" := fun e he => plural_eq_of_same hfresh hsame he
    obtain ⟨read, hread, hrereads⟩ := exists_load hrender hlegible hfresh.untranslated hplural file
    obtain rfl : others = read := Except.ok.inj (hload.symm.trans hread)
    have hkept := (compareEntries_rereads_iff hrereads hfresh hplural htranslator).mp hsame
    exact fun e he => ⟨hplural e he, hkept e he⟩
  · intro h
    have hplural : ∀ e ∈ c.entries, e.plural = "" := fun e he => (h e he).1
    obtain ⟨others, hload, hrereads⟩ :=
      exists_load hrender hlegible hfresh.untranslated hplural file
    exact ⟨others, hload, (compareEntries_rereads_iff hrereads hfresh hplural htranslator).mpr
      fun e he => (h e he).2⟩

end Harvest.Catalog
