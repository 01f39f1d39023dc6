import Harvest.Proofs.Catalog.Rereading
import Mathlib.Data.List.Infix

/-!
# The encoding of a written catalog

A catalog names its encoding in the entry about the whole. When its file is read, the first line
that names one decides, so nothing that the user puts before it must look like such a line.
-/

namespace Harvest.Catalog

open Text

/-! ## Mentions of a content type -/

def contentType : List Char := "Content-Type:".toList

def Mentions (s : List Char) : Prop := contentType <:+: s

instance (s : List Char) : Decidable (Mentions s) := inferInstanceAs (Decidable (_ <:+: _))

theorem infix_append_cons {part a b : List Char} {x : Char} (hx : x ∉ part)
    (h : part <:+: a ++ x :: b) : part <:+: a ∨ part <:+: b := by
  obtain ⟨u, v, h⟩ := h
  rcases List.append_eq_append_iff.mp h with ⟨w, rfl, -⟩ | ⟨w, hw, hv⟩
  · exact .inl ⟨u, w, rfl⟩
  · cases w with
    | nil => exact .inl ⟨u, [], by simpa using hw⟩
    | cons y w =>
      obtain ⟨rfl, rfl⟩ := List.cons.inj hv
      rcases List.append_eq_append_iff.mp hw with ⟨t, -, rfl⟩ | ⟨t, rfl, ht⟩
      · simp at hx
      · cases t with
        | nil =>
          rw [List.nil_append] at ht
          exact absurd (ht ▸ List.mem_cons_self) hx
        | cons z t =>
          obtain ⟨-, rfl⟩ := List.cons.inj ht
          exact .inr ⟨t, v, rfl⟩

theorem not_mentions_append_cons {a b : List Char} {x : Char} (hx : x ∉ contentType)
    (ha : ¬ Mentions a) (hb : ¬ Mentions b) : ¬ Mentions (a ++ x :: b) :=
  fun h => (infix_append_cons hx h).elim ha hb

theorem not_mentions_of_notMem {s : List Char} (hs : 'C' ∉ s) : ¬ Mentions s :=
  fun h => hs (h.subset (by decide))

theorem mentions_cons_iff_of_ne {c : Char} (hc : c ≠ 'C') {s : List Char} :
    Mentions (c :: s) ↔ Mentions s := by
  constructor
  · intro h
    rcases List.infix_cons_iff.mp h with hstarts | hwithin
    · exact absurd (List.cons_prefix_cons.mp hstarts).1.symm hc
    · exact hwithin
  · exact fun h => h.trans (List.suffix_cons c s).isInfix

theorem mentions_of_append {a b : List Char} (ha : 'C' ∉ a) (h : Mentions (a ++ b)) :
    Mentions b := by
  induction a with
  | nil => exact h
  | cons c a ih =>
    rw [List.mem_cons, not_or] at ha
    exact ih ha.2 ((mentions_cons_iff_of_ne (Ne.symm ha.1)).mp h)

theorem lineCharset?_eq_none {s : List Char} (hs : ¬ Mentions s) : lineCharset? s = none := by
  induction s with
  | nil => rfl
  | cons c cs ih =>
    have hcs : ¬ Mentions cs := fun h => hs (h.trans (List.suffix_cons c cs).isInfix)
    have hstart : dropStart? "Content-Type:".toList (c :: cs) = none := by
      refine Option.eq_none_iff_forall_ne_some.mpr fun rest hrest => hs ?_
      exact ⟨[], rest, List.isPrefixOf?_eq_some_iff_append_eq.mp hrest⟩
    rw [lineCharset?, hstart, ih hcs]
    rfl

/-- Some characters of a text are masked: what stands for one starts with a character that no
mention of a content type has, and no such mention starts in it. -/
inductive Masks : List Char → List Char → Prop
  | nil : Masks [] []
  | keep (c : Char) {s t : List Char} : Masks s t → Masks (c :: s) (c :: t)
  | mask (c x : Char) (rest : List Char) {s t : List Char} :
      x ∉ contentType → 'C' ∉ rest → Masks s t → Masks (c :: s) (x :: (rest ++ t))

namespace Masks

variable {s t : List Char}

theorem isPrefix_of {part : List Char} (h : Masks s t) (hpart : part ⊆ contentType)
    (hstarts : part <+: t) :
    part <+: s := by
  induction h generalizing part with
  | nil => exact hstarts
  | keep c _ ih =>
    cases part with
    | nil => exact List.nil_prefix
    | cons d part =>
      obtain ⟨rfl, hrest⟩ := List.cons_prefix_cons.mp hstarts
      exact List.cons_prefix_cons.mpr ⟨rfl, ih (List.subset_of_cons_subset hpart) hrest⟩
  | mask c x rest hx _ _ _ =>
    cases part with
    | nil => exact List.nil_prefix
    | cons d part =>
      obtain ⟨rfl, -⟩ := List.cons_prefix_cons.mp hstarts
      exact absurd (hpart List.mem_cons_self) hx

theorem mentions (h : Masks s t) (ht : Mentions t) : Mentions s := by
  induction h with
  | nil => exact ht
  | @keep c s t hmasks ih =>
    rcases List.infix_cons_iff.mp ht with hstarts | hwithin
    · exact ((hmasks.keep c).isPrefix_of (List.Subset.refl _) hstarts).isInfix
    · exact (ih hwithin).trans (List.suffix_cons c s).isInfix
  | @mask c x rest s t hx hrest hmasks ih =>
    have hhead : x ≠ 'C' := by
      rintro rfl
      exact hx (by decide)
    have ht : Mentions t := mentions_of_append hrest ((mentions_cons_iff_of_ne hhead).mp ht)
    exact (ih ht).trans (List.suffix_cons c s).isInfix

end Masks

theorem masks_escape (s : List Char) : Masks s (escape s) := by
  induction s with
  | nil => exact .nil
  | cons c cs ih =>
    rw [escape_cons]
    rcases escapeChar_cases c with ⟨hplain, -⟩ | ⟨d, hescaped, -, hd⟩
    · rw [hplain]
      exact ih.keep c
    · rw [hescaped]
      refine ih.mask c '\\' [d] (by decide) ?_
      rw [List.mem_singleton]
      rintro rfl
      exact absurd hd (by decide)

theorem masks_plainBlanks (s : List Char) : Masks s (plainBlanks s) := by
  have hfrom (column : Nat) : Masks s (plainBlanksFrom column s) := by
    induction s generalizing column with
    | nil => exact .nil
    | cons c cs ih =>
      obtain ⟨next, more, hmore, heq⟩ := plainBlanksFrom_cons column c cs
      rw [heq]
      by_cases hc : isFillBlank c = true
      · rw [if_pos hc]
        exact (ih next).mask c ' ' _ (by decide) fun h =>
          absurd (List.eq_of_mem_replicate h) (by decide)
      · have htab : c ≠ '\t' := by
          rintro rfl
          exact hc (by decide)
        rw [if_neg hc, hmore htab]
        exact (ih next).keep c
  exact hfrom 0

def byteChars (s : List Char) : List Char := (encodeUtf8 s).map fun b => Char.ofNat b.toNat

theorem byteChars_append (s t : List Char) : byteChars (s ++ t) = byteChars s ++ byteChars t := by
  simp [byteChars, encodeUtf8]

theorem toNat_ofNat_byte (b : UInt8) : (Char.ofNat b.toNat).toNat = b.toNat := by
  have hb := b.toNat_lt
  have hvalid : b.toNat.isValidChar := .inl (by omega)
  unfold Char.ofNat
  rw [dif_pos hvalid]
  rfl

theorem byteChars_singleton (c : Char) :
    (c.toNat < 128 ∧ byteChars [c] = [c]) ∨
      ∃ x rest, byteChars [c] = x :: rest ∧ ∀ d ∈ x :: rest, 128 ≤ d.toNat := by
  have hchar : Char.ofNat c.toNat = c := Char.ofNat_toNat c
  have hbyte (n : Nat) (hlow : 128 ≤ n) (hhigh : n < 256) :
      128 ≤ (Char.ofNat (UInt8.ofNat n).toNat).toNat := by
    rw [toNat_ofNat_byte, toNat_byte hhigh]
    exact hlow
  unfold byteChars encodeUtf8
  rw [List.flatMap_singleton]
  unfold String.utf8EncodeChar
  rw [show c.val.toNat = c.toNat from rfl]
  dsimp only
  split
  · refine .inl ⟨by omega, ?_⟩
    rw [List.map_singleton, toNat_byte (by omega), hchar]
  · refine .inr ?_
    split_ifs
    all_goals
      refine ⟨_, _, rfl, ?_⟩
      simp only [List.map_cons, List.map_nil, List.forall_mem_cons, List.not_mem_nil, false_imp_iff,
        implies_true, and_true]
    · exact ⟨hbyte _ (by omega) (by omega), hbyte _ (by omega) (by omega)⟩
    · exact ⟨hbyte _ (by omega) (by omega), hbyte _ (by omega) (by omega),
        hbyte _ (by omega) (by omega)⟩
    · exact ⟨hbyte _ (by omega) (by omega), hbyte _ (by omega) (by omega),
        hbyte _ (by omega) (by omega),
        hbyte _ (by omega) (by omega)⟩

theorem masks_byteChars (s : List Char) : Masks s (byteChars s) := by
  induction s with
  | nil => exact .nil
  | cons c cs ih =>
    have hcons : byteChars (c :: cs) = byteChars [c] ++ byteChars cs := byteChars_append [c] cs
    rw [hcons]
    rcases byteChars_singleton c with ⟨-, hplain⟩ | ⟨x, rest, hbytes, hhigh⟩
    · rw [hplain]
      exact ih.keep c
    · rw [hbytes]
      have hlow : contentType.all (·.toNat < 128) = true := by decide
      refine ih.mask c x rest (fun hx => ?_) fun hrest => ?_
      · have hsmall : x.toNat < 128 := of_decide_eq_true (List.all_eq_true.mp hlow x hx)
        exact absurd (hhigh x List.mem_cons_self) (Nat.not_le.mpr hsmall)
      · exact absurd (hhigh _ (List.mem_cons_of_mem _ hrest)) (by decide)

/-! ## What comes before the encoding -/

theorem not_mentions_join {x : Char} (hx : x ∉ contentType) {parts : List (List Char)}
    (h : ∀ part ∈ parts, ¬ Mentions part) : ¬ Mentions (join [x] parts) := by
  unfold join
  induction parts with
  | nil => exact (by decide : ¬ Mentions [])
  | cons part parts ih =>
    rw [List.forall_mem_cons] at h
    cases parts with
    | nil => simpa using h.1
    | cons next parts =>
      rw [List.intercalate_cons_cons, List.append_assoc, List.singleton_append]
      exact not_mentions_append_cons hx h.1 (ih h.2)

theorem infix_join_of_mem {sep part : List Char} {parts : List (List Char)} (h : part ∈ parts) :
    part <:+: join sep parts := by
  cases parts with
  | nil => simp at h
  | cons first parts =>
    rw [join_cons]
    rcases List.mem_cons.mp h with rfl | h
    · exact (List.prefix_append _ _).isInfix
    · obtain ⟨a, b, rfl⟩ := List.append_of_mem h
      exact ⟨first ++ a.flatMap (sep ++ ·) ++ sep, b.flatMap (sep ++ ·), by simp⟩

theorem not_mentions_ledLines {width : Int} {line written : List Char} (hline : ¬ Mentions line)
    (h : written ∈ ledLines width "# ".toList line) : ¬ Mentions written := by
  have hled {content : List Char} (hcontent : ¬ Mentions content) :
      ¬ Mentions ("# ".toList ++ content) :=
    not_mentions_append_cons (by decide) (by decide : ¬ Mentions ['#']) hcontent
  unfold ledLines at h
  split at h
  case isTrue =>
    obtain ⟨groups, hlines, hfills⟩ :=
      lines_eq_map (f := { width, first := "# ".toList, other := "# ".toList }) rfl rfl rfl line
    rw [hlines] at h
    obtain ⟨group, hgroup, rfl⟩ := List.mem_map.mp h
    refine hled fun hmentions => hline ((masks_plainBlanks line).mentions (hmentions.trans ?_))
    obtain ⟨a, b, hchunks⟩ := hfills.part group hgroup
    refine ⟨a.flatten, b.flatten, ?_⟩
    rw [← List.flatten_append, ← List.flatten_append, hchunks, flatten_chunks]
  case isFalse =>
    rw [List.mem_singleton.mp h]
    exact hled hline

theorem not_mentions_commentLines {width : Int} {comment : String}
    (hcomment : ¬ Mentions comment.toList)
    {written : List Char} (h : written ∈ (commentLines width "# " comment).map String.toList) :
    ¬ Mentions written := by
  rw [map_toList_commentLines] at h
  split at h
  · simp at h
  · obtain ⟨line, hline, h⟩ := List.mem_flatMap.mp h
    refine not_mentions_ledLines (fun hmentions => hcomment (hmentions.trans ?_)) h
    exact join_splitOn '\n' comment.toList ▸ infix_join_of_mem hline

theorem not_mentions_quoted {part : List Char} (h : ¬ Mentions part) :
    ¬ Mentions (quoted part) := by
  have hnil : ¬ Mentions [] := by decide
  have hescape : ¬ Mentions (escape part) := fun hmentions =>
    h ((masks_escape part).mentions hmentions)
  have hquote : '"' ∉ contentType := by decide
  exact not_mentions_append_cons hquote hnil (not_mentions_append_cons hquote hescape hnil)

theorem not_mentions_of_mem_fullLines {s line : List Char} (hs : ¬ Mentions s)
    (h : line ∈ fullLines s) :
    ¬ Mentions line := by
  intro hmentions
  refine hs (hmentions.trans ?_)
  obtain ⟨a, b, hlines⟩ := List.append_of_mem h
  refine ⟨a.flatten, b.flatten, ?_⟩
  rw [← flatten_fullLines s, hlines]
  simp

/-- The texts that the user gives for a catalog hold no carriage return where they stand in its
title, and mention no content type. -/
structure Header.Legible (h : Header) : Prop where
  unbroken : ∀ text ∈ [h.holder, h.package], ∀ s ∈ text, '\r' ∉ s.toList
  quiet : ∀ text ∈ [h.holder, h.package, h.version, h.bugsAddress], ∀ s ∈ text, ¬ Mentions s.toList

theorem toList_translatorComment_header (h : Header) :
    h.entry.translatorComment.toList = join ['\n'] (h.titleLines.map String.toList) := by
  have hone : h.entry.translatorComment = "\n".intercalate h.titleLines :=
    String.intercalate_singleton
  rw [hone, String.toList_intercalate]
  rfl

theorem mem_titleLines {h : Header} {line : String} (hline : line ∈ h.titleLines) :
    line = "SOME DESCRIPTIVE TITLE" ∨
      (∃ holder ∈ h.holder, line = "Copyright (C) " ++ toString h.created.year ++ " " ++ holder) ∨
      line = "This file is distributed under the same license as the " ++ h.package.getD "None" ++
        " package." ∨
      line = "FIRST AUTHOR <EMAIL@ADDRESS>, " ++ toString h.created.year ++ "." := by
  unfold Header.titleLines at hline
  simp only [List.mem_append, List.mem_cons, List.not_mem_nil, or_false, Option.mem_toList] at hline
  rcases hline with (hline | hline) | hline | hline
  · exact .inl hline
  · obtain ⟨holder, hholder, rfl⟩ := Option.map_eq_some_iff.mp hline
    exact .inr (.inl ⟨holder, (Option.filter_eq_some_iff.mp hholder).1, rfl⟩)
  · exact .inr (.inr (.inl hline))
  · exact .inr (.inr (.inr hline))

def Quiet (s : List Char) : Prop := '\r' ∉ s ∧ ¬ Mentions s

instance (s : List Char) : Decidable (Quiet s) := inferInstanceAs (Decidable (_ ∧ _))

theorem Quiet.append_blank {a b : List Char} (ha : Quiet a) (hb : Quiet b) :
    Quiet (a ++ ' ' :: b) :=
  ⟨by simp [ha.1, hb.1], not_mentions_append_cons (by decide) ha.2 hb.2⟩

theorem quiet_of_number {s : List Char} (h : ∀ c ∈ s, c = '-' ∨ c = '.' ∨ c.isDigit = true) :
    Quiet s :=
  ⟨fun hc => absurd (h _ hc) (by decide), not_mentions_of_notMem fun hc =>
    absurd (h _ hc) (by decide)⟩

theorem Header.Legible.title {h : Header} (hlegible : h.Legible) :
    Quiet h.entry.translatorComment.toList := by
  have hyear : Quiet (toString h.created.year).toList :=
    quiet_of_number fun c hc => (mem_toString_int hc).imp id .inr
  have hlines : ∀ line ∈ h.titleLines.map String.toList, Quiet line := by
    intro line hline
    obtain ⟨line, hmem, rfl⟩ := List.mem_map.mp hline
    rcases mem_titleLines hmem with rfl | ⟨holder, hholder, rfl⟩ | rfl | rfl
    · decide
    · have hquiet : Quiet holder.toList := ⟨hlegible.unbroken _ (by simp) holder hholder,
        hlegible.quiet _ (by simp) holder hholder⟩
      have hstart : Quiet "Copyright (C)".toList := by decide
      simpa using hstart.append_blank (hyear.append_blank hquiet)
    · have hpackage : Quiet (h.package.getD "None").toList := by
        cases hsome : h.package with
        | none => decide
        | some package =>
          exact ⟨hlegible.unbroken _ (by simp) package hsome,
            hlegible.quiet _ (by simp) package hsome⟩
      have hstart :
        Quiet "This file is distributed under the same license as the".toList := by decide
      have hend : Quiet "package.".toList := by decide
      simpa using hstart.append_blank (hpackage.append_blank hend)
    · have hstart : Quiet "FIRST AUTHOR <EMAIL@ADDRESS>,".toList := by decide
      have hend : Quiet ((toString h.created.year).toList ++ ['.']) := by
        refine quiet_of_number fun c hc => ?_
        rcases List.mem_append.mp hc with hc | hc
        · exact (mem_toString_int hc).imp id .inr
        · exact .inr (.inl (List.mem_singleton.mp hc))
      simpa using hstart.append_blank hend
  rw [toList_translatorComment_header]
  refine ⟨fun hmem => ?_, not_mentions_join (by decide) fun line hline => (hlines line hline).2⟩
  rcases mem_of_mem_join hmem with h | ⟨line, hline, h⟩
  · exact absurd h (by decide)
  · exact (hlines line hline).1 h

def particular (field : String × String) : List Char :=
  field.1.toList ++ ':' :: ' ' :: (field.2.toList ++ ['\n'])

def Header.early (h : Header) : List (String × String) :=
  [("Project-Id-Version", h.project)] ++
    ((h.bugsAddress.filter (!·.isEmpty)).map (("Report-Msgid-Bugs-To", ·))).toList ++
    [("POT-Creation-Date", h.created.stamp), ("PO-Revision-Date", "YEAR-MO-DA HO:MI+ZONE"),
      ("Last-Translator", "FULL NAME <EMAIL@ADDRESS>"), ("Language-Team", "LANGUAGE <LL@li.org>"),
      ("Language", ""), ("MIME-Version", "1.0")]

def typeLine : List Char := particular ("Content-Type", "text/plain; charset=UTF-8")

theorem exists_translation_split (h : Header) :
    ∃ late, h.entry.translation.toList = h.early.flatMap particular ++ (typeLine ++ late) := by
  have hfields : h.fields = h.early ++ ("Content-Type", "text/plain; charset=UTF-8") ::
      [("Content-Transfer-Encoding", "8bit"), ("Generated-By", "Lingua 4.14.0")] := by
    unfold Header.fields Header.early
    simp
  have hparticular (field : String × String) :
      (field.1 ++ ": " ++ field.2 ++ "\n").toList = particular field := by
    simp [particular]
  refine ⟨[("Content-Transfer-Encoding", "8bit"),
    ("Generated-By", "Lingua 4.14.0")].flatMap particular, ?_⟩
  unfold Header.entry
  dsimp only
  rw [hfields, String.toList_join, List.flatMap_map]
  simp only [hparticular]
  rw [List.flatMap_append, List.flatMap_cons]
  rfl

theorem not_mentions_stamp (m : Moment) : ¬ Mentions m.stamp.toList := by
  have hpadded (width n : Nat) : 'C' ∉ (padded width n).toList := by
    intro hc
    unfold padded at hc
    rw [String.toList_ofList, List.mem_append] at hc
    rcases hc with hc | hc
    · exact absurd (List.eq_of_mem_replicate hc) (by decide)
    · exact absurd (Nat.isDigit_of_mem_toDigits (by decide) (by decide) hc) (by decide)
  have hyear : 'C' ∉ (toString m.year).toList := fun hc => absurd (mem_toString_int hc) (by decide)
  have hsign : 'C' ∉ (if m.offset < 0 then "-" else "+").toList := by
    split <;> decide
  have hstamp : m.stamp = toString m.year ++ "-" ++ padded 2 m.month ++ "-" ++
    padded 2 m.day ++ " " ++
      (padded 2 m.hour ++ ":" ++ padded 2 m.minute) ++ (if m.offset < 0 then "-" else "+") ++
      padded 2 (m.offset.natAbs / 3600 % 24) ++ padded 2 (m.offset.natAbs / 60 % 60) := rfl
  refine not_mentions_of_notMem ?_
  rw [hstamp]
  simp only [String.toList_append, List.mem_append, hpadded, hyear, hsign, or_false, false_or]
  decide

theorem not_mentions_particulars {fields : List (String × String)}
    (h : ∀ field ∈ fields, ¬ Mentions (field.1.toList ++ [':']) ∧ ¬ Mentions field.2.toList) :
    ¬ Mentions (fields.flatMap particular) := by
  induction fields with
  | nil => exact (by decide : ¬ Mentions [])
  | cons field fields ih =>
    rw [List.forall_mem_cons] at h
    have hsplit : (field :: fields).flatMap particular =
        (field.1.toList ++ [':']) ++
            ' ' :: (field.2.toList ++ '\n' :: fields.flatMap particular) := by
      simp [particular]
    rw [hsplit]
    exact not_mentions_append_cons (by decide) h.1.1
      (not_mentions_append_cons (by decide) h.1.2 (ih h.2))

theorem Header.Legible.project {h : Header} (hlegible : h.Legible) :
    ¬ Mentions h.project.toList := by
  unfold Header.project
  rw [String.toList_intercalate]
  refine not_mentions_join (by decide) fun part hpart => ?_
  obtain ⟨text, htext, rfl⟩ := List.mem_map.mp hpart
  have htext : text ∈ [h.package, h.version].filterMap id := List.mem_of_mem_filter htext
  obtain ⟨given, hgiven, hsome⟩ := List.mem_filterMap.mp htext
  exact hlegible.quiet given (by simp at hgiven ⊢; tauto) text hsome

theorem Header.Legible.early {h : Header} (hlegible : h.Legible) :
    ¬ Mentions (h.early.flatMap particular) := by
  refine not_mentions_particulars fun field hfield => ?_
  unfold Header.early at hfield
  simp only [List.mem_append, List.mem_cons, List.not_mem_nil, or_false, Option.mem_toList,
    or_assoc] at hfield
  rcases hfield with rfl | hfield | rfl | rfl | rfl | rfl | rfl | rfl
  · exact ⟨(by decide : ¬ Mentions ("Project-Id-Version".toList ++ [':'])), hlegible.project⟩
  · obtain ⟨address, haddress, rfl⟩ := Option.map_eq_some_iff.mp hfield
    have hsome := (Option.filter_eq_some_iff.mp haddress).1
    exact ⟨(by decide : ¬ Mentions ("Report-Msgid-Bugs-To".toList ++ [':'])),
      hlegible.quiet _ (by simp) address hsome⟩
  · exact ⟨(by decide : ¬ Mentions ("POT-Creation-Date".toList ++ [':'])), not_mentions_stamp _⟩
  all_goals exact ⟨by decide, by decide⟩

/-! ## The encoding -/

theorem fullLines_append_feed (s t : List Char) :
    fullLines (s ++ '\n' :: t) = fullLines (s ++ ['\n']) ++ fullLines t := by
  unfold fullLines
  rw [brokenLines_append_feed, List.map_append]

theorem exists_early_eq (h : Header) : ∃ front, h.early.flatMap particular = front ++ ['\n'] := by
  have hlast : ∃ front, h.early = front ++ [("MIME-Version", "1.0")] :=
    ⟨_, (List.append_assoc _ [_, _, _, _, _] [_]).symm⟩
  obtain ⟨front, hearly⟩ := hlast
  refine ⟨front.flatMap particular ++ "MIME-Version: 1.0".toList, ?_⟩
  rw [hearly, List.flatMap_append, List.append_assoc]
  rfl

theorem fullLines_translation {h : Header} {late : List Char}
    (hsplit : h.entry.translation.toList = h.early.flatMap particular ++ (typeLine ++ late)) :
    fullLines h.entry.translation.toList =
      fullLines (h.early.flatMap particular) ++ typeLine :: fullLines late := by
  obtain ⟨front, hfront⟩ := exists_early_eq h
  have hone : fullLines typeLine = [typeLine] := by decide
  have htype : fullLines (typeLine ++ late) = fullLines typeLine ++ fullLines late :=
    fullLines_append_feed "Content-Type: text/plain; charset=UTF-8".toList late
  rw [hsplit, hfront, List.append_assoc, List.singleton_append,
    fullLines_append_feed front, htype, hone]
  rfl

/-- The line that tells the charset is the first in the header that mentions a content type. -/
theorem exists_header_split {width : Int} {h : Header} {written : List String}
    (hwritten : entryLines width h.entry = .ok written) (hlegible : h.Legible) :
    ∃ before after, written.map String.toList = before ++ quoted typeLine :: after ∧
      ∀ line ∈ before, ¬ Mentions line := by
  rw [entryLines_header] at hwritten
  obtain ⟨fieldLines, hfields, hwritten⟩ := Except.bind_eq_ok hwritten
  obtain rfl := Except.ok.inj hwritten
  obtain ⟨contextLines, text, textLines, translationLines, hcontext, htext, htextLines,
    htranslationLines, rfl⟩ := exists_of_entryFieldLines hfields rfl rfl rfl
  obtain rfl : [] = contextLines := Except.ok.inj hcontext
  obtain rfl : "" = text := Option.some.inj htext
  obtain ⟨late, htranslation⟩ := exists_translation_split h
  have hfull := fullLines_translation htranslation
  -- There are several particulars, so each of them is on a line of its own, and none is filled.
  have hlines : 1 < (fullLines h.entry.translation.toList).length := by
    obtain ⟨front, hfront⟩ := exists_early_eq h
    have hne : fullLines (h.early.flatMap particular) ≠ [] := by
      intro hnil
      have hflatten := flatten_fullLines (h.early.flatMap particular)
      rw [hnil, hfront] at hflatten
      simp at hflatten
    have hpos := List.length_pos_of_ne_nil hne
    rw [hfull, List.length_append, List.length_cons]
    omega
  have hwritten := fieldLines_of_fullLines htranslationLines hlines
  obtain ⟨part, parts, hparts, htextLines⟩ := fieldLines_eq htextLines (by decide)
  refine ⟨(commentLines width "# " h.entry.translatorComment).map String.toList ++
    (["#, fuzzy"].map String.toList ++ (textLines.map String.toList ++
      (("msgstr".toList ++ ' ' :: quoted []) ::
        (fullLines (h.early.flatMap particular)).map quoted))),
    (fullLines late).map quoted, ?_, ?_⟩
  · simp only [List.map_append, List.nil_append, hwritten, hfull]
    simp
  · have hempty : ¬ Mentions [] := by decide
    have hmark : ¬ Mentions "#, fuzzy".toList := by decide
    have hquoted : ¬ Mentions (quoted []) := not_mentions_quoted hempty
    have hkeyword : ¬ Mentions ("msgstr".toList ++ ' ' :: quoted []) :=
      not_mentions_append_cons (by decide) (by decide) hquoted
    have hnil : ∀ text ∈ part :: parts, text = [] := List.flatten_eq_nil_iff.mp hparts
    rw [htextLines]
    intro line hline
    simp only [List.mem_append, List.mem_cons, List.map_cons, List.map_nil, List.not_mem_nil,
      or_false] at hline
    rcases hline with hline | rfl | (rfl | hline) | rfl | hline
    · exact not_mentions_commentLines hlegible.title.2 hline
    · exact hmark
    · rw [hnil part List.mem_cons_self]
      exact not_mentions_append_cons (by decide) (by decide) hquoted
    · obtain ⟨text, htext, rfl⟩ := List.mem_map.mp hline
      rw [hnil text (List.mem_cons_of_mem _ htext)]
      exact hquoted
    · exact hkeyword
    · obtain ⟨text, htext, rfl⟩ := List.mem_map.mp hline
      exact not_mentions_quoted (not_mentions_of_mem_fullLines hlegible.early htext)

theorem mem_byteChars {s : List Char} {c : Char} (hc : c.toNat < 128) (h : c ∈ byteChars s) :
    c ∈ s := by
  induction s with
  | nil => exact absurd h List.not_mem_nil
  | cons d ds ih =>
    have hcons : byteChars (d :: ds) = byteChars [d] ++ byteChars ds := byteChars_append [d] ds
    rw [hcons, List.mem_append] at h
    rcases h with h | h
    · rcases byteChars_singleton d with ⟨-, hplain⟩ | ⟨x, rest, hbytes, hhigh⟩
      · rw [hplain, List.mem_singleton] at h
        exact h ▸ List.mem_cons_self
      · rw [hbytes] at h
        exact absurd (hhigh c h) (Nat.not_le.mpr hc)
    · exact List.mem_cons_of_mem _ (ih h)

theorem feedLines_byteChars_feed {lines : List (List Char)} (h : ∀ line ∈ lines, '\n' ∉ line) :
    feedLines (byteChars (feed lines)) = lines.map fun line => byteChars line ++ ['\n'] := by
  have hbytes : byteChars (feed lines) = (lines.map byteChars).flatMap (· ++ ['\n']) := by
    induction lines with
    | nil => rfl
    | cons line lines ih =>
      rw [List.forall_mem_cons] at h
      have hcons : feed (line :: lines) = line ++ (['\n'] ++ feed lines) := by simp [feed]
      have hend : byteChars ['\n'] = ['\n'] := by decide
      rw [hcons, byteChars_append, byteChars_append, hend, ih h.2]
      simp
  rw [hbytes, feedLines_flatMap, List.map_map]
  · rfl
  · intro line hline
    obtain ⟨line, hmem, rfl⟩ := List.mem_map.mp hline
    exact fun hfeed => h line hmem (mem_byteChars (by decide) hfeed)

theorem codecOf_feed {before after : List (List Char)} (hbefore : ∀ line ∈ before, ¬ Mentions line)
    (hlines : ∀ line ∈ before ++ quoted typeLine :: after, '\n' ∉ line) :
    codecOf (encodeUtf8 (feed (before ++ quoted typeLine :: after))) = .utf8 := by
  have htype : lineCharset? (byteChars (quoted typeLine) ++ ['\n']) = some "UTF-8".toList := by
    decide +kernel
  have hname : Codec.named? "UTF-8" = some .utf8 := by decide +kernel
  have hnone : ∀ line ∈ before, lineCharset? (byteChars line ++ ['\n']) = none := by
    intro line hline
    refine lineCharset?_eq_none
      (not_mentions_append_cons (by decide) ?_ (by decide : ¬ Mentions []))
    exact fun h => hbefore line hline ((masks_byteChars line).mentions h)
  have hfeed : feedLines ((encodeUtf8 (feed (before ++ quoted typeLine :: after))).map
      fun b => Char.ofNat b.toNat) =
        (before ++ quoted typeLine :: after).map fun line => byteChars line ++ ['\n'] :=
    feedLines_byteChars_feed hlines
  unfold codecOf
  dsimp only
  rw [hfeed, List.map_append, List.findSome?_append, List.findSome?_eq_none_iff.mpr, List.map_cons,
    List.findSome?_cons, htype]
  · simp [hname]
  · intro line hline
    obtain ⟨line, hmem, rfl⟩ := List.mem_map.mp hline
    rw [hnone line hmem]
    rfl

end Harvest.Catalog
