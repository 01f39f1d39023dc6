import Harvest.Catalog.Read
import Harvest.Proofs.Text.Fill

/-!
# Comments in writing

A comment is written in lines that are filled. What stands on the lines has the words of the
comment. When it is read again, the lines are trimmed and empty ones are left out, so blanks at its
ends are not always kept.
-/

namespace Harvest.Catalog

open Text

/-! ## Lines with a lead -/

/-- A line that does not fit in the width of a catalog after its lead, where there is a width. -/
def Overlong (width : Int) (lead line : List Char) : Prop :=
  (line.length + lead.length : Int) > width ∧ width > 0

instance (width : Int) (lead line : List Char) : Decidable (Overlong width lead line) :=
  inferInstanceAs (Decidable (_ ∧ _))

/-- A line as it is written after a lead, in as many lines as it takes. -/
def ledLines (width : Int) (lead line : List Char) : List (List Char) :=
  if Overlong width lead line then ({ width, first := lead, other := lead } : Filling).lines line
  else [lead ++ line]

theorem map_toList_commentLines (width : Int) (lead comment : String) :
    (commentLines width lead comment).map String.toList =
      if comment.isEmpty then []
      else (comment.toList.splitOn '\n').flatMap (ledLines width lead.toList) := by
  unfold commentLines
  split
  · rfl
  · rw [List.map_flatMap]
    refine List.flatMap_congr fun line _ => ?_
    have hlong : Overlong width lead.toList line ↔
        (decide ((line.length + lead.length : Int) > width) && decide (width > 0)) = true := by
      simp [Overlong, String.length_toList]
    unfold ledLines
    split_ifs <;> simp_all

/-- What the lines of a text hold after their lead, where no line is cut at a hyphen. -/
structure Holds (lines contents : List (List Char)) : Prop where
  words_eq : contents.flatMap words = lines.flatMap words
  plain : ∀ content ∈ contents, ∀ c ∈ content, c = ' ' ∨ ∃ line ∈ lines, c ∈ line
  head : startsBlank ((inked contents).headD []) = startsBlank ((inked lines).headD [])

theorem inked_eq_nil_iff {parts : List (List Char)} :
    inked parts = [] ↔ parts.flatMap words = [] := by
  rw [List.flatMap_eq_nil_iff]
  simp [inked, words_eq_nil_iff]

theorem Holds.append {a b c d : List (List Char)} (hab : Holds a b) (hcd : Holds c d) :
    Holds (a ++ c) (b ++ d) := by
  constructor
  case words_eq => rw [List.flatMap_append, List.flatMap_append, hab.words_eq, hcd.words_eq]
  case plain =>
    intro content hcontent c hc
    rcases List.mem_append.mp hcontent with h | h
    · exact (hab.plain content h c hc).imp id fun ⟨line, hline, hc⟩ =>
        ⟨line, List.mem_append_left _ hline, hc⟩
    · exact (hcd.plain content h c hc).imp id fun ⟨line, hline, hc⟩ =>
        ⟨line, List.mem_append_right _ hline, hc⟩
  case head =>
    have hnil : inked b = [] ↔ inked a = [] := by
      rw [inked_eq_nil_iff, inked_eq_nil_iff, hab.words_eq]
    rw [inked_append, inked_append]
    by_cases h : inked a = []
    · simpa [h, hnil.mpr h] using hcd.head
    · have hhead := hab.head
      obtain ⟨x, xs, hx⟩ := List.exists_cons_of_ne_nil h
      obtain ⟨y, ys, hy⟩ := List.exists_cons_of_ne_nil (mt hnil.mp h)
      simpa [hx, hy] using hhead

/-- A line that is filled starts with a word, and has no hyphen at which it could be cut. -/
def FillsPlainly (width : Int) (lead line : List Char) : Prop :=
  Overlong width lead line → '-' ∉ line ∧ startsBlank line = false

instance (width : Int) (lead line : List Char) : Decidable (FillsPlainly width lead line) :=
  inferInstanceAs (Decidable (_ → _))

/-- A filled line is cut into contents that together hold the words of the line. -/
theorem exists_holds_ledLines {width : Int} {lead line : List Char}
    (h : FillsPlainly width lead line) :
    ∃ contents, ledLines width lead line = contents.map (lead ++ ·) ∧ Holds [line] contents := by
  unfold ledLines
  split
  case isTrue hlong =>
    obtain ⟨hhyphen, hstart⟩ := h hlong
    obtain ⟨contents, hlines, hcontents⟩ :=
      exists_contents (f := { width, first := lead, other := lead }) rfl rfl rfl hhyphen
    refine ⟨contents, hlines, ?_, ?_, ?_⟩
    · simpa using hcontents.words_eq
    · intro content hcontent c hc
      exact (hcontents.plain content hcontent c hc).imp id fun h =>
        ⟨line, List.mem_singleton_self _, h.1⟩
    · have hwords : contents.flatMap words =
        [line].flatMap words := by simpa using hcontents.words_eq
      have hnil : inked contents = [] ↔ inked [line] = [] := by
        rw [inked_eq_nil_iff, inked_eq_nil_iff, hwords]
      by_cases hblank : inked [line] = []
      · rw [hblank, hnil.mpr hblank]
      · have hline : allBlank line = false := by simpa [inked] using hblank
        have hne : line ≠ [] := by
          rintro rfl
          exact absurd hline (by decide)
        -- The first line of the text starts as the text does, and so holds more than blanks.
        obtain ⟨content, hfirst, hhead⟩ := hcontents.head hne hstart
        obtain ⟨rest, rfl⟩ := List.head?_eq_some_iff.mp hfirst
        have hsame : startsBlank content = startsBlank line := by unfold startsBlank; rw [hhead]
        have hcontent : allBlank content = false := by
          refine allBlank_of_startsBlank ?_ (hsame.trans hstart)
          rintro rfl
          exact hne (List.head?_eq_none_iff.mp hhead.symm)
        simpa [inked, hcontent, hline] using hsame
  case isFalse =>
    refine ⟨[line], rfl, rfl, ?_, rfl⟩
    exact fun content hcontent c hc => .inr ⟨content, hcontent, hc⟩

theorem exists_holds {width : Int} {lead : List Char} {lines : List (List Char)}
    (h : ∀ line ∈ lines, FillsPlainly width lead line) :
    ∃ contents, lines.flatMap (ledLines width lead) = contents.map (lead ++ ·) ∧
      Holds lines contents := by
  induction lines with
  | nil => exact ⟨[], rfl, rfl, by simp, rfl⟩
  | cons line lines ih =>
    rw [List.forall_mem_cons] at h
    obtain ⟨first, hfirst, hholds⟩ := exists_holds_ledLines h.1
    obtain ⟨rest, hrest, hrests⟩ := ih h.2
    refine ⟨first ++ rest, ?_, hholds.append hrests⟩
    rw [List.flatMap_cons, hfirst, hrest, List.map_append]

/-- The lines of a comment hold its words, each after the lead. -/
theorem exists_holds_comment {width : Int} {lead comment : String}
    (h : ∀ line ∈ comment.toList.splitOn '\n', FillsPlainly width lead.toList line) :
    ∃ contents, (commentLines width lead comment).map String.toList =
      contents.map (lead.toList ++ ·) ∧
      Holds (comment.toList.splitOn '\n') contents := by
  rw [map_toList_commentLines]
  split
  case isTrue hempty =>
    obtain rfl : comment = "" := String.isEmpty_iff.mp hempty
    exact ⟨[], rfl, rfl, by simp, rfl⟩
  case isFalse => exact exists_holds h

/-! ## Comments that are read again -/

def joinedComment (contents : List (List Char)) : List Char :=
  join ['\n'] ((inked contents).map trimRight)

def addContent (comments : List String) (content : List Char) : List String :=
  if allBlank content then comments else addCommentLine comments (String.ofList (trimRight content))

theorem trimRight_ne_nil {s : List Char} (hs : allBlank s = false) : trimRight s ≠ [] := by
  intro h
  rw [trimRight_eq_nil_iff, hs] at h
  cases h

theorem joinedComment_concat_of_blank (contents : List (List Char)) {content : List Char}
    (h : allBlank content = true) :
    joinedComment (contents ++ [content]) = joinedComment contents := by
  unfold joinedComment
  rw [inked_append, inked_cons_of_allBlank h]
  simp [inked]

theorem joinedComment_concat {contents : List (List Char)} {content : List Char}
    (h : allBlank content = false) :
    joinedComment (contents ++ [content]) =
      if inked contents = [] then trimRight content
      else joinedComment contents ++ '\n' :: trimRight content := by
  have hcontent : inked [content] = [content] := by simp [inked, h]
  unfold joinedComment
  rw [inked_append, hcontent, List.map_append]
  split
  case isTrue hnil => simp [hnil, join]
  case isFalse hne => exact join_concat _ (by simpa using hne) _

theorem words_joinedComment (contents : List (List Char)) :
    words (joinedComment contents) = contents.flatMap words := by
  have htrim : words ∘ trimRight = words := funext words_trimRight
  unfold joinedComment
  rw [words_join (by decide), List.flatMap_map, ← flatMap_words_inked contents]
  exact congrArg (fun f => (inked contents).flatMap f) htrim

theorem joinedComment_ne_nil {contents : List (List Char)} (h : inked contents ≠ []) :
    joinedComment contents ≠ [] := by
  intro hnil
  have hwords := words_joinedComment contents
  rw [hnil] at hwords
  exact h (inked_eq_nil_iff.mpr hwords.symm)

theorem foldl_addContent (contents : List (List Char)) :
    contents.foldl addContent [] =
      if inked contents = [] then [] else [String.ofList (joinedComment contents)] := by
  induction contents using List.reverseRecOn with
  | nil => rfl
  | append_singleton contents content ih =>
    rw [List.foldl_concat, ih, inked_append]
    cases hblank : allBlank content with
    | true =>
      rw [joinedComment_concat_of_blank contents hblank]
      simp [addContent, hblank, inked]
    | false =>
      rw [joinedComment_concat hblank]
      have hcontent : inked [content] = [content] := by simp [inked, hblank]
      have hline : String.ofList (trimRight content) ≠ "" := by
        simpa using trimRight_ne_nil hblank
      by_cases hnil : inked contents = []
      · simp [addContent, addCommentLine, hblank, hnil, hcontent, hline]
      · have hcomment : String.ofList (joinedComment contents) ≠ "" := by
          simpa using joinedComment_ne_nil hnil
        have hjoin : String.ofList (joinedComment contents) ++ "\n" ++
          String.ofList (trimRight content) =
            String.ofList (joinedComment contents ++ '\n' :: trimRight content) := by
          rw [← String.toList_inj]
          simp
        simp [addContent, addCommentLine, hblank, hnil, hcomment, hjoin]

theorem startsBlank_joinedComment (contents : List (List Char)) :
    startsBlank (joinedComment contents) = startsBlank ((inked contents).headD []) := by
  unfold joinedComment join
  cases hinked : inked contents with
  | nil => rfl
  | cons content rest =>
    have hmem : content ∈ inked contents := hinked ▸ List.mem_cons_self
    have hcontent : allBlank content = false := by simpa using (List.mem_filter.mp hmem).2
    rw [List.headD_cons, ← startsBlank_trimRight hcontent, List.map_cons]
    cases rest with
    | nil => rw [List.map_nil, List.intercalate_singleton]
    | cons next rest =>
      rw [List.map_cons, List.intercalate_cons_cons, List.append_assoc,
        startsBlank_append (trimRight_ne_nil hcontent)]

theorem endsBlank_joinedComment (contents : List (List Char)) :
    endsBlank (joinedComment contents) = false := by
  induction contents using List.reverseRecOn with
  | nil => rfl
  | append_singleton contents content ih =>
    cases hblank : allBlank content with
    | true => rw [joinedComment_concat_of_blank contents hblank, ih]
    | false =>
      rw [joinedComment_concat hblank]
      split
      · exact endsBlank_trimRight content
      · rw [endsBlank_append, endsBlank_cons, endsBlank_trimRight]
        simp [trimRight_ne_nil hblank]

/-- A comment that does not end in a blank, and starts as its first line does that is not blank. -/
def CommentKept (comment : List Char) : Prop :=
  endsBlank comment = false ∧
    startsBlank comment = startsBlank ((inked (comment.splitOn '\n')).headD [])

instance (comment : List Char) :
    Decidable (CommentKept comment) := inferInstanceAs (Decidable (_ ∧ _))

/-- The blanks of a comment that is read again are the same where they count, if it is kept. -/
theorem collapse_joinedComment_iff {comment : List Char} {contents : List (List Char)}
    (h : Holds (comment.splitOn '\n') contents) :
    collapse comment = collapse (joinedComment contents) ↔ CommentKept comment := by
  have hwords : words comment = words (joinedComment contents) := by
    rw [words_joinedComment, h.words_eq, ← words_join (c := '\n') (by decide), join_splitOn]
  rw [collapse_eq_iff hwords, startsBlank_joinedComment, endsBlank_joinedComment, h.head]
  exact and_comm

end Harvest.Catalog
