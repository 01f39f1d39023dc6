import Harvest.Proofs.Catalog.Comments

/-!
# Occurrences in writing

The occurrences of an entry are written as words, and lines end between them. A file name with
blanks is read as several occurrences, and where a line is filled an asterisk is read as a hyphen.
-/

namespace Harvest.Catalog

open Text

def EndsNumbered (file : List Char) : Prop :=
  ∃ front digits, file = front ++ ':' :: digits ∧ digits ≠ [] ∧ ∀ d ∈ digits, isDigitSign d = true

/-- An occurrence that is read as it is written: a file name without blanks, and a line number or,
if there is none, a name that does not read as if there were. -/
structure Occurrence.Legible (o : Occurrence) : Prop where
  unbroken : ∀ c ∈ o.file.toList, isBlank c = false
  numbered : (o.line ≠ "" ∧ ∀ c ∈ o.line.toList, c.isDigit = true) ∨
    (o.line = "" ∧ o.file ≠ "" ∧ ¬ EndsNumbered o.file.toList)

theorem toNat_of_isDigit {c : Char} (hc : c.isDigit = true) : 48 ≤ c.toNat ∧ c.toNat ≤ 57 := by
  obtain ⟨hlow, hhigh⟩ := Bool.and_eq_true_iff.mp hc
  exact ⟨UInt32.le_iff_toNat_le.mp (of_decide_eq_true hlow),
    UInt32.le_iff_toNat_le.mp (of_decide_eq_true hhigh)⟩

theorem isDigitSign_of_isDigit {c : Char} (hc : c.isDigit = true) : isDigitSign c = true := by
  have hnat := toNat_of_isDigit hc
  have hlow : c.toNat < 128 := by omega
  simp [isDigitSign, isDigit, digitValue?, hlow, hc]

theorem isBlank_of_isDigit {c : Char} (hc : c.isDigit = true) : isBlank c = false := by
  have hnat := toNat_of_isDigit hc
  simp [isBlank]
  omega

theorem endsNumbered_of {s : List Char}
    (h : ((s.reverse.takeWhile (· != ':')).reverse.length < s.length &&
      !(s.reverse.takeWhile (· != ':')).reverse.isEmpty &&
      (s.reverse.takeWhile (· != ':')).reverse.all isDigitSign) = true) : EndsNumbered s := by
  have hsplit : s.reverse.takeWhile (· != ':') ++ s.reverse.dropWhile (· != ':') = s.reverse :=
    List.takeWhile_append_dropWhile
  simp only [Bool.and_eq_true, decide_eq_true_iff, List.all_eq_true] at h
  obtain ⟨⟨hshort, hne⟩, hall⟩ := h
  cases hdrop : s.reverse.dropWhile (· != ':') with
  | nil =>
    rw [hdrop, List.append_nil] at hsplit
    rw [hsplit] at hshort
    simp at hshort
  | cons c front =>
    have hc : c = ':' := by
      have hhead := List.head?_dropWhile_not (· != ':') s.reverse
      simpa [hdrop] using hhead
    refine ⟨front.reverse, (s.reverse.takeWhile (· != ':')).reverse, ?_, by simpa using hne, hall⟩
    rw [hdrop, hc] at hsplit
    have hs := congrArg List.reverse hsplit
    simpa using hs.symm

namespace Occurrence

theorem toList_render (o : Occurrence) :
    o.render.toList = if o.line = "" then o.file.toList else o.file.toList ++
      ':' :: o.line.toList := by
  unfold render
  by_cases h : o.line = "" <;> simp [h]

namespace Legible

variable {o : Occurrence} (h : o.Legible)

include h

theorem not_blank_of_mem_render {c : Char} (hc : c ∈ o.render.toList) : isBlank c = false := by
  rw [toList_render] at hc
  rcases h.numbered with ⟨hline, hdigits⟩ | ⟨hline, -⟩
  · rw [if_neg hline] at hc
    rcases List.mem_append.mp hc with hc | hc
    · exact h.unbroken c hc
    · rcases List.mem_cons.mp hc with rfl | hc
      · decide
      · exact isBlank_of_isDigit (hdigits c hc)
  · rw [if_pos hline] at hc
    exact h.unbroken c hc

theorem words_render : words o.render.toList = [o.render.toList] := by
  refine words_of_forall_not_blank ?_ fun c hc => h.not_blank_of_mem_render hc
  rw [toList_render]
  rcases h.numbered with ⟨hline, -⟩ | ⟨hline, hfile, -⟩
  · simp [hline]
  · simpa [hline] using hfile

theorem parse_render : Occurrence.parse o.render.toList = o := by
  rw [toList_render]
  rcases h.numbered with ⟨hline, hdigits⟩ | ⟨hline, hfile, hnumbered⟩
  · -- The digits hold no colon, so the last one stands before them.
    have hcolon : ∀ c ∈ o.line.toList.reverse, (c != ':') = true := by
      intro c hc
      have hnat := toNat_of_isDigit (hdigits c (List.mem_reverse.mp hc))
      rw [bne_iff_ne]
      rintro rfl
      simp at hnat
    have hnumber : ((o.file.toList ++ ':' :: o.line.toList).reverse.takeWhile (· != ':')).reverse =
        o.line.toList := by
      rw [List.reverse_append, List.reverse_cons, List.append_assoc,
        List.takeWhile_append_of_pos hcolon]
      simp
    have hall : o.line.toList.all isDigitSign = true :=
      List.all_eq_true.mpr fun c hc => isDigitSign_of_isDigit (hdigits c hc)
    rw [if_neg hline]
    unfold parse
    dsimp only
    rw [hnumber, hall]
    have hshort :
      o.line.toList.length < o.file.toList.length + (o.line.toList.length + 1) := by omega
    have hfile : o.file.toList.length + (o.line.toList.length + 1) - o.line.toList.length - 1 =
        o.file.toList.length := by omega
    simp [hline, hshort, hfile]
  · rw [if_pos hline]
    unfold parse
    dsimp only
    rw [if_neg]
    · rw [String.ofList_toList, ← hline]
    · exact fun hnumber => hnumbered (endsNumbered_of hnumber)

end Legible

end Occurrence

theorem words_mapClass {a x : Char} (ha : isBlank a = false)
    (hx : isBlank x = false) (s : List Char) :
    words (mapClass (· == a) x s) = (words s).map (mapClass (· == a) x) := by
  have hfrom (word : List Char) :
      wordsFrom (mapClass (· == a) x word) (mapClass (· == a) x s) =
        (wordsFrom word s).map (mapClass (· == a) x) := by
    induction s generalizing word with
    | nil => cases word <;> simp [wordsFrom, mapClass]
    | cons c cs ih =>
      have hblank : isBlank (if c == a then x else c) = isBlank c := by
        by_cases hc : c = a <;> simp [hc, hx, ha]
      have hcons : mapClass (· == a) x (c :: cs) =
          (if c == a then x else c) :: mapClass (· == a) x cs := rfl
      rw [hcons, wordsFrom, wordsFrom, hblank]
      have hnil := ih []
      have hword := ih (c :: word)
      cases word <;> by_cases hc : isBlank c = true <;> simp_all [mapClass]
  exact hfrom []

def occurrenceText (occurrences : List Occurrence) : List Char :=
  join [' '] (occurrences.map (·.render.toList))

theorem words_occurrenceText {occurrences : List Occurrence} (h : ∀ o ∈ occurrences, o.Legible) :
    words (occurrenceText occurrences) = occurrences.map (·.render.toList) := by
  unfold occurrenceText
  rw [words_join (by decide), List.flatMap_map, List.flatMap_congr fun o ho =>
    (h o ho).words_render,
    ← List.map_eq_flatMap]

theorem ne_of_mem_occurrenceText {occurrences : List Occurrence} (h : ∀ o ∈ occurrences, o.Legible)
    {c : Char} (hc : c ∈ occurrenceText occurrences) : c = ' ' ∨ isBlank c = false := by
  rcases mem_of_mem_join hc with hc | ⟨part, hpart, hc⟩
  · exact .inl (List.mem_singleton.mp hc)
  · obtain ⟨o, ho, rfl⟩ := List.mem_map.mp hpart
    exact .inr ((h o ho).not_blank_of_mem_render hc)

/-- Occurrences whose lines, if they are filled, hold no asterisk that would be read as a hyphen. -/
def StarsKept (width : Int) (occurrences : List Occurrence) : Prop :=
  Overlong width "#: ".toList (occurrenceText occurrences) →
    ∀ o ∈ occurrences, '*' ∉ o.render.toList

instance (width : Int) (occurrences : List Occurrence) : Decidable (StarsKept width occurrences) :=
  inferInstanceAs (Decidable (_ → _))

theorem mapClass_mapClass_of_notMem {s : List Char} (hs : '*' ∉ s) :
    mapClass (· == '*') '-' (mapClass (· == '-') '*' s) = s := by
  unfold mapClass
  rw [List.map_map]
  refine (List.map_congr_left fun c hc => ?_).trans (List.map_id s)
  have hstar : c ≠ '*' := fun h => hs (h ▸ hc)
  by_cases hhyphen : c = '-' <;> simp [hhyphen, hstar]

theorem mem_mapClass {p : Char → Bool} {x c : Char} {s : List Char} (h : c ∈ mapClass p x s) :
    c = x ∨ (c ∈ s ∧ p c = false) := by
  obtain ⟨d, hd, rfl⟩ := List.mem_map.mp h
  by_cases hp : p d = true <;> simp_all

/-- The lines of occurrences hold each of them as a word. -/
theorem exists_occurrenceContents {width : Int} {occurrences : List Occurrence}
    (hlegible : ∀ o ∈ occurrences, o.Legible) (hstars : StarsKept width occurrences) :
    ∃ contents : List (List Char), (occurrenceLines width occurrences).map String.toList =
        contents.map ("#: ".toList ++ ·) ∧
      contents.flatMap words = occurrences.map (·.render.toList) ∧
      ∀ content ∈ contents, '\n' ∉ content ∧ '\r' ∉ content := by
  have hwords := words_occurrenceText hlegible
  have htext : (" ".intercalate (occurrences.map Occurrence.render)).toList =
      occurrenceText occurrences := by
    rw [String.toList_intercalate, List.map_map]
    rfl
  unfold StarsKept at hstars
  unfold occurrenceLines
  by_cases hempty : occurrences = []
  · exact ⟨[], by simp [hempty], by simp [hempty], by simp⟩
  rw [if_neg (by simpa using hempty)]
  dsimp only
  rw [← String.length_toList, htext]
  by_cases hlong : Overlong width "#: ".toList (occurrenceText occurrences)
  · -- Hyphens are masked while the lines are filled, so no word is cut.
    have hhyphen : '-' ∉ mapClass (· == '-') '*' (occurrenceText occurrences) := by
      intro h
      rcases mem_mapClass h with h | ⟨-, h⟩
      · exact absurd h (by decide)
      · exact absurd h (by decide)
    obtain ⟨contents, hlines, hcontents⟩ := exists_contents
      (f := { width, first := "#: ".toList, other := "#: ".toList }) rfl rfl rfl hhyphen
    have hoverlong : (decide (((occurrenceText occurrences).length + 3 : Int) > width) &&
        decide (width > 0)) = true := by
      simpa [Overlong] using hlong
    refine ⟨contents.map (mapClass (· == '*') '-'), ?_, ?_, ?_⟩
    · rw [if_pos hoverlong, hlines, List.map_map, List.map_map, List.map_map]
      refine List.map_congr_left fun content _ => ?_
      simp [mapClass]
    · calc
        (contents.map (mapClass (· == '*') '-')).flatMap words =
            (contents.flatMap words).map (mapClass (· == '*') '-') := by
          rw [List.flatMap_map, List.map_flatMap]
          exact List.flatMap_congr fun content _ => words_mapClass (by decide) (by decide) content
        _ = (words (occurrenceText occurrences)).map
              fun word => mapClass (· == '*') '-' (mapClass (· == '-') '*' word) := by
          rw [hcontents.words_eq, words_mapClass (by decide) (by decide), List.map_map]
          rfl
        _ = occurrences.map (·.render.toList) := by
          rw [hwords, List.map_map]
          exact List.map_congr_left fun o ho => mapClass_mapClass_of_notMem (hstars hlong o ho)
    · intro content hcontent
      obtain ⟨content, hmem, rfl⟩ := List.mem_map.mp hcontent
      have hplain (c : Char) (hc : c ∈ mapClass (· == '*') '-' content) :
          c = '-' ∨ c = ' ' ∨ isFillBlank c = false :=
        (mem_mapClass hc).imp id fun h => (hcontents.plain content hmem c h.1).imp id And.right
      exact ⟨fun h => absurd (hplain _ h) (by decide), fun h => absurd (hplain _ h) (by decide)⟩
  · have hfits : ¬ (decide (((occurrenceText occurrences).length + 3 : Int) > width) &&
        decide (width > 0)) = true := by
      simpa [Overlong] using hlong
    rw [if_neg hfits]
    refine ⟨[occurrenceText occurrences], by simp [htext], by simpa using hwords, ?_⟩
    simp only [List.mem_singleton, forall_eq]
    exact ⟨fun h => absurd (ne_of_mem_occurrenceText hlegible h) (by decide),
      fun h => absurd (ne_of_mem_occurrenceText hlegible h) (by decide)⟩

end Harvest.Catalog
