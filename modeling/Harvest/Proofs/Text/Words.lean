import Mathlib.Data.List.DropRight
import Mathlib.Data.List.Induction
import Mathlib.Data.List.TakeWhile
import Harvest.Text.Blank

/-!
# Texts by their words

A text without blanks at its ends, in which every run of blanks is one space, is the same as the
words of the text with single spaces between them.
-/

namespace Harvest.Text

theorem trimRight_cons (c : Char) (cs : List Char) :
    trimRight (c :: cs) = if isBlank c && allBlank cs then [] else c :: trimRight cs := by
  have hdrop : (cs.reverse.dropWhile isBlank = []) ↔ allBlank cs = true := by
    rw [List.dropWhile_eq_nil_iff]
    simp [allBlank]
  unfold trimRight trimRightOf
  rw [List.reverse_cons, List.dropWhile_append]
  by_cases hcs : allBlank cs = true
  · rw [hdrop.mpr hcs, hcs]
    by_cases hc : isBlank c = true <;> simp [hc]
  · have hne : cs.reverse.dropWhile isBlank ≠ [] := fun h => hcs (hdrop.mp h)
    simp [hcs, hne]

theorem trimRight_eq_nil_iff (s : List Char) : trimRight s = [] ↔ allBlank s = true := by
  cases s with
  | nil => simp [trimRight, trimRightOf, allBlank]
  | cons c cs =>
    have hall : allBlank (c :: cs) = (isBlank c && allBlank cs) := rfl
    rw [trimRight_cons, hall]
    split <;> simp_all

theorem wordsFrom_nil_eq_nil_iff (s : List Char) : wordsFrom [] s = [] ↔ allBlank s = true := by
  have hword (word s : List Char) (hne : word ≠ []) : wordsFrom word s ≠ [] := by
    induction s generalizing word with
    | nil => simp [wordsFrom, hne]
    | cons c cs ih =>
      rw [wordsFrom]
      split
      · simp [hne]
      · exact ih _ (by simp)
  induction s with
  | nil => simp [wordsFrom, allBlank]
  | cons c cs ih =>
    rw [wordsFrom]
    by_cases hc : isBlank c = true
    · simp [hc, ih, allBlank]
    · simp [hc, hword, allBlank]

theorem join_wordsFrom (word s : List Char) :
    join [' '] (wordsFrom word s) =
      word.reverse ++ collapseFrom (word.isEmpty) (trimRight s) := by
  induction s generalizing word with
  | nil =>
    cases word with
    | nil => rfl
    | cons c word => simp [wordsFrom, join, trimRight, trimRightOf, collapseFrom]
  | cons c cs ih =>
    rw [wordsFrom, trimRight_cons]
    by_cases hc : isBlank c = true
    · by_cases hcs : allBlank cs = true
      · -- Blanks at the end of the text are trimmed on one side and start no word on the other.
        have hwords := (wordsFrom_nil_eq_nil_iff cs).mpr hcs
        cases word <;> simp [hc, hcs, hwords, join, collapseFrom]
      · have hwords : wordsFrom [] cs ≠ [] := fun h => hcs ((wordsFrom_nil_eq_nil_iff cs).mp h)
        have hrest : join [' '] (wordsFrom [] cs) = collapseFrom true (trimRight cs) := ih []
        cases word with
        | nil => simp [hc, hcs, hrest, collapseFrom]
        | cons d word =>
          -- The word ends here, and another one follows after one space.
          unfold join at hrest ⊢
          simp [hc, hcs, List.intercalate_cons_of_ne_nil hwords, hrest, collapseFrom]
    · have hrest := ih (c :: word)
      simp [hc, hrest, collapseFrom]

theorem collapse_trim (s : List Char) : collapse (trim s) = join [' '] (words s) := by
  have hstart (s : List Char) :
      collapseFrom false (trimRight (trimLeft s)) = collapseFrom true (trimRight s) := by
    induction s with
    | nil => rfl
    | cons c cs ih =>
      unfold trimLeft at ih ⊢
      rw [List.dropWhile_cons, trimRight_cons]
      by_cases hc : isBlank c = true
      · by_cases hcs : allBlank cs = true
        · rw [(trimRight_eq_nil_iff cs).mpr hcs] at ih
          simp [hc, hcs, ih, collapseFrom]
        · simp [hc, hcs, ih, collapseFrom]
      · rw [if_neg hc, trimRight_cons]
        simp [hc, collapseFrom]
  unfold collapse trim words
  rw [hstart, join_wordsFrom]
  rfl

/-! ## Words of texts that are put together -/

theorem words_append_blank {c : Char} (hc : isBlank c = true) (s t : List Char) :
    words (s ++ c :: t) = words s ++ words t := by
  have hfrom (word : List Char) : wordsFrom word (s ++ c :: t) = wordsFrom word s ++
      wordsFrom [] t := by
    induction s generalizing word with
    | nil => cases word <;> simp [wordsFrom, hc]
    | cons d s ih =>
      rw [List.cons_append, wordsFrom, wordsFrom]
      by_cases hd : isBlank d = true
      · cases word <;> simp [hd, ih]
      · simp [hd, ih]
  exact hfrom []

theorem words_eq_nil_iff {s : List Char} : words s = [] ↔ allBlank s = true :=
  wordsFrom_nil_eq_nil_iff s

theorem ne_nil_of_mem_wordsFrom {word s w : List Char} (h : w ∈ wordsFrom word s) : w ≠ [] := by
  induction s generalizing word with
  | nil =>
    unfold wordsFrom at h
    split at h
    · cases h
    · rename_i hne
      rw [List.mem_singleton.mp h]
      simpa using hne
  | cons c cs ih =>
    unfold wordsFrom at h
    split at h
    · split at h
      · exact ih h
      · rename_i hne
        rcases List.mem_cons.mp h with rfl | h
        · simpa using hne
        · exact ih h
    · exact ih h

theorem wordsFrom_of_forall_not_blank {word s : List Char} (hne : word.reverse ++ s ≠ [])
    (hs : ∀ c ∈ s, isBlank c = false) : wordsFrom word s = [word.reverse ++ s] := by
  induction s generalizing word with
  | nil =>
    rw [List.append_nil] at hne
    have hword : word.isEmpty = false := by simpa using hne
    simp [wordsFrom, hword]
  | cons c cs ih =>
    rw [List.forall_mem_cons] at hs
    rw [wordsFrom, hs.1]
    have hrest : wordsFrom (c :: word) cs = [(c :: word).reverse ++ cs] := ih (by simp) hs.2
    simpa using hrest

theorem exists_wordsFrom_eq_cons {word : List Char} (hne : word ≠ []) (s : List Char) :
    ∃ w ws, wordsFrom word s = (word.reverse ++ w) :: ws := by
  induction s generalizing word with
  | nil => exact ⟨[], [], by simp [wordsFrom, hne]⟩
  | cons c cs ih =>
    rw [wordsFrom]
    split
    case isTrue => exact ⟨[], wordsFrom [] cs, by simp [hne]⟩
    case isFalse =>
      obtain ⟨w, ws, h⟩ := ih (List.cons_ne_nil c word)
      exact ⟨c :: w, ws, by simp [h]⟩

theorem words_of_forall_not_blank {s : List Char} (hne : s ≠ []) (hs : ∀ c ∈ s, isBlank c = false) :
    words s = [s] := wordsFrom_of_forall_not_blank hne hs

/-- Where one of two parts has a blank next to the other, the words of both are the words of the
whole. -/
theorem words_append {s t : List Char}
    (h : (∃ c ∈ s.getLast?, isBlank c = true) ∨ ∃ c ∈ t.head?, isBlank c = true) :
    words (s ++ t) = words s ++ words t := by
  rcases h with ⟨c, hc, hblank⟩ | ⟨c, hc, hblank⟩
  · obtain ⟨front, rfl⟩ := List.getLast?_eq_some_iff.mp hc
    rw [List.append_assoc, List.singleton_append, words_append_blank hblank,
      words_append_blank hblank]
    simp [words, wordsFrom]
  · obtain ⟨rest, rfl⟩ := List.head?_eq_some_iff.mp hc
    have hrest : words (c :: rest) = words rest := words_append_blank hblank [] rest
    rw [words_append_blank hblank, hrest]

theorem words_join {c : Char} (hc : isBlank c = true) (parts : List (List Char)) :
    words (join [c] parts) = parts.flatMap words := by
  unfold join
  induction parts with
  | nil => rfl
  | cons part parts ih =>
    cases parts with
    | nil => simp
    | cons next parts =>
      rw [List.intercalate_cons_cons, List.append_assoc, List.singleton_append,
        words_append_blank hc, ih,
        List.flatMap_cons (x := part)]

/-! ## Parts between separators -/

theorem join_cons (sep part : List Char) (parts : List (List Char)) :
    join sep (part :: parts) = part ++ parts.flatMap (sep ++ ·) := by
  unfold join
  induction parts generalizing part with
  | nil => simp
  | cons next parts ih =>
    rw [List.intercalate_cons_cons, ih next, List.flatMap_cons]
    simp

theorem join_concat (sep : List Char) {parts : List (List Char)} (hne : parts ≠ [])
    (part : List Char) :
    join sep (parts ++ [part]) = join sep parts ++ (sep ++ part) := by
  unfold join
  induction parts with
  | nil => exact absurd rfl hne
  | cons first rest ih =>
    cases rest with
    | nil => simp [List.intercalate_cons_cons]
    | cons next rest =>
      rw [List.cons_append, List.intercalate_cons_of_ne_nil (by simp), ih (List.cons_ne_nil _ _),
        List.intercalate_cons_of_ne_nil (List.cons_ne_nil _ _), ← List.append_assoc]

theorem join_splitOn (sep : Char) (s : List Char) : join [sep] (s.splitOn sep) = s :=
  List.intercalate_splitOn sep

theorem mem_join {sep part : List Char} {parts : List (List Char)} (h : part ∈ parts) {c : Char}
    (hc : c ∈ part) : c ∈ join sep parts := by
  unfold join
  induction parts with
  | nil => simp at h
  | cons first rest ih =>
    cases rest with
    | nil => simp_all
    | cons next rest =>
      rw [List.intercalate_cons_cons, List.mem_append, List.mem_append]
      rcases List.mem_cons.mp h with rfl | h
      · exact .inl (.inl hc)
      · exact .inr (ih h)

theorem mem_of_mem_join {sep : List Char} {parts : List (List Char)} {c : Char}
    (h : c ∈ join sep parts) :
    c ∈ sep ∨ ∃ part ∈ parts, c ∈ part := by
  unfold join at h
  induction parts with
  | nil => simp at h
  | cons first rest ih =>
    cases rest with
    | nil => exact .inr ⟨first, List.mem_cons_self, by simpa using h⟩
    | cons next rest =>
      rw [List.intercalate_cons_cons, List.mem_append, List.mem_append] at h
      rcases h with (h | h) | h
      · exact .inr ⟨first, List.mem_cons_self, h⟩
      · exact .inl h
      · exact (ih h).imp id fun ⟨part, hpart, hc⟩ => ⟨part, List.mem_cons_of_mem _ hpart, hc⟩

theorem notMem_of_mem_splitOn {sep : Char} {s part : List Char} (h : part ∈ s.splitOn sep) :
    sep ∉ part := by
  induction s generalizing part with
  | nil =>
    obtain rfl := List.mem_singleton.mp h
    exact List.not_mem_nil
  | cons c cs ih =>
    rw [List.splitOn_cons_eq_if_modifyHead] at h
    split at h
    case isTrue =>
      rcases List.mem_cons.mp h with rfl | h
      · exact List.not_mem_nil
      · exact ih h
    case isFalse hc =>
      obtain ⟨first, rest, hsplit⟩ := List.exists_cons_of_ne_nil (List.splitOn_ne_nil sep cs)
      rw [hsplit] at h ih
      rcases List.mem_cons.mp h with rfl | h
      · have hfirst : sep ∉ first := ih List.mem_cons_self
        have hne : sep ≠ c := fun heq => hc (beq_iff_eq.mpr heq.symm)
        rw [List.mem_cons, not_or]
        exact ⟨hne, hfirst⟩
      · exact ih (List.mem_cons_of_mem _ h)

theorem splitOn_append_of_notMem {sep : Char} {s t part : List Char} {parts : List (List Char)}
    (hs : sep ∉ s) (ht : t.splitOn sep = part :: parts) :
    (s ++ t).splitOn sep = (s ++ part) :: parts := by
  induction s with
  | nil => exact ht
  | cons c cs ih =>
    rw [List.mem_cons, not_or] at hs
    rw [List.cons_append, List.splitOn_cons_eq_if_modifyHead,
      beq_false_of_ne (Ne.symm hs.1), ih hs.2]
    rfl

theorem splitOn_replicate_append (sep : Char) (n : Nat) (s : List Char) :
    (List.replicate n sep ++ s).splitOn sep = List.replicate n [] ++ s.splitOn sep := by
  induction n with
  | zero => rfl
  | succ n ih =>
    rw [List.replicate_succ, List.replicate_succ, List.cons_append,
      List.splitOn_cons_eq_if_modifyHead,
      beq_self_eq_true, ih]
    rfl

theorem cut?_append {sep : Char} {before : List Char} (h : sep ∉ before) (after : List Char) :
    cut? sep (before ++ sep :: after) = some (before, after) := by
  induction before with
  | nil => exact if_pos rfl
  | cons c before ih =>
    rw [List.mem_cons, not_or] at h
    rw [List.cons_append, cut?, if_neg (Ne.symm h.1), ih h.2]
    rfl

theorem replace_of_notMem {c : Char} {old new s : List Char} (hs : c ∉ s) :
    replace (c :: old) new s = s := by
  unfold replace
  induction s with
  | nil => rfl
  | cons d s ih =>
    rw [List.mem_cons, not_or] at hs
    have hstart : (c :: old).isPrefixOf (d :: s) = false := by
      rw [List.isPrefixOf_cons_cons, beq_false_of_ne hs.1, Bool.false_and]
    rw [replaceFrom, hstart, if_neg Bool.false_ne_true, ih hs.2]

/-! ## Blanks at the ends of a text -/

def startsBlank (s : List Char) : Bool := (s.head?.map isBlank).getD false

def endsBlank (s : List Char) : Bool := (s.getLast?.map isBlank).getD false

theorem exists_trimRightOf_append (p : Char → Bool) (s : List Char) :
    ∃ trimmed, (∀ c ∈ trimmed, p c = true) ∧ s = trimRightOf p s ++ trimmed := by
  refine ⟨(s.reverse.takeWhile p).reverse, ?_, ?_⟩
  · intro c hc
    exact List.mem_takeWhile_imp (List.mem_reverse.mp hc)
  · unfold trimRightOf
    rw [← List.reverse_append, List.takeWhile_append_dropWhile, List.reverse_reverse]

theorem trimRightOf_last (p : Char → Bool) (s : List Char) (h : trimRightOf p s ≠ []) :
    ¬ p ((trimRightOf p s).getLast h) = true := List.rdropWhile_last_not p s h

theorem exists_trimRight_append (s : List Char) :
    ∃ blanks, allBlank blanks = true ∧ s = trimRight s ++ blanks := by
  obtain ⟨blanks, hblanks, hs⟩ := exists_trimRightOf_append isBlank s
  exact ⟨blanks, List.all_eq_true.mpr hblanks, hs⟩

theorem mem_of_mem_trim {s : List Char} {c : Char} (h : c ∈ trim s) : c ∈ s := by
  obtain ⟨blanks, -, htrimmed⟩ := exists_trimRight_append (trimLeft s)
  have hleft : c ∈ trimLeft s := by
    rw [htrimmed]
    exact List.mem_append_left blanks h
  exact (List.dropWhile_suffix isBlank).mem hleft

theorem trimRight_append_blank (s : List Char) {c : Char} (hc : isBlank c = true) :
    trimRight (s ++ [c]) = trimRight s := by
  simp [trimRight, trimRightOf, hc]

theorem trimRight_append (s t : List Char) :
    trimRight (s ++ t) = if allBlank t then trimRight s else s ++ trimRight t := by
  induction s with
  | nil =>
    split
    case isTrue h => exact (trimRight_eq_nil_iff t).mpr h
    case isFalse => rfl
  | cons c s ih =>
    have hall : allBlank (s ++ t) = (allBlank s && allBlank t) := List.all_append
    rw [List.cons_append, trimRight_cons, trimRight_cons, ih, hall]
    by_cases ht : allBlank t = true
    · simp [ht]
    · simp [ht]

theorem trimLeft_of_startsBlank {s : List Char} (hs : startsBlank s = false) : trimLeft s = s := by
  cases s with
  | nil => rfl
  | cons c cs =>
    have hc : isBlank c = false := hs
    simp [trimLeft, hc]

theorem trimLeft_of_trim {s : List Char} (h : trim s = s) : trimLeft s = s := by
  have hsuffix : trimLeft s <:+ s := List.dropWhile_suffix isBlank
  obtain ⟨blanks, -, htrimmed⟩ := exists_trimRight_append (trimLeft s)
  refine hsuffix.eq_of_length (Nat.le_antisymm hsuffix.length_le ?_)
  -- What is left after both ends are trimmed is no longer than what is left after one is.
  have hlength := congrArg List.length htrimmed
  rw [show trimRight (trimLeft s) = s from h, List.length_append] at hlength
  omega

theorem trimRight_of_trim {s : List Char} (h : trim s = s) : trimRight s = s := by
  rwa [trim, trimLeft_of_trim h] at h

theorem trim_append_of_allBlank {lead s : List Char} (hlead : allBlank lead = true)
    (h : trim s = s) :
    trim (lead ++ s) = s := by
  have hdrop : trimLeft (lead ++ s) = trimLeft s :=
    List.dropWhile_append_of_pos (List.all_eq_true.mp hlead)
  rw [trim, hdrop]
  exact h

theorem words_append_allBlank (s : List Char) {t : List Char} (ht : allBlank t = true) :
    words (s ++ t) = words s := by
  cases t with
  | nil => rw [List.append_nil]
  | cons c t =>
    have hc : isBlank c = true ∧ allBlank t = true := by simpa [allBlank] using ht
    rw [words_append_blank hc.1, words_eq_nil_iff.mpr hc.2, List.append_nil]

theorem words_trimRight (s : List Char) : words (trimRight s) = words s := by
  obtain ⟨blanks, hblanks, hs⟩ := exists_trimRight_append s
  calc
    words (trimRight s) = words (trimRight s ++ blanks) := (words_append_allBlank _ hblanks).symm
    _ = words s := by rw [← hs]

/-! ## Texts that are the same up to blanks -/

theorem allBlank_of_startsBlank {s : List Char} (hne : s ≠ []) (hs : startsBlank s = false) :
    allBlank s = false := by
  cases s with
  | nil => exact absurd rfl hne
  | cons c cs =>
    have hc : isBlank c = false := hs
    simp [allBlank, hc]

theorem endsBlank_cons (c : Char) (cs : List Char) :
    endsBlank (c :: cs) = if cs.isEmpty then isBlank c else endsBlank cs := by
  cases cs with
  | nil => rfl
  | cons d cs => simp [endsBlank, List.getLast?_cons_cons]

@[simp] theorem endsBlank_concat (s : List Char) (c : Char) : endsBlank (s ++ [c]) = isBlank c := by
  simp [endsBlank]

theorem startsBlank_append {s : List Char} (hne : s ≠ []) (t : List Char) :
    startsBlank (s ++ t) = startsBlank s := by
  obtain ⟨c, cs, rfl⟩ := List.exists_cons_of_ne_nil hne
  rfl

theorem startsBlank_trimRight {s : List Char} (hs : allBlank s = false) :
    startsBlank (trimRight s) = startsBlank s := by
  cases s with
  | nil => rfl
  | cons c cs =>
    have hcons : (isBlank c && allBlank cs) = false := hs
    simp [trimRight_cons, hcons, startsBlank]

theorem endsBlank_append (s t : List Char) :
    endsBlank (s ++ t) = if t.isEmpty then endsBlank s else endsBlank t := by
  cases t with
  | nil => simp
  | cons c t => simp [endsBlank, List.getLast?_append, List.getLast?_cons]

theorem endsBlank_of_allBlank {s : List Char} (hs : allBlank s = true) :
    endsBlank s = !s.isEmpty := by
  cases hlast : s.getLast? with
  | none =>
    rw [List.getLast?_eq_none_iff.mp hlast]
    rfl
  | some c =>
    have hmem := List.mem_of_getLast? hlast
    have hc : isBlank c = true := List.all_eq_true.mp hs c hmem
    have hne : s ≠ [] := List.ne_nil_of_mem hmem
    simp [endsBlank, hlast, hc, hne]

theorem endsBlank_trimRight (s : List Char) : endsBlank (trimRight s) = false := by
  induction s with
  | nil => rfl
  | cons c cs ih =>
    rw [trimRight_cons]
    split
    · rfl
    · rename_i h
      rw [endsBlank_cons, ih]
      split
      · rename_i hempty
        have hcs := (trimRight_eq_nil_iff cs).mp (List.isEmpty_iff.mp hempty)
        simpa [hcs] using h
      · rfl

theorem collapseFrom_append (inRun : Bool) (s t : List Char) :
    collapseFrom inRun (s ++ t) =
      collapseFrom inRun s ++ collapseFrom (if s.isEmpty then inRun else endsBlank s) t := by
  induction s generalizing inRun with
  | nil => rfl
  | cons c cs ih =>
    have hend : (if cs.isEmpty then isBlank c else endsBlank cs) = endsBlank (c :: cs) :=
      (endsBlank_cons c cs).symm
    rw [List.cons_append, collapseFrom, collapseFrom]
    by_cases hc : isBlank c = true
    · rw [← hend]
      cases inRun <;> simp [hc, ih]
    · rw [← hend]
      simp [hc, ih]

theorem collapseFrom_of_allBlank {s : List Char} (hs : allBlank s = true) (inRun : Bool) :
    collapseFrom inRun s = if inRun || s.isEmpty then [] else [' '] := by
  have htrue (s : List Char) (hs : allBlank s = true) : collapseFrom true s = [] := by
    induction s with
    | nil => rfl
    | cons c cs ih =>
      have hc : isBlank c = true ∧ allBlank cs = true := by simpa [allBlank] using hs
      rw [collapseFrom, hc.1]
      exact ih hc.2
  cases inRun with
  | true => exact htrue s hs
  | false =>
    cases s with
    | nil => rfl
    | cons c cs =>
      have hc : isBlank c = true ∧ allBlank cs = true := by simpa [allBlank] using hs
      rw [collapseFrom, hc.1, htrue cs hc.2]
      rfl

theorem startsBlank_collapse (s : List Char) : startsBlank (collapse s) = startsBlank s := by
  cases s with
  | nil => rfl
  | cons c cs =>
    unfold collapse
    rw [collapseFrom]
    by_cases hc : isBlank c = true
    · simp [hc, startsBlank]
      decide
    · simp [hc, startsBlank]

theorem endsBlank_collapse (s : List Char) : endsBlank (collapse s) = endsBlank s := by
  induction s using List.reverseRecOn with
  | nil => rfl
  | append_singleton s c ih =>
    unfold collapse at ih ⊢
    rw [collapseFrom_append, endsBlank_concat, collapseFrom]
    by_cases hc : isBlank c = true
    · cases hstate : (if s.isEmpty then false else endsBlank s) with
      | true =>
        have hs : endsBlank s = true := by
          by_contra hs
          simp [hs] at hstate
        simp [hc, ih, hs, collapseFrom]
      | false =>
        simp [hc, collapseFrom]
        decide
    · simp [hc, collapseFrom]

/-- A run of blanks at either end is one space, and so is one between words. -/
theorem collapse_eq_join {s : List Char} (hs : allBlank s = false) :
    collapse s =
      (if startsBlank s then [' '] else []) ++ join [' '] (words s) ++
        (if endsBlank s then [' '] else []) := by
  obtain ⟨blanks, hblanks, hsplit⟩ := exists_trimRight_append s
  have hne : trimRight s ≠ [] := fun h => by simp [(trimRight_eq_nil_iff s).mp h] at hs
  have hend : endsBlank s = !blanks.isEmpty := by
    rw [hsplit, endsBlank_append, endsBlank_trimRight, endsBlank_of_allBlank hblanks]
    cases blanks <;> rfl
  have hjoin : join [' '] (words s) = collapseFrom true (trimRight s) := join_wordsFrom [] s
  have hstart : collapse (trimRight s) =
      (if startsBlank s then [' '] else []) ++ collapseFrom true (trimRight s) := by
    cases s with
    | nil => simp [allBlank] at hs
    | cons c cs =>
      have hcons : (isBlank c && allBlank cs) = false := hs
      have htrim : trimRight (c :: cs) = c :: trimRight cs := by simp [trimRight_cons, hcons]
      unfold collapse
      rw [htrim, collapseFrom, collapseFrom]
      by_cases hc : isBlank c = true <;> simp [hc, startsBlank]
  calc
    collapse s = collapse (trimRight s ++ blanks) := by rw [← hsplit]
    _ = collapse (trimRight s) ++ collapseFrom false blanks := by
      unfold collapse
      rw [collapseFrom_append, endsBlank_trimRight, ite_self]
    _ = _ := by
      rw [hstart, hjoin, collapseFrom_of_allBlank hblanks, hend]
      cases blanks <;> rfl

/-- Texts of the same words collapse to the same if both start, and both end, with a blank or not.
-/
theorem collapse_eq_iff {s t : List Char} (hwords : words s = words t) :
    collapse s = collapse t ↔ startsBlank s = startsBlank t ∧ endsBlank s = endsBlank t := by
  constructor
  · intro h
    rw [← startsBlank_collapse s, ← endsBlank_collapse s, h, startsBlank_collapse,
      endsBlank_collapse]
    exact ⟨rfl, rfl⟩
  · rintro ⟨hstart, hend⟩
    have hblank : allBlank s = allBlank t := by
      rw [Bool.eq_iff_iff, ← words_eq_nil_iff, hwords, words_eq_nil_iff]
    cases hs : allBlank s with
    | true =>
      rw [endsBlank_of_allBlank hs, endsBlank_of_allBlank (hblank ▸ hs)] at hend
      unfold collapse
      rw [collapseFrom_of_allBlank hs, collapseFrom_of_allBlank (hblank ▸ hs)]
      cases s <;> cases t <;> simp_all
    | false =>
      rw [collapse_eq_join hs, collapse_eq_join (hblank ▸ hs), hwords, hstart, hend]

/-! ## Numbers -/

theorem isDigit_of_mem_repr {n : Nat} {c : Char} (h : c ∈ (Nat.repr n).toList) :
    c.isDigit = true := by
  unfold Nat.repr at h
  rw [String.toList_ofList] at h
  exact Nat.isDigit_of_mem_toDigits (by decide) (by decide) h

theorem mem_toString_int {n : Int} {c : Char} (h : c ∈ (toString n).toList) :
    c = '-' ∨ c.isDigit = true := by
  cases n with
  | ofNat m => exact .inr (isDigit_of_mem_repr h)
  | negSucc m =>
    have h : c ∈ ("-" ++ Nat.repr (m + 1)).toList := h
    rw [String.toList_append, List.mem_append] at h
    rcases h with h | h
    · exact .inl (List.mem_singleton.mp h)
    · exact .inr (isDigit_of_mem_repr h)

end Harvest.Text
