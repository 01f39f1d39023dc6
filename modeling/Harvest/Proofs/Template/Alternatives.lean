import Harvest.Proofs.Text.Words
import Harvest.Template.Engine

/-!
# Alternatives and their bars

Texts may be joined to one expression with bars between them, if the bars in them are written with a
backslash. To split the expression gives the texts again, each without blanks around it and with its
engine.
-/

namespace Harvest.Template

open Text

variable {s : List Char}

def escapeBars (s : List Char) : List Char := replace ['|'] ['\\', '|'] s

theorem escapeBars_cons (c : Char) (s : List Char) :
    escapeBars (c :: s) = (if c = '|' then ['\\', '|'] else [c]) ++ escapeBars s := by
  unfold escapeBars replace
  by_cases hc : c = '|'
  · subst hc
    rfl
  · have hbar : ['|'].isPrefixOf (c :: s) = false := by
      rw [List.isPrefixOf_cons_cons, beq_false_of_ne (Ne.symm hc), Bool.false_and]
    rw [replaceFrom, hbar, if_neg Bool.false_ne_true, if_neg hc]
    rfl

theorem head?_escapeBars_ne (s : List Char) : (escapeBars s).head? ≠ some '|' := by
  cases s with
  | nil => exact nofun
  | cons c s =>
    rw [escapeBars_cons]
    split
    · simp
    · rename_i hc
      simpa using hc

/-- Bars that are escaped are read back. -/
theorem replace_escapeBars (s : List Char) : replace ['\\', '|'] ['|'] (escapeBars s) = s := by
  induction s with
  | nil => rfl
  | cons c s ih =>
    unfold replace at ih ⊢
    rw [escapeBars_cons]
    split
    · rename_i hc
      rw [hc]
      exact congrArg ('|' :: ·) ih
    · -- A backslash of the text itself is never followed by a bar.
      have hstart : ['\\', '|'].isPrefixOf (c :: escapeBars s) = false := by
        have hhead := head?_escapeBars_ne s
        rw [List.isPrefixOf_cons_cons]
        cases hs : escapeBars s with
        | nil => exact Bool.and_false _
        | cons d t =>
          rw [hs, List.head?_cons, ne_eq, Option.some.injEq] at hhead
          rw [List.isPrefixOf_cons_cons, beq_false_of_ne (Ne.symm hhead),
            Bool.false_and, Bool.and_false]
      rw [List.singleton_append, replaceFrom, hstart, if_neg Bool.false_ne_true, ih]

/-! ## Blanks around a text -/

theorem allBlank_escapeBars (s : List Char) : allBlank (escapeBars s) = allBlank s := by
  unfold allBlank
  induction s with
  | nil => rfl
  | cons c s ih =>
    rw [escapeBars_cons, List.all_append, ih, List.all_cons]
    split
    · rename_i hc
      rw [hc]
      rfl
    · simp

theorem trimLeft_escapeBars (s : List Char) :
    trimLeft (escapeBars s) = escapeBars (trimLeft s) := by
  unfold trimLeft
  induction s with
  | nil => rfl
  | cons c s ih =>
    by_cases hblank : isBlank c = true
    · have hc : c ≠ '|' := fun hc => absurd (hc ▸ hblank) (by decide)
      rw [escapeBars_cons, if_neg hc, List.singleton_append, List.dropWhile_cons_of_pos hblank,
        List.dropWhile_cons_of_pos hblank, ih]
    · rw [List.dropWhile_cons_of_neg hblank, escapeBars_cons]
      split
      · rfl
      · exact List.dropWhile_cons_of_neg hblank

theorem trimRight_escapeBars (s : List Char) :
    trimRight (escapeBars s) = escapeBars (trimRight s) := by
  induction s with
  | nil => rfl
  | cons c s ih =>
    have hsplit : trimRight (c :: s) = if allBlank s then trimRight [c] else c :: trimRight s :=
      trimRight_append [c] s
    rw [escapeBars_cons, trimRight_append, allBlank_escapeBars, ih, hsplit]
    by_cases hs : allBlank s = true
    · rw [if_pos hs, if_pos hs]
      by_cases hc : c = '|'
      · rw [hc]
        rfl
      · have hnone : '|' ∉ trimRight [c] := by
          rw [trimRight_cons]
          split <;> simp [trimRight, trimRightOf, Ne.symm hc]
        rw [if_neg hc]
        exact (replace_of_notMem hnone).symm
    · rw [if_neg hs, if_neg hs, escapeBars_cons]

theorem trim_escapeBars (s : List Char) : trim (escapeBars s) = escapeBars (trim s) := by
  unfold trim
  rw [trimLeft_escapeBars, trimRight_escapeBars]

/-! ## Bars between texts -/

/-- Is the character behind a text escaped, if the one before it may be? -/
def endsEscaped (escaped : Bool) (s : List Char) : Bool := (s.getLast?.map (· == '\\')).getD escaped

theorem endsEscaped_cons (escaped : Bool) (c : Char) (s : List Char) :
    endsEscaped escaped (c :: s) = endsEscaped (c == '\\') s := by
  unfold endsEscaped
  rw [List.getLast?_cons]
  cases s.getLast? <;> rfl

theorem alternativesFrom_cons (escaped : Bool) (c : Char)
    (hc : c = '|' → escaped = true) (s : List Char) :
    alternativesFrom escaped (c :: s) = (alternativesFrom (c == '\\') s).modifyHead (c :: ·) := by
  have hnone : ¬(c = '|' ∧ escaped = false) := fun h => absurd (hc h.1) (by simp [h.2])
  have hsome : alternativesFrom (c == '\\') s ≠ [] := by
    cases s with
    | nil => simp [alternativesFrom]
    | cons d s =>
      rw [alternativesFrom]
      split
      · simp
      · split <;> simp
  rw [alternativesFrom, if_neg hnone]
  cases halternatives : alternativesFrom (c == '\\') s with
  | nil => exact absurd halternatives hsome
  | cons part parts => rfl

theorem alternativesFrom_escapeBars_append (escaped : Bool) (s t : List Char) :
    alternativesFrom escaped (escapeBars s ++ t) =
      (alternativesFrom (endsEscaped escaped s) t).modifyHead (escapeBars s ++ ·) := by
  induction s generalizing escaped with
  | nil => exact (congrFun List.modifyHead_id _).symm
  | cons c s ih =>
    rw [endsEscaped_cons, escapeBars_cons]
    by_cases hc : c = '|'
    · subst hc
      -- The bar follows the backslash before it.
      have hslash := alternativesFrom_cons escaped '\\' (by simp) ('|' :: (escapeBars s ++ t))
      have hbar := alternativesFrom_cons true '|' (fun _ => rfl) (escapeBars s ++ t)
      refine hslash.trans ?_
      rw [beq_self_eq_true, hbar, ih, List.modifyHead_modifyHead, List.modifyHead_modifyHead]
      rfl
    · rw [if_neg hc, List.singleton_append, List.cons_append,
        alternativesFrom_cons _ _ fun h => absurd h hc, ih,
        List.modifyHead_modifyHead]
      rfl

theorem alternatives_escapeBars (s : List Char) : alternatives (escapeBars s) = [escapeBars s] := by
  have hall := alternativesFrom_escapeBars_append false s []
  simpa [alternatives, alternativesFrom] using hall

theorem alternatives_escapeBars_append (hs : s.getLast? ≠ some '\\') (t : List Char) :
    alternatives (escapeBars s ++ '|' :: t) = escapeBars s :: alternatives t := by
  have hplain : endsEscaped false s = false := by
    unfold endsEscaped
    cases hlast : s.getLast? with
    | none => rfl
    | some c =>
      have hc : c ≠ '\\' := fun hc => hs (hlast.trans (congrArg some hc))
      simpa using hc
  unfold alternatives
  rw [alternativesFrom_escapeBars_append, hplain, alternativesFrom, if_pos ⟨rfl, rfl⟩,
    List.modifyHead_cons,
    List.append_nil]

/-- Escaped alternatives are told apart, if none but the last ends in a backslash. -/
theorem alternatives_join {parts : List (List Char)} (hparts : parts ≠ [])
    (hends : ∀ p ∈ parts.dropLast, p.getLast? ≠ some '\\') :
    alternatives (join ['|'] (parts.map escapeBars)) = parts.map escapeBars := by
  unfold join
  induction parts with
  | nil => exact absurd rfl hparts
  | cons p parts ih =>
    cases parts with
    | nil =>
      rw [List.map_singleton, List.intercalate_singleton]
      exact alternatives_escapeBars p
    | cons q parts =>
      rw [List.dropLast_cons_cons, List.forall_mem_cons] at hends
      rw [List.map_cons, List.intercalate_cons_of_ne_nil (by simp), List.append_assoc,
        List.singleton_append,
        alternatives_escapeBars_append hends.1, ih (List.cons_ne_nil q parts) hends.2]

/-- To split texts that have been joined with bars gives the texts, each without the blanks around
it and with its engine. A backslash before a bar would make it one of the text, so only the last
text may end in one. -/
theorem splitExpression_join (engine : String) (parts : List (List Char)) (hparts : parts ≠ [])
    (hends : ∀ p ∈ parts.dropLast, p.getLast? ≠ some '\\') :
    splitExpression engine (join ['|'] (parts.map (replace ['|'] ['\\', '|']))) =
      parts.map fun p => .ofText engine (trim p) := by
  unfold splitExpression
  rw [show replace ['|'] ['\\', '|'] = escapeBars from rfl,
    alternatives_join hparts hends, List.map_map]
  refine List.map_congr_left fun p _ => ?_
  rw [Function.comp_apply, trim_escapeBars, replace_escapeBars]

/-- An empty text, one that starts with a bar, one that has a backslash before its bar, and one at
the end with a backslash behind it. -/
theorem splitExpression_join_bars :
    splitExpression "tales" "|\\|a | python: b\\\\|c|x\\".toList =
      [⟨"tales", []⟩, ⟨"tales", "|a".toList⟩, ⟨"python", "b\\|c".toList⟩,
      ⟨"tales", "x\\".toList⟩] := by
  have h := splitExpression_join "tales" [[], "|a ".toList, " python: b\\|c".toList, "x\\".toList]
    (by decide) (by decide)
  exact h.trans (by decide)

end Harvest.Template
