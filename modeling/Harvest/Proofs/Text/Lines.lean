import Harvest.Text.Line

/-!
# Texts cut into lines

The lines of a text with their ends are the text, and a text that is put together from lines is cut
into these lines again.
-/

namespace Harvest.Text

/-! ## Lines with all kinds of ends -/

theorem flatMap_brokenLinesFrom (line s : List Char) :
    (brokenLinesFrom line s).flatMap (fun broken => broken.1 ++ broken.2) = line.reverse ++ s := by
  fun_induction brokenLinesFrom line s with
  | case1 line hempty => simp [List.isEmpty_iff.mp hempty]
  | case2 line _ => simp
  | case3 line cs ih => simp [ih]
  | case4 line c cs _ _ ih => simp [ih]
  | case5 line c cs _ _ ih => simp [ih]

theorem flatMap_brokenLines (s : List Char) :
    (brokenLines s).flatMap (fun broken => broken.1 ++ broken.2) = s :=
  flatMap_brokenLinesFrom [] s

theorem flatten_fullLines (s : List Char) : (fullLines s).flatten = s :=
  (List.flatMap_def ..).symm.trans (flatMap_brokenLines s)

theorem brokenLinesFrom_eq_nil_iff {line s : List Char} :
    brokenLinesFrom line s = [] ↔ line = [] ∧ s = [] := by
  fun_induction brokenLinesFrom line s with
  | case1 line hempty => simp [List.isEmpty_iff.mp hempty]
  | case2 line hne => simpa using hne
  | case3 line cs ih => simp
  | case4 line c cs _ _ ih => simp
  | case5 line c cs _ _ ih => simp [ih]

theorem getLast?_of_isLineEnd {s : List Char} (hs : (brokenLines s).length ≤ 1)
    {c : Char} (hc : c ∈ s) (hend : isLineEnd c = true) (hne : c ≠ '\r') : s.getLast? = some c := by
  have hfrom (line s : List Char) (hs : (brokenLinesFrom line s).length ≤ 1) (hc : c ∈ s) :
      s.getLast? = some c := by
    have hnil {broken : List Char × List Char} {cs : List Char}
        (h : (broken :: brokenLinesFrom [] cs).length ≤ 1) : cs = [] := by
      have hempty : brokenLinesFrom [] cs = [] := List.eq_nil_of_length_eq_zero (by simpa using h)
      exact (brokenLinesFrom_eq_nil_iff.mp hempty).2
    fun_induction brokenLinesFrom line s with
    | case1 => simp at hc
    | case2 => simp at hc
    | case3 line cs ih =>
      obtain rfl := hnil hs
      have hfeed : c = '\n' := by simpa [hne] using hc
      simp [hfeed]
    | case4 line d cs _ _ ih =>
      obtain rfl := hnil hs
      have hd : c = d := by simpa using hc
      simp [hd]
    | case5 line d cs _ hd ih =>
      rcases List.mem_cons.mp hc with rfl | hc
      · exact absurd hend hd
      · simp [List.getLast?_cons, ih hs hc]
  exact hfrom [] s hs hc

theorem brokenLinesFrom_cons {c : Char} {cs : List Char} (h : c = '\r' → cs.head? ≠ some '\n')
    (line : List Char) :
    brokenLinesFrom line (c :: cs) =
      if isLineEnd c then (line.reverse, [c]) :: brokenLinesFrom [] cs
      else brokenLinesFrom (c :: line) cs := by
  rw [brokenLinesFrom]
  rintro cs rfl rfl
  exact h rfl rfl

theorem lines_of_notEnd {s : List Char} (hne : s ≠ []) (hs : ∀ c ∈ s, isLineEnd c = false) :
    lines s = [s] := by
  have hfrom (line s : List Char) (hne : line.reverse ++ s ≠ [])
    (hs : ∀ c ∈ s, isLineEnd c = false) :
      brokenLinesFrom line s = [(line.reverse ++ s, [])] := by
    fun_induction brokenLinesFrom line s with
    | case1 line hempty => simp [List.isEmpty_iff.mp hempty] at hne
    | case2 line _ => simp
    | case3 line cs ih => exact absurd (hs '\r' List.mem_cons_self) (by decide)
    | case4 line c cs _ hend ih => exact absurd hend (by simp [hs c List.mem_cons_self])
    | case5 line c cs _ _ ih =>
      have hlater : ∀ d ∈ cs, isLineEnd d = false := fun d hd => hs d (List.mem_cons_of_mem c hd)
      rw [ih (by simp) hlater]
      simp
  unfold lines brokenLines
  rw [hfrom [] s hne hs]
  rfl

theorem brokenLines_append_feed (s t : List Char) :
    brokenLines (s ++ '\n' :: t) = brokenLines (s ++ ['\n']) ++ brokenLines t := by
  have hfeed (line t : List Char) :
      brokenLinesFrom line ('\n' :: t) = (line.reverse, ['\n']) :: brokenLinesFrom [] t :=
    brokenLinesFrom_cons (by simp) line
  -- A carriage return at the end goes with the line feed; any other character is read as before.
  have hnext {c : Char} {cs : List Char} (hpair : ∀ rest, c = '\r' → cs = '\n' :: rest → False)
      (hreturn : ¬ (c = '\r' ∧ cs = [])) (u : List Char) :
      c = '\r' → (cs ++ '\n' :: u).head? ≠ some '\n' := by
    intro hc hhead
    cases cs with
    | nil => exact hreturn ⟨hc, rfl⟩
    | cons d ds => exact hpair ds hc (by simpa using hhead)
  have hfrom (line : List Char) :
      brokenLinesFrom line (s ++ '\n' :: t) = brokenLinesFrom line (s ++ ['\n']) ++
          brokenLines t := by
    fun_induction brokenLinesFrom line s with
    | case1 line _ => simp [hfeed, brokenLines, brokenLinesFrom]
    | case2 line _ => simp [hfeed, brokenLines, brokenLinesFrom]
    | case3 line cs ih => simp [brokenLinesFrom, ih]
    | case4 line c cs hpair hend ih =>
      by_cases hreturn : c = '\r' ∧ cs = []
      · obtain ⟨rfl, rfl⟩ := hreturn
        simp [brokenLinesFrom, brokenLines]
      · rw [List.cons_append, List.cons_append, brokenLinesFrom_cons (hnext hpair hreturn t),
          brokenLinesFrom_cons (hnext hpair hreturn []), if_pos hend, if_pos hend,
            ih, List.cons_append]
    | case5 line c cs hpair hend ih =>
      have hreturn : ¬ (c = '\r' ∧ cs = []) := by
        rintro ⟨rfl, -⟩
        exact hend (by decide)
      rw [List.cons_append, List.cons_append, brokenLinesFrom_cons (hnext hpair hreturn t),
        brokenLinesFrom_cons (hnext hpair hreturn []), if_neg hend, if_neg hend, ih]
  exact hfrom []

/-! ## Lines that end with a line feed -/

theorem unifyLineEnds_cons {c : Char} (hc : c ≠ '\r') (cs : List Char) :
    unifyLineEnds (c :: cs) = c :: unifyLineEnds cs := by
  rw [unifyLineEnds]
  · rintro _ rfl
    exact absurd rfl hc
  · rintro rfl
    exact absurd rfl hc

theorem unifyLineEnds_append {s t : List Char} (ht : t.head? ≠ some '\n') :
    unifyLineEnds (s ++ t) = unifyLineEnds s ++ unifyLineEnds t := by
  fun_induction unifyLineEnds s with
  | case1 => rfl
  | case2 cs ih => simp [unifyLineEnds, ih]
  | case3 cs hno ih =>
    rw [List.cons_append, unifyLineEnds, ih]
    · rfl
    · intro rest hrest
      cases cs with
      | nil =>
        rw [List.nil_append] at hrest
        exact ht (by rw [hrest]; rfl)
      | cons c cs => exact hno cs (by rw [(List.cons.inj hrest).1])
  | case4 c cs hno hno' ih => rw [List.cons_append, unifyLineEnds_cons hno', ih]; rfl

theorem mem_unifyLineEnds {s : List Char} {c : Char} (h : c ∈ unifyLineEnds s) :
    c = '\n' ∨ c ∈ s := by
  fun_induction unifyLineEnds s with
  | case1 => cases h
  | case2 cs ih | case3 cs hno ih | case4 d cs hno hno' ih =>
    rcases List.mem_cons.mp h with rfl | h
    · simp
    · rcases ih h with rfl | h
      · exact .inl rfl
      · simp [h]

theorem unifyLineEnds_of_notMem {s : List Char} (hs : '\r' ∉ s) : unifyLineEnds s = s := by
  fun_induction unifyLineEnds s with
  | case1 => rfl
  | case2 cs ih => simp at hs
  | case3 cs _ ih => simp at hs
  | case4 c cs _ _ ih => rw [ih (fun h => hs (List.mem_cons_of_mem c h))]

theorem feedLinesFrom_of_notMem {s : List Char} (hs : '\n' ∉ s) (line rest : List Char) :
    feedLinesFrom line (s ++ '\n' :: rest) =
      (line.reverse ++ s ++ ['\n']) :: feedLinesFrom [] rest := by
  induction s generalizing line with
  | nil => simp [feedLinesFrom]
  | cons c s ih =>
    rw [List.mem_cons, not_or] at hs
    rw [List.cons_append, feedLinesFrom, if_neg (Ne.symm hs.1), ih hs.2, List.reverse_cons]
    simp

theorem feedLines_flatMap {ls : List (List Char)} (hls : ∀ line ∈ ls, '\n' ∉ line) :
    feedLines (ls.flatMap (· ++ ['\n'])) = ls.map (· ++ ['\n']) := by
  unfold feedLines
  induction ls with
  | nil => rfl
  | cons line rest ih =>
    rw [List.forall_mem_cons] at hls
    rw [List.flatMap_cons, List.append_assoc, List.singleton_append, feedLinesFrom_of_notMem hls.1,
      ih hls.2]
    rfl

end Harvest.Text
