import Harvest.Message.Format
import Mathlib.Data.List.TakeWhile

/-!
# Percent signs as `printf` reads them

`printf` reads a text from left to right: two percent signs stand for one, and any other percent
sign starts a conversion. The flag goes by another rule. The last of each run of percent signs has
to start a conversion, also where the sign before has taken it up, and a percent sign may end a
conversion.
-/

namespace Harvest.Message

/-! ## Conversions -/

def Optional (p : List Char → Prop) (s : List Char) : Prop := s = [] ∨ p s

def IsFlag (s : List Char) : Prop := ∃ c ∈ "+#0-".toList, s = [c]

def IsAmount (s : List Char) : Prop := s = ['*'] ∨ s ≠ [] ∧ ∀ c ∈ s, Text.isDigit c = true

def IsPrecision (s : List Char) : Prop := ∃ amount, IsAmount amount ∧ s = '.' :: amount

def lengthModifiers : List (List Char) :=
  [['h', 'h'], ['h'], ['l', 'l'], ['l'], ['j'], ['z'], ['t'], ['L']]

def lengthLetters : List Char := ['h', 'l', 'j', 'z', 't', 'L']

def IsDirections (s : List Char) : Prop :=
  ∃ flag width precision length, Optional IsFlag flag ∧ Optional IsAmount width ∧
    Optional IsPrecision precision ∧ Optional (· ∈ lengthModifiers) length ∧
      s = flag ++ (width ++ (precision ++ length))

/-- A conversion that ends in one of these specifiers stands at the start of a text. -/
def StartsConversion (specifiers s : List Char) : Prop :=
  ∃ directions c rest, IsDirections directions ∧ c ∈ specifiers ∧ s = directions ++ c :: rest

def EndsAmount (s : List Char) : Prop :=
  ∃ c rest, s = c :: rest ∧ c ∉ "+#0-*".toList ∧ Text.isDigit c = false

section Dropping

variable {s t width flag precision length : List Char}

theorem exists_conversionFlag (s : List Char) :
    ∃ flag, Optional IsFlag flag ∧ s = flag ++ dropConversionFlag s := by
  unfold dropConversionFlag
  split
  · next c rest =>
    split
    · next h => exact ⟨[c], .inr ⟨c, List.contains_iff_mem.mp h, rfl⟩, rfl⟩
    · exact ⟨[], .inl rfl, rfl⟩
  · exact ⟨[], .inl rfl, rfl⟩

theorem optional_amount_iff {amount : List Char} :
    Optional IsAmount amount ↔ amount = ['*'] ∨ ∀ c ∈ amount, Text.isDigit c = true := by
  constructor
  · rintro (rfl | h | ⟨-, h⟩)
    · exact .inr fun c hc => absurd hc List.not_mem_nil
    · exact .inl h
    · exact .inr h
  · rintro (h | h)
    · exact .inr (.inl h)
    · by_cases hnil : amount = []
      · exact .inl hnil
      · exact .inr (.inr ⟨hnil, h⟩)

theorem exists_amount (s : List Char) :
    ∃ amount, Optional IsAmount amount ∧ s = amount ++ dropAmount s := by
  unfold dropAmount
  split
  · exact ⟨['*'], .inr (.inl rfl), rfl⟩
  · exact ⟨s.takeWhile Text.isDigit,
      optional_amount_iff.mpr (.inr fun c hc => List.mem_takeWhile_imp hc),
      List.takeWhile_append_dropWhile.symm⟩

theorem exists_precision (s : List Char) :
    ∃ precision, Optional IsPrecision precision ∧ s = precision ++ dropPrecision s := by
  unfold dropPrecision
  split
  · exact ⟨['.', '*'], .inr ⟨['*'], .inl rfl, rfl⟩, rfl⟩
  · next c rest _ =>
    split
    · next h =>
      refine ⟨'.' :: (c :: rest).takeWhile Text.isDigit,
        .inr ⟨_, .inr ⟨?_, fun c hc => List.mem_takeWhile_imp hc⟩, rfl⟩, ?_⟩
      · simp [h]
      · simp [h]
    · exact ⟨[], .inl rfl, rfl⟩
  · exact ⟨[], .inl rfl, rfl⟩

theorem exists_length (s : List Char) :
    ∃ length, Optional (· ∈ lengthModifiers) length ∧ s = length ++ dropLength s := by
  unfold dropLength
  split
  · exact ⟨['h', 'h'], .inr (by decide), rfl⟩
  · exact ⟨['h'], .inr (by decide), rfl⟩
  · exact ⟨['l', 'l'], .inr (by decide), rfl⟩
  · exact ⟨['l'], .inr (by decide), rfl⟩
  · exact ⟨['j'], .inr (by decide), rfl⟩
  · exact ⟨['z'], .inr (by decide), rfl⟩
  · exact ⟨['t'], .inr (by decide), rfl⟩
  · exact ⟨['L'], .inr (by decide), rfl⟩
  · exact ⟨[], .inl rfl, rfl⟩

theorem dropWhile_isDigit_append {digits : List Char}
    (hdigits : ∀ c ∈ digits, Text.isDigit c = true)
    (ht : EndsAmount t) : (digits ++ t).dropWhile Text.isDigit = t := by
  obtain ⟨c, rest, rfl, -, hc⟩ := ht
  rw [List.dropWhile_append_of_pos hdigits, List.dropWhile_cons_of_neg (by simp [hc])]

theorem dropAmount_append (hwidth : Optional IsAmount width) (ht : EndsAmount t) :
    dropAmount (width ++ t) = t := by
  rcases optional_amount_iff.mp hwidth with rfl | hdigits
  · rfl
  · -- no star stands first, neither as a digit nor at the start of `t`
    rw [dropAmount]
    · exact dropWhile_isDigit_append hdigits ht
    · intro rest hstar
      obtain ⟨c, after, rfl, hc, -⟩ := ht
      cases width with
      | nil =>
        cases hstar
        exact hc (by decide)
      | cons d digits =>
        cases hstar
        exact absurd (hdigits '*' List.mem_cons_self) (by decide)

theorem dropConversionFlag_append (hflag : Optional IsFlag flag) (hwidth : Optional IsAmount width)
    (ht : EndsAmount t) :
    ∃ amount, Optional IsAmount amount ∧
      dropConversionFlag (flag ++ (width ++ t)) = amount ++ t := by
  rcases hflag with rfl | ⟨c, hc, rfl⟩
  · cases width with
    | nil =>
      obtain ⟨c, rest, rfl, hc, -⟩ := ht
      refine ⟨[], .inl rfl, if_neg fun h => hc ?_⟩
      exact List.mem_append_left ['*'] (List.contains_iff_mem.mp h)
    | cons d digits =>
      rcases optional_amount_iff.mp hwidth with hstar | hdigits
      · cases hstar
        exact ⟨['*'], hwidth, rfl⟩
      · by_cases hd : "+#0-".toList.contains d = true
        · refine ⟨digits, optional_amount_iff.mpr (.inr fun c hc => ?_), if_pos hd⟩
          exact hdigits c (List.mem_cons_of_mem d hc)
        · exact ⟨d :: digits, hwidth, if_neg hd⟩
  · exact ⟨width, hwidth, if_pos (List.contains_iff_mem.mpr hc)⟩

theorem dropPrecision_append (hprecision : Optional IsPrecision precision) (ht : EndsAmount t)
    (hpoint : t.head? ≠ some '.') : dropPrecision (precision ++ t) = t := by
  rcases hprecision with rfl | ⟨amount, rfl | ⟨hne, hdigits⟩, rfl⟩
  · rw [List.nil_append, dropPrecision]
    · rintro rest rfl
      exact hpoint rfl
    · rintro c rest rfl
      exact hpoint rfl
  · rfl
  · obtain ⟨d, digits, rfl⟩ := List.exists_cons_of_ne_nil hne
    have hd := hdigits d List.mem_cons_self
    have hrest := dropWhile_isDigit_append (fun c hc => hdigits c (List.mem_cons_of_mem d hc)) ht
    show dropPrecision ('.' :: d :: (digits ++ t)) = t
    rw [dropPrecision]
    · rw [if_pos hd, hrest]
    · rintro rfl
      exact absurd hd (by decide)

theorem dropLength_append {c : Char} (hlength : Optional (· ∈ lengthModifiers) length)
    (hc : c ∈ conversionSpecifiers) (rest : List Char) :
    dropLength (length ++ c :: rest) = c :: rest := by
  have hall : conversionSpecifiers.all (fun c => !(lengthLetters.contains c)) = true := by decide
  have hother : c ∉ lengthLetters := by simpa using List.all_eq_true.mp hall c hc
  simp only [lengthLetters, List.mem_cons, List.not_mem_nil, or_false, not_or] at hother
  obtain ⟨hh, hl, hj, hz, ht, hL⟩ := hother
  rcases hlength with rfl | hlength
  · simp [dropLength, hh, hl, hj, hz, ht, hL]
  · simp only [lengthModifiers, List.mem_cons, List.not_mem_nil, or_false] at hlength
    rcases hlength with rfl | rfl | rfl | rfl | rfl | rfl | rfl | rfl <;> simp [dropLength, hh, hl]

theorem endsAmount_length {c : Char} (hlength : Optional (· ∈ lengthModifiers) length)
    (hc : c ∈ conversionSpecifiers) (rest : List Char) :
    EndsAmount (length ++ c :: rest) ∧ (length ++ c :: rest).head? ≠ some '.' := by
  have hall : (conversionSpecifiers ++ lengthLetters).all (fun d =>
      !("+#0-*".toList.contains d) && !(Text.isDigit d) && d != '.') = true := by decide
  obtain ⟨d, after, hd, hs⟩ : ∃ d after, d ∈ conversionSpecifiers ++ lengthLetters ∧
      length ++ c :: rest = d :: after := by
    rcases hlength with rfl | hlength
    · exact ⟨c, rest, List.mem_append_left _ hc, rfl⟩
    · simp only [lengthModifiers, List.mem_cons, List.not_mem_nil, or_false] at hlength
      rcases hlength with rfl | rfl | rfl | rfl | rfl | rfl | rfl | rfl <;> exact
        ⟨_, _, by decide, rfl⟩
  have hspec := List.all_eq_true.mp hall d hd
  simp only [Bool.and_eq_true, Bool.not_eq_true', List.contains_eq_mem, decide_eq_false_iff_not,
    bne_iff_ne] at hspec
  rw [hs]
  exact ⟨⟨d, after, rfl, hspec.1.1, hspec.1.2⟩, fun h => hspec.2 (Option.some.inj h)⟩

theorem endsAmount_precision (hprecision : Optional IsPrecision precision) (ht : EndsAmount t) :
    EndsAmount (precision ++ t) := by
  rcases hprecision with rfl | ⟨amount, -, rfl⟩
  · exact ht
  · exact ⟨'.', amount ++ t, rfl, by decide, by decide⟩

end Dropping

theorem isConversion_iff {s : List Char} :
    isConversion s = true ↔ StartsConversion conversionSpecifiers s := by
  constructor
  · intro h
    obtain ⟨flag, hflag, hs⟩ := exists_conversionFlag s
    obtain ⟨width, hwidth, hs₁⟩ := exists_amount (dropConversionFlag s)
    obtain ⟨precision, hprecision, hs₂⟩ := exists_precision (dropAmount (dropConversionFlag s))
    obtain ⟨length, hlength, hs₃⟩ :=
      exists_length (dropPrecision (dropAmount (dropConversionFlag s)))
    rw [isConversion] at h
    split at h
    · next c rest heq =>
      refine ⟨flag ++ (width ++ (precision ++ length)), c, rest,
        ⟨flag, width, precision, length, hflag, hwidth, hprecision, hlength, rfl⟩,
          List.contains_iff_mem.mp h, ?_⟩
      rw [heq] at hs₃
      rw [hs, hs₁, hs₂, hs₃]
      simp only [List.append_assoc]
    · exact absurd h Bool.false_ne_true
  · rintro ⟨_, c, rest, ⟨flag, width, precision, length, hflag, hwidth, hprecision, hlength, rfl⟩,
      hc, rfl⟩
    obtain ⟨hends, hpoint⟩ := endsAmount_length hlength hc rest
    have hprecise := endsAmount_precision hprecision hends
    obtain ⟨amount, hamount, hdrop⟩ := dropConversionFlag_append hflag hwidth hprecise
    simp only [List.append_assoc]
    rw [isConversion, hdrop, dropAmount_append hamount hprecise,
      dropPrecision_append hprecision hends hpoint,
      dropLength_append hlength hc]
    exact List.contains_iff_mem.mpr hc

/-! ## What `printf` reads -/

def argumentSpecifiers : List Char := conversionSpecifiers.erase '%'

/-- The number of conversions that `printf` meets in a text which it can read to its end. -/
inductive Reads : List Char → Nat → Prop where
  | nil : Reads [] 0
  | plain {c : Char} {s : List Char} {n : Nat} (hc : c ≠ '%') (h : Reads s n) : Reads (c :: s) n
  | sign {s : List Char} {n : Nat} (h : Reads s n) : Reads ('%' :: '%' :: s) n
  | conversion {directions s : List Char} {c : Char} {n : Nat}
    (hdirections : IsDirections directions)
      (hc : c ∈ argumentSpecifiers) (h : Reads s n) : Reads ('%' :: (directions ++ c :: s)) (n + 1)

/-- A run of `n` percent signs with what follows it; there is none without a sign. -/
def endRun (n : Nat) (after : List Char) : List (Nat × List Char) :=
  if n = 0 then [] else [(n, after)]

def signRunsFrom (n : Nat) : List Char → List (Nat × List Char)
  | [] => endRun n []
  | c :: s => if c = '%' then signRunsFrom (n + 1) s else endRun n (c :: s) ++ signRunsFrom 0 s

/-- The runs of percent signs in a text: how many signs each has, and what follows it. -/
def signRuns (s : List Char) : List (Nat × List Char) := signRunsFrom 0 s

/-- What follows the runs with an odd number of signs, whose last sign is not taken up by the one
before. -/
def openTails (n : Nat) (s : List Char) : List (List Char) :=
  ((signRunsFrom n s).filter (·.1 % 2 = 1)).map Prod.snd

section Runs

variable {s t : List Char}

theorem map_signRunsFrom (n : Nat) (s : List Char) :
    (signRunsFrom n s).map Prod.snd =
      if n = 0 then percentTails s else percentTails ('%' :: s) := by
  induction s generalizing n with
  | nil =>
    rw [signRunsFrom, endRun]
    split <;> rfl
  | cons c s ih =>
    rw [signRunsFrom]
    by_cases hc : c = '%'
    · subst hc
      rw [if_pos rfl, ih, if_neg (by omega)]
      split <;> simp [percentTails]
    · rw [if_neg hc, List.map_append, ih, endRun]
      split <;> simp [percentTails, hc]

theorem openTails_add_two (n : Nat) (s : List Char) : openTails (n + 2) s = openTails n s := by
  have hend (n : Nat) (after : List Char) :
    ((endRun (n + 2) after).filter (·.1 % 2 = 1)).map Prod.snd =
      ((endRun n after).filter (·.1 % 2 = 1)).map Prod.snd := by
    rw [endRun, if_neg (by omega), endRun]
    by_cases hn : n = 0
    · simp [hn]
    · rw [if_neg hn]
      by_cases hodd : n % 2 = 1 <;> simp [hodd]
  induction s generalizing n with
  | nil => exact hend n []
  | cons c s ih =>
    unfold openTails at ih ⊢
    rw [signRunsFrom, signRunsFrom]
    by_cases hc : c = '%'
    · rw [if_pos hc, if_pos hc]
      exact ih (n + 1)
    · rw [if_neg hc, if_neg hc, List.filter_append, List.filter_append, List.map_append,
        List.map_append, hend]

theorem openTails_plain {c : Char} (hc : c ≠ '%') (s : List Char) :
    openTails 0 (c :: s) = openTails 0 s := by
  rw [openTails, signRunsFrom, if_neg hc]
  rfl

theorem openTails_skip (hs : '%' ∉ s) (t : List Char) : openTails 0 (s ++ t) = openTails 0 t := by
  induction s with
  | nil => rfl
  | cons c s ih =>
    rw [List.mem_cons, not_or] at hs
    rw [List.cons_append, openTails_plain (Ne.symm hs.1), ih hs.2]

theorem openTails_sign (s : List Char) : openTails 0 ('%' :: '%' :: s) = openTails 0 s :=
  openTails_add_two 0 s

theorem openTails_open (hs : s.head? ≠ some '%') : openTails 0 ('%' :: s) = s :: openTails 0 s := by
  cases s with
  | nil => rfl
  | cons c s =>
    have hc : c ≠ '%' := fun h => hs (congrArg some h)
    simp [openTails, signRunsFrom, endRun, hc]

end Runs

theorem notMem_amount {s : List Char} (h : Optional IsAmount s) : '%' ∉ s := by
  rcases optional_amount_iff.mp h with rfl | hdigits
  · decide
  · exact fun hs => absurd (hdigits '%' hs) (by decide)

theorem notMem_directions {s : List Char} (h : IsDirections s) : '%' ∉ s := by
  obtain ⟨flag, width, precision, length, hflag, hwidth, hprecision, hlength, rfl⟩ := h
  have hflag : '%' ∉ flag := by
    rcases hflag with rfl | ⟨c, hc, rfl⟩
    · exact List.not_mem_nil
    · intro h
      rw [← List.mem_singleton.mp h] at hc
      exact absurd hc (by decide)
  have hprecision : '%' ∉ precision := by
    rcases hprecision with rfl | ⟨amount, hamount, rfl⟩
    · exact List.not_mem_nil
    · exact List.not_mem_cons_of_ne_of_not_mem (by decide) (notMem_amount (.inr hamount))
  have hlength : '%' ∉ length := by
    rcases hlength with rfl | hlength
    · exact List.not_mem_nil
    · exact fun h => absurd (List.mem_flatten_of_mem hlength h) (by decide)
  simp only [List.mem_append, not_or]
  exact ⟨hflag, notMem_amount hwidth, hprecision, hlength⟩

theorem openTails_conversion {directions s : List Char} {c : Char}
    (hdirections : IsDirections directions) (hc : c ∈ argumentSpecifiers) :
    openTails 0 ('%' :: (directions ++ c :: s)) = (directions ++ c :: s) :: openTails 0 s := by
  have hsigns : '%' ∉ directions ++ [c] := by
    rw [List.mem_append, List.mem_singleton, not_or]
    refine ⟨notMem_directions hdirections, ?_⟩
    rintro rfl
    exact absurd hc (by decide)
  have hskip : openTails 0 (directions ++ c :: s) = openTails 0 s := by
    rw [List.append_cons]
    exact openTails_skip hsigns s
  rw [openTails_open, hskip]
  intro hhead
  cases directions with
  | nil => exact hsigns (List.mem_singleton.mpr (Option.some.inj hhead).symm)
  | cons d directions => exact hsigns (Option.some.inj hhead ▸ List.mem_cons_self)

theorem Reads.spec {s : List Char} {n : Nat} (h : Reads s n) :
    (∀ tail ∈ openTails 0 s, StartsConversion argumentSpecifiers tail) ∧
      n = (openTails 0 s).length := by
  induction h with
  | nil => exact ⟨fun tail h => absurd h List.not_mem_nil, rfl⟩
  | plain hc h ih =>
    rw [openTails_plain hc]
    exact ih
  | sign h ih =>
    rw [openTails_sign]
    exact ih
  | @conversion directions s c n hdirections hc h ih =>
    rw [openTails_conversion hdirections hc]
    refine ⟨List.forall_mem_cons.mpr ⟨⟨directions, c, s, hdirections, hc, rfl⟩, ih.1⟩, ?_⟩
    rw [List.length_cons, ih.2]

-- The induction is on the length of the text, since a conversion is passed over as a whole.
theorem reads_openTails {s : List Char}
    (h : ∀ tail ∈ openTails 0 s, StartsConversion argumentSpecifiers tail) :
    Reads s (openTails 0 s).length := by
  induction hlength : s.length using Nat.strong_induction_on generalizing s with
  | _ length ih =>
    cases s with
    | nil => exact .nil
    | cons c s =>
      rw [List.length_cons] at hlength
      by_cases hc : c = '%'
      · subst hc
        by_cases hs : s.head? = some '%'
        · obtain ⟨s, rfl⟩ := List.head?_eq_some_iff.mp hs
          rw [List.length_cons] at hlength
          rw [openTails_sign] at h ⊢
          exact .sign (ih s.length (by omega) h rfl)
        · rw [openTails_open hs] at h
          obtain ⟨directions, d, rest, hdirections, hd, rfl⟩ := h s List.mem_cons_self
          rw [← openTails_open hs, openTails_conversion hdirections hd] at h
          rw [openTails_conversion hdirections hd]
          rw [List.length_append, List.length_cons] at hlength
          exact .conversion hdirections hd
            (ih rest.length (by omega) (fun tail htail =>
              h tail (List.mem_cons_of_mem _ htail)) rfl)
      · rw [openTails_plain hc] at h ⊢
        exact .plain hc (ih s.length (by omega) h rfl)

/-- `printf` meets a conversion just if some run has an odd number of signs, and each such run is
followed by a conversion that takes an argument. -/
theorem exists_reads_iff {s : List Char} :
    (∃ n, Reads s (n + 1)) ↔ (∃ run ∈ signRuns s, run.1 % 2 = 1) ∧
      ∀ run ∈ signRuns s, run.1 % 2 = 1 → StartsConversion argumentSpecifiers run.2 := by
  have hmem (tail : List Char) : tail ∈ openTails 0 s ↔ ∃ run ∈ signRuns s, run.1 % 2 = 1 ∧
      run.2 = tail := by
    simp [openTails, signRuns, and_assoc]
  constructor
  · rintro ⟨n, h⟩
    obtain ⟨hall, hlength⟩ := h.spec
    obtain ⟨tail, htail⟩ := List.exists_mem_of_length_pos (by omega : 0 < (openTails 0 s).length)
    obtain ⟨run, hrun, hodd, -⟩ := (hmem tail).mp htail
    exact ⟨⟨run, hrun, hodd⟩, fun run hrun hodd =>
      hall run.2 ((hmem run.2).mpr ⟨run, hrun, hodd, rfl⟩)⟩
  · rintro ⟨⟨run, hrun, hodd⟩, hall⟩
    have hreads : Reads s (openTails 0 s).length := by
      apply reads_openTails
      intro tail htail
      obtain ⟨run, hrun, hodd, rfl⟩ := (hmem tail).mp htail
      exact hall run hrun hodd
    have hpos : 0 < (openTails 0 s).length :=
      List.length_pos_of_mem ((hmem run.2).mpr ⟨run, hrun, hodd, rfl⟩)
    refine ⟨(openTails 0 s).length - 1, ?_⟩
    rwa [Nat.sub_add_cancel hpos]

/-! ## The flag -/

/-- A text counts as a format if it has percent signs and a conversion follows each run of them. -/
theorem isPercentFormat_iff {s : List Char} :
    isPercentFormat s = true ↔
      signRuns s ≠ [] ∧ ∀ run ∈ signRuns s, StartsConversion conversionSpecifiers run.2 := by
  have htails : percentTails s = (signRuns s).map Prod.snd := (map_signRunsFrom 0 s).symm
  simp [isPercentFormat, htails, isConversion_iff]

theorem startsConversion_mono {s : List Char} (h : StartsConversion argumentSpecifiers s) :
    StartsConversion conversionSpecifiers s := by
  obtain ⟨directions, c, rest, hdirections, hc, hs⟩ := h
  exact ⟨directions, c, rest, hdirections, List.mem_of_mem_erase hc, hs⟩

/-- `printf` meets a conversion, but a run that stands for percent signs only is not followed by
what looks like one. -/
def Missed (s : List Char) : Prop :=
  (∃ n, Reads s (n + 1)) ∧ ∃ run ∈ signRuns s, run.1 % 2 = 0 ∧
    ¬ StartsConversion conversionSpecifiers run.2

/-- What follows each run looks like a conversion, but all runs stand for percent signs only, or one
is followed by directions that end in another percent sign. -/
def Mistaken (s : List Char) : Prop :=
  signRuns s ≠ [] ∧ (∀ run ∈ signRuns s, StartsConversion conversionSpecifiers run.2) ∧
    ((∀ run ∈ signRuns s, run.1 % 2 = 0) ∨
      ∃ run ∈ signRuns s, run.1 % 2 = 1 ∧ ¬ StartsConversion argumentSpecifiers run.2)

/-- The formats that are missed are those that `printf` reads and the flag does not tell. -/
theorem missed_iff {s : List Char} :
    Missed s ↔ (∃ n, Reads s (n + 1)) ∧ ¬ isPercentFormat s = true := by
  rw [Missed, isPercentFormat_iff]
  refine and_congr_right fun hreads => ?_
  obtain ⟨⟨run, hrun, -⟩, hodd⟩ := exists_reads_iff.mp hreads
  constructor
  · rintro ⟨run, hrun, -, hnot⟩ h
    exact hnot (h.2 run hrun)
  · intro h
    by_contra hnone
    refine h ⟨List.ne_nil_of_mem hrun, fun run hrun => ?_⟩
    rcases Nat.mod_two_eq_zero_or_one run.1 with heven | hrunOdd
    · by_contra hnot
      exact hnone ⟨run, hrun, heven, hnot⟩
    · exact startsConversion_mono (hodd run hrun hrunOdd)

/-- The texts that are mistaken for formats are those in which `printf` meets no conversion. -/
theorem mistaken_iff {s : List Char} :
    Mistaken s ↔ isPercentFormat s = true ∧ ¬ ∃ n, Reads s (n + 1) := by
  rw [Mistaken, isPercentFormat_iff, exists_reads_iff, and_assoc]
  refine and_congr_right fun _ => and_congr_right fun _ => ?_
  constructor
  · rintro (heven | ⟨run, hrun, hodd, hnot⟩) ⟨⟨other, hother, hone⟩, hall⟩
    · have := heven other hother
      omega
    · exact hnot (hall run hrun hodd)
  · intro h
    by_cases hodd : ∃ run ∈ signRuns s, run.1 % 2 = 1
    · exact .inr (by simpa using fun hall => h ⟨hodd, hall⟩)
    · refine .inl fun run hrun => ?_
      have hrun : ¬ run.1 % 2 = 1 := fun h => hodd ⟨run, hrun, h⟩
      omega

/-- A text is flagged if what follows each of its runs looks like a conversion. This agrees with
what `printf` reads in all but two cases. -/
theorem withPercentFlag_iff (text : String) :
    (withPercentFlag text [] = ["c-format"] ↔
        signRuns text.toList ≠ [] ∧ ∀ run ∈ signRuns text.toList,
          StartsConversion conversionSpecifiers run.2) ∧
      ((withPercentFlag text [] = ["c-format"] ↔ ∃ n, Reads text.toList (n + 1)) ↔
        ¬ Missed text.toList ∧ ¬ Mistaken text.toList) := by
  have hflag : withPercentFlag text [] = ["c-format"] ↔ isPercentFormat text.toList = true := by
    simp [withPercentFlag]
  refine ⟨hflag.trans isPercentFormat_iff, ?_⟩
  rw [hflag, missed_iff, mistaken_iff]
  by_cases hformat : isPercentFormat text.toList = true <;>
    by_cases hreads : ∃ n, Reads text.toList (n + 1) <;> simp [hformat, hreads]

/-- A number and a percent sign after it: `printf` reads the text, and it is not flagged. -/
theorem withPercentFlag_number_sign :
    ¬ (withPercentFlag "%d%%" [] = ["c-format"] ↔ ∃ n, Reads "%d%%".toList (n + 1)) := by
  have hnone : IsDirections [] := ⟨[], [], [], [], .inl rfl, .inl rfl, .inl rfl, .inl rfl, rfl⟩
  have hreads : Reads ('%' :: ([] ++ 'd' :: ['%', '%'])) 1 :=
    .conversion hnone (by decide) (.sign .nil)
  have hflag : withPercentFlag "%d%%" [] = [] := by decide
  rw [hflag]
  exact fun h => absurd (h.mpr ⟨0, hreads⟩) (by decide)

end Harvest.Message
