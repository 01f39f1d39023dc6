import Harvest.Source.Symbol

/-!
# Where numbers end

Two readers look for the end of a number: the scanner takes the longest match of several patterns,
and the reader of symbols goes from the whole part to the fraction and the exponent. They agree on
every number that the second accepts. Such a number is found as well if the text is cut off anywhere
behind it.
-/

namespace Harvest.Source

/-! ## Digits -/

theorem digitsLength_le (p : Char → Bool) (s : List Char) : digitsLength p s ≤ s.length := by
  fun_induction digitsLength p s with
  | case1 c cs hp ih =>
    simp only [List.length_cons]
    omega
  | case2 c cs hp => exact Nat.zero_le _
  | case3 c cs hno hp ih =>
    simp only [List.length_cons]
    omega
  | case4 c cs hno hp => exact Nat.zero_le _
  | case5 => exact Nat.le_refl 0

theorem digitsLength_cons {p : Char → Bool} {c : Char} (hc : c ≠ '_') (cs : List Char) :
    digitsLength p (c :: cs) = if p c then digitsLength p cs + 1 else 0 := by
  rw [digitsLength.eq_def]
  split
  · rename_i heq
    exact absurd (List.cons.inj heq).1 hc
  · rename_i heq
    cases heq
    rfl
  · rename_i heq
    cases heq

theorem digitsLength_take {p : Char → Bool} (hp : p '_' = false) {s : List Char} {m : Nat}
    (h : digitsLength p s ≤ m) : digitsLength p (s.take m) = digitsLength p s := by
  fun_induction digitsLength p s generalizing m with
  | case1 c cs hc ih =>
    obtain ⟨m, rfl⟩ : ∃ k, m = k + 2 := ⟨m - 2, by omega⟩
    rw [List.take_succ_cons, List.take_succ_cons, digitsLength, if_pos hc, ih (by omega)]
  | case2 c cs hc =>
    cases m with
    | zero => rfl
    | succ m =>
      cases m with
      | zero => simp [digitsLength, hp]
      | succ m => rw [List.take_succ_cons, List.take_succ_cons, digitsLength, if_neg hc]
  | case3 c cs hno hc ih =>
    have hmark : c ≠ '_' := by
      rintro rfl
      rw [hp] at hc
      cases hc
    obtain ⟨m, rfl⟩ : ∃ k, m = k + 1 := ⟨m - 1, by omega⟩
    rw [List.take_succ_cons, digitsLength_cons hmark, if_pos hc, ih (by omega)]
  | case4 c cs hno hc =>
    cases m with
    | zero => rfl
    | succ m =>
      by_cases hmark : c = '_'
      · cases cs with
        | nil => simp [digitsLength, hmark, hp]
        | cons d ds => exact absurd rfl (hno d ds hmark)
      · rw [List.take_succ_cons, digitsLength_cons hmark, if_neg hc]
  | case5 =>
    rw [List.take_nil]
    rfl

theorem decimalLength?_take {s : List Char} {m : Nat} (h : (decimalLength? s).getD 0 ≤ m) :
    decimalLength? (s.take m) = if m = 0 then none else decimalLength? s := by
  cases s with
  | nil => simp [decimalLength?]
  | cons c cs =>
    cases m with
    | zero => rfl
    | succ m =>
      rw [List.take_succ_cons, if_neg (Nat.succ_ne_zero m)]
      unfold decimalLength? at h ⊢
      dsimp only at h ⊢
      by_cases hc : c.isDigit = true
      · rw [if_pos hc, Option.getD_some] at h
        rw [if_pos hc, if_pos hc, digitsLength_take (by decide) (by omega)]
      · rw [if_neg hc, if_neg hc]

theorem decimalLength?_pos {s : List Char} {n : Nat} (h : decimalLength? s = some n) : 0 < n := by
  unfold decimalLength? at h
  split at h
  · split at h <;> cases h
    omega
  · cases h

theorem getD_decimalLength?_take {s : List Char} {m : Nat} (h : (decimalLength? s).getD 0 ≤ m) :
    (decimalLength? (s.take m)).getD 0 = (decimalLength? s).getD 0 := by
  rw [decimalLength?_take h]
  split
  · rename_i hm
    rw [hm] at h
    exact (Nat.le_zero.mp h).symm
  · rfl

/-! ## Fractions and exponents -/

def fractionLength (s : List Char) : Nat :=
  match s with
  | '.' :: rest => 1 + (decimalLength? rest).getD 0
  | _ => 0

theorem fractionLength_dot (rest : List Char) :
    fractionLength ('.' :: rest) = 1 + (decimalLength? rest).getD 0 := rfl

theorem fractionLength_of_ne {c : Char} (hc : c ≠ '.') (cs : List Char) :
    fractionLength (c :: cs) = 0 := by
  unfold fractionLength
  split
  · rename_i heq
    exact absurd (List.cons.inj heq).1 hc
  · rfl

theorem fractionLength_take {s : List Char} {m : Nat} (h : fractionLength s ≤ m) :
    fractionLength (s.take m) = fractionLength s := by
  cases s with
  | nil => rw [List.take_nil]
  | cons c cs =>
    by_cases hc : c = '.'
    · subst hc
      rw [fractionLength_dot] at h
      obtain ⟨m, rfl⟩ : ∃ k, m = k + 1 := ⟨m - 1, by omega⟩
      rw [List.take_succ_cons, fractionLength_dot, fractionLength_dot,
        getD_decimalLength?_take (by omega)]
    · rw [fractionLength_of_ne hc]
      cases m with
      | zero => rfl
      | succ m => rw [List.take_succ_cons, fractionLength_of_ne hc]

theorem strictExponent?_cases {s : List Char} {n : Nat} (h : strictExponent? s = some n) :
    (∃ e sign digits d, s = e :: sign :: digits ∧ (e == 'e' || e == 'E') = true ∧
        (sign == '+' || sign == '-') = true ∧ decimalLength? digits = some d ∧ n = d + 2) ∨
      (∃ e c rest d, s = e :: c :: rest ∧ (e == 'e' || e == 'E') = true ∧
      (c == '+' || c == '-') = false ∧
        decimalLength? (c :: rest) = some d ∧ n = d + 1) ∨
      n = 0 ∧ ∀ e c rest, s = e :: c :: rest → (e == 'e' || e == 'E') = true →
        (c == '+' || c == '-') = false ∧ decimalLength? (c :: rest) = none := by
  cases s with
  | nil =>
    cases h
    exact .inr (.inr ⟨rfl, nofun⟩)
  | cons e rest =>
    by_cases he : (e == 'e' || e == 'E') = true
    · cases rest with
      | nil =>
        simp only [strictExponent?, he, if_true] at h
        cases h
        exact .inr (.inr ⟨rfl, nofun⟩)
      | cons c cs =>
        simp only [strictExponent?, he, if_true] at h
        by_cases hsign : (c == '+' || c == '-') = true
        · rw [if_pos hsign] at h
          obtain ⟨d, hd, rfl⟩ := Option.map_eq_some_iff.mp h
          exact .inl ⟨e, c, cs, d, rfl, he, hsign, hd, rfl⟩
        · rw [if_neg hsign] at h
          rw [Bool.not_eq_true] at hsign
          cases hd : decimalLength? (c :: cs) with
          | none =>
            rw [hd] at h
            cases h
            refine .inr (.inr ⟨rfl, ?_⟩)
            rintro _ _ _ ⟨⟩ -
            exact ⟨hsign, hd⟩
          | some d =>
            rw [hd] at h
            cases h
            exact .inr (.inl ⟨e, c, cs, d, rfl, he, hsign, hd, rfl⟩)
    · simp only [strictExponent?, if_neg he] at h
      cases h
      refine .inr (.inr ⟨rfl, ?_⟩)
      rintro _ _ _ ⟨⟩ he'
      exact absurd he' he

theorem exponentLength?_signed {e sign : Char} {digits : List Char}
    (he : (e == 'e' || e == 'E') = true) (hsign : (sign == '+' || sign == '-') = true) :
    exponentLength? (e :: sign :: digits) = (decimalLength? digits).map (· + 2) := by
  simp only [Bool.or_eq_true, beq_iff_eq] at hsign
  rcases hsign with rfl | rfl <;> simp [exponentLength?, he]

theorem exponentLength?_unsigned {e c : Char} {rest : List Char}
    (he : (e == 'e' || e == 'E') = true) (hsign : (c == '+' || c == '-') = false) :
    exponentLength? (e :: c :: rest) = (decimalLength? (c :: rest)).map (· + 1) := by
  simp only [Bool.or_eq_false_iff, beq_eq_false_iff_ne] at hsign
  unfold exponentLength?
  dsimp only
  rw [if_pos he]
  split
  · rename_i heq
    exact absurd (List.cons.inj heq).1 hsign.1
  · rename_i heq
    exact absurd (List.cons.inj heq).1 hsign.2
  · rfl

theorem exponentLength?_of_strictExponent? {s : List Char} {n : Nat}
    (h : strictExponent? s = some n) :
    exponentLength? s = if n = 0 then none else some n := by
  rcases strictExponent?_cases h with ⟨e, sign, digits, d, rfl, he, hsign, hd, rfl⟩ |
    ⟨e, c, rest, d, rfl, he, hsign, hd, rfl⟩ | ⟨rfl, hnone⟩
  · rw [exponentLength?_signed he hsign, hd]
    rfl
  · rw [exponentLength?_unsigned he hsign, hd]
    rfl
  · rw [if_pos rfl]
    cases s with
    | nil => rfl
    | cons e rest =>
      by_cases he : (e == 'e' || e == 'E') = true
      · cases rest with
        | nil => simp [exponentLength?, decimalLength?]
        | cons c cs =>
          obtain ⟨hsign, hd⟩ := hnone e c cs rfl he
          rw [exponentLength?_unsigned he hsign, hd]
          rfl
      · simp only [exponentLength?, if_neg he]

theorem strictExponent?_take {s : List Char} {n m : Nat}
    (h : strictExponent? s = some n) (hm : n ≤ m) :
    strictExponent? (s.take m) = some n := by
  rcases strictExponent?_cases h with ⟨e, sign, digits, d, rfl, he, hsign, hd, rfl⟩ |
    ⟨e, c, rest, d, rfl, he, hsign, hd, rfl⟩ | ⟨rfl, hnone⟩
  · obtain ⟨m, rfl⟩ : ∃ k, m = k + 2 := ⟨m - 2, by omega⟩
    have hpos := decimalLength?_pos hd
    have hcut : decimalLength? (digits.take m) = some d := by
      rw [decimalLength?_take (by rw [hd, Option.getD_some]; omega), if_neg (by omega), hd]
    rw [List.take_succ_cons, List.take_succ_cons]
    simp only [strictExponent?, he, hsign, if_true, hcut, Option.map_some]
  · obtain ⟨m, rfl⟩ : ∃ k, m = k + 1 := ⟨m - 1, by omega⟩
    have hpos := decimalLength?_pos hd
    have hcut : decimalLength? ((c :: rest).take m) = some d := by
      rw [decimalLength?_take (by rw [hd, Option.getD_some]; omega), if_neg (by omega), hd]
    obtain ⟨m, rfl⟩ : ∃ k, m = k + 1 := ⟨m - 1, by omega⟩
    rw [List.take_succ_cons] at hcut ⊢
    rw [List.take_succ_cons]
    simp only [strictExponent?, he, hsign, if_true, hcut, Option.map_some, Option.getD_some,
      Bool.false_eq_true, if_false]
  · cases s with
    | nil => simp [strictExponent?]
    | cons e rest =>
      cases m with
      | zero => rfl
      | succ m =>
        rw [List.take_succ_cons]
        by_cases he : (e == 'e' || e == 'E') = true
        · cases m with
          | zero => simp [strictExponent?]
          | succ m =>
            cases rest with
            | nil => simp [strictExponent?]
            | cons c cs =>
              obtain ⟨hsign, hd⟩ := hnone e c cs rfl he
              have hcut : decimalLength? (c :: cs.take m) = none := by
                have hlength :=
                  decimalLength?_take (s := c :: cs) (m := m + 1) (by rw [hd]; exact Nat.zero_le _)
                rw [List.take_succ_cons, hd] at hlength
                simpa using hlength
              rw [List.take_succ_cons]
              simp only [strictExponent?, he, hsign, hcut, if_true, Bool.false_eq_true, if_false]
              rfl
        · simp only [strictExponent?, if_neg he]

/-! ## Numbers in decimal digits -/

def wholeLength (s : List Char) : Nat := (decimalLength? s).getD 0

def hasLeadingZero (s : List Char) : Bool :=
  s.head? == some '0' && (s.take (wholeLength s)).any fun c => c.isDigit && c != '0'

def imaginaryLength (s : List Char) (n : Nat) : Nat := if isImaginaryAt s n then 1 else 0

theorem strictDecimal?_eq (s : List Char) : strictDecimal? s =
    (strictExponent? (s.drop (wholeLength s + fractionLength (s.drop (wholeLength s))))).bind
    fun exponent =>
      let length := wholeLength s + fractionLength (s.drop (wholeLength s)) + exponent
      if hasLeadingZero s &&
          fractionLength (s.drop (wholeLength s)) + exponent + imaginaryLength s
            length == 0 then none
      else some (length + imaginaryLength s length) := by
  unfold strictDecimal?
  extract_lets whole fraction
  have hfraction : fraction = fractionLength (s.drop (wholeLength s)) := rfl
  have hwhole : whole = wholeLength s := rfl
  rw [hfraction, hwhole]
  cases strictExponent? (s.drop (wholeLength s + fractionLength (s.drop (wholeLength s)))) <;> rfl

theorem strictDecimal?_eq_some {s : List Char} {n : Nat} (h : strictDecimal? s = some n) :
    ∃ exponent,
      strictExponent? (s.drop (wholeLength s + fractionLength (s.drop (wholeLength s)))) =
        some exponent ∧
      (hasLeadingZero s && fractionLength (s.drop (wholeLength s)) + exponent +
        imaginaryLength s
          (wholeLength s + fractionLength (s.drop (wholeLength s)) + exponent) == 0) = false ∧
      n = wholeLength s + fractionLength (s.drop (wholeLength s)) + exponent +
        imaginaryLength s (wholeLength s + fractionLength (s.drop (wholeLength s)) + exponent) := by
  rw [strictDecimal?_eq] at h
  obtain ⟨exponent, hexponent, h⟩ := Option.bind_eq_some_iff.mp h
  obtain ⟨hzero, h⟩ := Option.ite_none_left_eq_some.mp h
  exact ⟨exponent, hexponent, by simpa using hzero, (Option.some.inj h).symm⟩

theorem imaginaryLength_take {s : List Char} {n m : Nat} (h : n + imaginaryLength s n ≤ m) :
    imaginaryLength (s.take m) n = imaginaryLength s n := by
  have hat : isImaginaryAt (s.take m) n = isImaginaryAt s n := by
    unfold isImaginaryAt
    rw [List.drop_take]
    cases hdrop : s.drop n with
    | nil => rw [List.take_nil]
    | cons c cs =>
      by_cases hm : m = n
      · -- The text is cut off right here, so there was no mark.
        have hnone : isImaginaryAt s n = false := by
          cases hmark : isImaginaryAt s n with
          | false => rfl
          | true =>
            simp only [imaginaryLength, hmark, if_true] at h
            omega
        simpa [isImaginaryAt, hdrop, hm] using hnone
      · obtain ⟨k, hk⟩ : ∃ k, m - n = k + 1 := ⟨m - n - 1, by omega⟩
        rw [hk, List.take_succ_cons]
  unfold imaginaryLength
  rw [hat]

theorem hasLeadingZero_take {s : List Char} {m : Nat} (h : wholeLength s ≤ m) :
    hasLeadingZero (s.take m) = hasLeadingZero s := by
  have hwhole : wholeLength (s.take m) = wholeLength s := getD_decimalLength?_take h
  unfold hasLeadingZero
  rw [hwhole, List.take_take, Nat.min_eq_left h]
  cases m with
  | zero =>
    rw [Nat.le_zero.mp h]
    simp
  | succ m =>
    cases s with
    | nil => rfl
    | cons c cs => rfl

theorem strictDecimal?_take {s : List Char} {n m : Nat}
    (h : strictDecimal? s = some n) (hm : n ≤ m) :
    strictDecimal? (s.take m) = some n := by
  obtain ⟨exponent, hexponent, hzero, rfl⟩ := strictDecimal?_eq_some h
  have hwhole : wholeLength (s.take m) = wholeLength s :=
    getD_decimalLength?_take (by unfold wholeLength at hm; omega)
  have hfraction : fractionLength ((s.take m).drop (wholeLength s)) =
      fractionLength (s.drop (wholeLength s)) := by
    rw [List.drop_take]
    exact fractionLength_take (by omega)
  have hexponent' :
    strictExponent? ((s.take m).drop (wholeLength s + fractionLength (s.drop (wholeLength s)))) =
      some exponent := by
    rw [List.drop_take]
    exact strictExponent?_take hexponent (by omega)
  rw [strictDecimal?_eq, hwhole, hfraction, hexponent', Option.bind_some]
  dsimp only
  rw [hasLeadingZero_take (by omega), imaginaryLength_take (by omega), hzero]
  rfl

/-! ## Numbers with a mark -/

/-- The digits that may follow a mark such as `0x`; this is its letter. -/
def markedDigits? (x : Char) : Option (Char → Bool) :=
  if x == 'x' || x == 'X' then some isHexDigit
  else if x == 'o' || x == 'O' then some isOctalDigit
  else if x == 'b' || x == 'B' then some isBinaryDigit
  else none

def markLetter? : List Char → Option (Char → Bool)
  | '0' :: x :: _ => markedDigits? x
  | _ => none

def numberStart? (s : List Char) : Option Nat :=
  match markLetter? s with
  | some p => markedLength? p (s.drop 2)
  | none => strictDecimal? s

theorem strictNumber?_eq (s : List Char) : strictNumber? s =
    (numberStart? s).bind fun n => if isNumberEnd (s.drop n) then some n else none := by
  unfold strictNumber?
  extract_lets length?
  have hlength : length? = numberStart? s := by
    dsimp only [length?]
    unfold numberStart?
    split
    · rename_i x rest
      simp only [markLetter?, markedDigits?]
      split
      · rfl
      · split
        · rfl
        · split <;> rfl
    · rename_i hno
      have hnone : markLetter? s = none := by
        unfold markLetter?
        split
        · rename_i x rest
          exact absurd rfl (hno x rest)
        · rfl
      rw [hnone]
  rw [hlength]

theorem markedDigits?_eq_some {x : Char} {p : Char → Bool} (h : markedDigits? x = some p) :
    ((x = 'x' ∨ x = 'X') ∧ p = isHexDigit) ∨ ((x = 'o' ∨ x = 'O') ∧ p = isOctalDigit) ∨
      ((x = 'b' ∨ x = 'B') ∧ p = isBinaryDigit) := by
  simp only [markedDigits?, Bool.or_eq_true, beq_iff_eq] at h
  split at h
  · exact .inl ⟨by assumption, (Option.some.inj h).symm⟩
  · split at h
    · exact .inr (.inl ⟨by assumption, (Option.some.inj h).symm⟩)
    · split at h
      · exact .inr (.inr ⟨by assumption, (Option.some.inj h).symm⟩)
      · cases h

theorem markLetter?_eq_some {s : List Char} {p : Char → Bool} (h : markLetter? s = some p) :
    ∃ x rest, s = '0' :: x :: rest ∧ markedDigits? x = some p := by
  unfold markLetter? at h
  split at h
  · exact ⟨_, _, rfl, h⟩
  · cases h

theorem markedLength?_eq_some {p : Char → Bool} {s : List Char} {n : Nat}
    (h : markedLength? p s = some n) :
    0 < digitsLength p s ∧ n = digitsLength p s + 2 := by
  unfold markedLength? at h
  split at h
  · cases h
  · rename_i hpos
    cases h
    exact ⟨Nat.pos_of_ne_zero hpos, rfl⟩

theorem numberStart?_take {s : List Char} {n m : Nat} (h : numberStart? s = some n) (hm : n ≤ m) :
    numberStart? (s.take m) = some n := by
  unfold numberStart? at h ⊢
  cases hmark : markLetter? s with
  | some p =>
    obtain ⟨x, rest, rfl, hx⟩ := markLetter?_eq_some hmark
    rw [hmark] at h
    obtain ⟨hpos, rfl⟩ := markedLength?_eq_some h
    have hp : p '_' = false := by
      rcases markedDigits?_eq_some hx with ⟨-, rfl⟩ | ⟨-, rfl⟩ | ⟨-, rfl⟩ <;> decide
    obtain ⟨m, rfl⟩ : ∃ k, m = k + 2 := ⟨m - 2, by omega⟩
    have hletter : markLetter? (('0' :: x :: rest).take (m + 2)) = some p := hx
    rw [hletter]
    change markedLength? p (rest.take m) = _
    simp only [List.drop_succ_cons, List.drop_zero] at h hm ⊢
    unfold markedLength? at h ⊢
    rw [digitsLength_take hp (by omega)]
    exact h
  | none =>
    rw [hmark] at h
    have hletter : markLetter? (s.take m) = none := by
      cases hcut : markLetter? (s.take m) with
      | none => rfl
      | some p =>
        obtain ⟨x, rest, htake, hx⟩ := markLetter?_eq_some hcut
        have hs : s = '0' :: x :: (rest ++ s.drop m) :=
          (List.take_append_drop m s).symm.trans (congrArg (· ++ s.drop m) htake)
        rw [hs] at hmark
        exact absurd (hx.symm.trans hmark) nofun
    rw [hletter]
    exact strictDecimal?_take h hm

/-! ## The characters of numbers -/

def isNumberPart (c : Char) : Bool :=
  c.isDigit || isHexDigit c || isOctalDigit c || isBinaryDigit c ||
    "eExXoObBjJ0_.+-".toList.contains c

section

variable {a : Char} (ha : isNumberPart a = false)

theorem notMem_digits {p : Char → Bool} (hp : p a = false) (hlow : a ≠ '_') (s : List Char) :
    a ∉ s.take (digitsLength p s) := by
  have hne {c : Char} (hc : p c = true) : a ≠ c := by
    rintro rfl
    rw [hp] at hc
    cases hc
  fun_induction digitsLength p s with
  | case1 c cs hc ih =>
    rw [List.take_succ_cons, List.take_succ_cons, List.mem_cons, List.mem_cons, not_or, not_or]
    exact ⟨hlow, hne hc, ih⟩
  | case2 c cs hc => exact List.not_mem_nil
  | case3 c cs hno hc ih =>
    rw [List.take_succ_cons, List.mem_cons, not_or]
    exact ⟨hne hc, ih⟩
  | case4 c cs hno hc => exact List.not_mem_nil
  | case5 => exact List.not_mem_nil

include ha in
theorem ne_of_isNumberPart {c : Char} (hc : isNumberPart c = true) : a ≠ c := by
  rintro rfl
  rw [ha] at hc
  cases hc

include ha in
theorem notMem_whole (s : List Char) : a ∉ s.take ((decimalLength? s).getD 0) := by
  have hdigit : a.isDigit = false := by
    simp only [isNumberPart, Bool.or_eq_false_iff] at ha
    exact ha.1.1.1.1
  cases s with
  | nil =>
    rw [List.take_nil]
    exact List.not_mem_nil
  | cons c cs =>
    by_cases hc : c.isDigit = true
    · simp only [decimalLength?, hc, if_true, Option.getD_some, List.take_succ_cons,
        List.mem_cons, not_or]
      exact ⟨ne_of_isNumberPart ha (by simp [isNumberPart, hc]),
        notMem_digits hdigit (ne_of_isNumberPart ha (by decide)) cs⟩
    · simp [decimalLength?, hc]

include ha in
theorem notMem_fraction (s : List Char) : a ∉ s.take (fractionLength s) := by
  cases s with
  | nil =>
    rw [List.take_nil]
    exact List.not_mem_nil
  | cons c cs =>
    by_cases hc : c = '.'
    · subst hc
      rw [fractionLength_dot, Nat.add_comm, List.take_succ_cons, List.mem_cons, not_or]
      exact ⟨ne_of_isNumberPart ha (by decide), notMem_whole ha cs⟩
    · rw [fractionLength_of_ne hc]
      exact List.not_mem_nil

include ha in
theorem notMem_exponent {s : List Char} {n : Nat} (h : strictExponent? s = some n) :
    a ∉ s.take n := by
  have hpart {c d e : Char} (hd : isNumberPart d = true) (he : isNumberPart e = true)
      (hc : (c == d || c == e) = true) : a ≠ c := by
    simp only [Bool.or_eq_true, beq_iff_eq] at hc
    rcases hc with rfl | rfl
    · exact ne_of_isNumberPart ha hd
    · exact ne_of_isNumberPart ha he
  rcases strictExponent?_cases h with ⟨e, sign, digits, d, rfl, he, hsign, hd, rfl⟩ |
    ⟨e, c, rest, d, rfl, he, hsign, hd, rfl⟩ | ⟨rfl, -⟩
  · have hdigits := notMem_whole ha digits
    rw [hd, Option.getD_some] at hdigits
    rw [List.take_succ_cons, List.take_succ_cons, List.mem_cons, List.mem_cons, not_or, not_or]
    exact ⟨hpart (by decide) (by decide) he, hpart (by decide) (by decide) hsign, hdigits⟩
  · have hdigits := notMem_whole ha (c :: rest)
    rw [hd, Option.getD_some] at hdigits
    rw [List.take_succ_cons, List.mem_cons, not_or]
    exact ⟨hpart (by decide) (by decide) he, hdigits⟩
  · exact List.not_mem_nil

include ha in
theorem notMem_imaginary (s : List Char) (n : Nat) : a ∉ (s.drop n).take (imaginaryLength s n) := by
  cases hdrop : s.drop n with
  | nil =>
    rw [List.take_nil]
    exact List.not_mem_nil
  | cons c cs =>
    by_cases hc : c = 'j' ∨ c = 'J'
    · rcases hc with rfl | rfl
      · simpa [imaginaryLength, isImaginaryAt, hdrop] using ne_of_isNumberPart ha (by decide)
      · simpa [imaginaryLength, isImaginaryAt, hdrop] using ne_of_isNumberPart ha (by decide)
    · simp [imaginaryLength, isImaginaryAt, hdrop, not_or.mp hc]

include ha in
theorem notMem_number {s : List Char} {n : Nat} (h : numberStart? s = some n) : a ∉ s.take n := by
  unfold numberStart? at h
  cases hmark : markLetter? s with
  | some p =>
    rw [hmark] at h
    obtain ⟨x, rest, rfl, hx⟩ := markLetter?_eq_some hmark
    obtain ⟨-, rfl⟩ := markedLength?_eq_some h
    have hdigits := ha
    simp only [isNumberPart, Bool.or_eq_false_iff] at hdigits
    have hp : p a = false ∧ isNumberPart x = true := by
      rcases markedDigits?_eq_some hx with ⟨rfl | rfl, rfl⟩ | ⟨rfl | rfl, rfl⟩ | ⟨rfl | rfl, rfl⟩
      · exact ⟨hdigits.1.1.1.2, by decide⟩
      · exact ⟨hdigits.1.1.1.2, by decide⟩
      · exact ⟨hdigits.1.1.2, by decide⟩
      · exact ⟨hdigits.1.1.2, by decide⟩
      · exact ⟨hdigits.1.2, by decide⟩
      · exact ⟨hdigits.1.2, by decide⟩
    rw [List.take_succ_cons, List.take_succ_cons, List.mem_cons, List.mem_cons, not_or, not_or]
    exact ⟨ne_of_isNumberPart ha (by decide), ne_of_isNumberPart ha hp.2,
      notMem_digits hp.1 (ne_of_isNumberPart ha (by decide)) rest⟩
  | none =>
    rw [hmark] at h
    obtain ⟨exponent, hexponent, -, rfl⟩ := strictDecimal?_eq_some h
    rw [List.take_add, List.take_add, List.take_add]
    simp only [List.mem_append, not_or]
    exact ⟨⟨⟨notMem_whole ha s, notMem_fraction ha _⟩, notMem_exponent ha hexponent⟩,
      notMem_imaginary ha s _⟩

end

/-! ## Numbers as part of a text -/

theorem getD_decimalLength?_le (s : List Char) : (decimalLength? s).getD 0 ≤ s.length := by
  cases s with
  | nil => exact Nat.le_refl 0
  | cons c cs =>
    have hdigits := digitsLength_le Char.isDigit cs
    by_cases hc : c.isDigit = true
    · simpa [decimalLength?, hc] using hdigits
    · simp [decimalLength?, hc]

theorem fractionLength_le (s : List Char) : fractionLength s ≤ s.length := by
  cases s with
  | nil => exact Nat.le_refl 0
  | cons c cs =>
    by_cases hc : c = '.'
    · have hdigits := getD_decimalLength?_le cs
      subst hc
      rw [fractionLength_dot, List.length_cons]
      omega
    · rw [fractionLength_of_ne hc]
      exact Nat.zero_le _

theorem strictExponent?_le {s : List Char} {n : Nat} (h : strictExponent? s = some n) :
    n ≤ s.length := by
  rcases strictExponent?_cases h with ⟨e, sign, digits, d, rfl, -, -, hd, rfl⟩ |
    ⟨e, c, rest, d, rfl, -, -, hd, rfl⟩ | ⟨rfl, -⟩
  · have hdigits := getD_decimalLength?_le digits
    rw [hd, Option.getD_some] at hdigits
    simpa using hdigits
  · have hdigits := getD_decimalLength?_le (c :: rest)
    rw [hd, Option.getD_some] at hdigits
    simpa using hdigits
  · exact Nat.zero_le _

theorem imaginaryLength_le (s : List Char) (n : Nat) : imaginaryLength s n ≤ (s.drop n).length := by
  have hle : imaginaryLength s n ≤ 1 := by
    unfold imaginaryLength
    split <;> omega
  cases hdrop : s.drop n with
  | nil => simp [imaginaryLength, isImaginaryAt, hdrop]
  | cons c cs =>
    rw [List.length_cons]
    omega

theorem numberStart?_le {s : List Char} {n : Nat} (h : numberStart? s = some n) : n ≤ s.length := by
  unfold numberStart? at h
  cases hmark : markLetter? s with
  | some p =>
    rw [hmark] at h
    obtain ⟨x, rest, rfl, -⟩ := markLetter?_eq_some hmark
    obtain ⟨-, rfl⟩ := markedLength?_eq_some h
    have hdigits := digitsLength_le p rest
    simpa using hdigits
  | none =>
    rw [hmark] at h
    obtain ⟨exponent, hexponent, -, rfl⟩ := strictDecimal?_eq_some h
    have hwhole : wholeLength s ≤ s.length := getD_decimalLength?_le s
    have hfraction := fractionLength_le (s.drop (wholeLength s))
    have hexponent := strictExponent?_le hexponent
    have himaginary :=
      imaginaryLength_le s (wholeLength s + fractionLength (s.drop (wholeLength s)) + exponent)
    simp only [List.length_drop] at hfraction hexponent himaginary
    omega

theorem numberStart?_ne_zero {c : Char} {cs : List Char} {n : Nat} (hc : c.isDigit = true)
    (h : numberStart? (c :: cs) = some n) : n ≠ 0 := by
  unfold numberStart? at h
  cases hmark : markLetter? (c :: cs) with
  | some p =>
    rw [hmark] at h
    obtain ⟨-, rfl⟩ := markedLength?_eq_some h
    omega
  | none =>
    rw [hmark] at h
    obtain ⟨exponent, -, -, rfl⟩ := strictDecimal?_eq_some h
    have hwhole : wholeLength (c :: cs) = digitsLength Char.isDigit cs + 1 := by
      simp [wholeLength, decimalLength?, hc]
    omega

def StartsNumber (s : List Char) : Prop :=
  (s.head?.map Char.isDigit).getD false = true ∨ ∃ c rest, s = '.' :: c :: rest ∧ c.isDigit = true

theorem StartsNumber.take {s : List Char} {n : Nat} (h : StartsNumber s)
    (hn : numberStart? s = some n) :
    StartsNumber (s.take n) := by
  rcases h with hdigit | ⟨c, rest, rfl, hc⟩
  · cases s with
    | nil => cases hdigit
    | cons c cs =>
      obtain ⟨k, rfl⟩ := Nat.exists_eq_succ_of_ne_zero (numberStart?_ne_zero hdigit hn)
      exact .inl hdigit
  · have hn : 2 ≤ n := by
      obtain ⟨exponent, -, -, rfl⟩ := strictDecimal?_eq_some hn
      have hwhole : wholeLength ('.' :: c :: rest) = 0 := rfl
      rw [hwhole, List.drop_zero, fractionLength_dot]
      simp only [decimalLength?, hc, if_true, Option.getD_some]
      omega
    obtain ⟨k, rfl⟩ := Nat.exists_eq_add_of_le hn
    refine .inr ⟨c, rest.take k, ?_, hc⟩
    rw [Nat.add_comm, List.take_succ_cons, List.take_succ_cons]

/-! ## What the scanner finds -/

theorem floatLength?_dot {s rest : List Char} {w : Nat} (hw : decimalLength? s = some w)
    (hdrop : s.drop w = '.' :: rest) :
    floatLength? s = some (withExponent s (w + fractionLength (s.drop w))) := by
  unfold floatLength?
  rw [hw]
  dsimp only
  rw [hdrop, fractionLength_dot, ← Nat.add_assoc]
  rfl

theorem floatLength?_of_ne {s : List Char} {w : Nat} (hw : decimalLength? s = some w)
    (hdrop : ∀ rest, s.drop w ≠ '.' :: rest) :
    floatLength? s = (exponentLength? (s.drop w)).map (w + ·) := by
  unfold floatLength?
  rw [hw]
  dsimp only
  split
  · rename_i rest heq
    exact absurd heq (hdrop rest)
  · rfl

theorem digitsLength_zeros {s : List Char}
    (h : (s.take (digitsLength Char.isDigit s)).any (fun c => c.isDigit && c != '0') = false) :
    digitsLength (· == '0') s = digitsLength Char.isDigit s := by
  have hzero {c : Char} (hc : c.isDigit = true) (hany : (c.isDigit && c != '0') = false) :
      (c == '0') = true := by
    simpa [hc] using hany
  have hnonzero {c : Char} (hc : ¬c.isDigit = true) : ¬(c == '0') = true := by
    intro heq
    rw [beq_iff_eq.mp heq] at hc
    exact hc (by decide)
  fun_induction digitsLength Char.isDigit s with
  | case1 c cs hc ih =>
    rw [List.take_succ_cons, List.take_succ_cons, List.any_cons, List.any_cons] at h
    simp only [Bool.or_eq_false_iff] at h
    rw [digitsLength, if_pos (hzero hc h.2.1), ih h.2.2]
  | case2 c cs hc => rw [digitsLength, if_neg (hnonzero hc)]
  | case3 c cs hno hc ih =>
    have hmark : c ≠ '_' := by
      rintro rfl
      exact absurd hc (by decide)
    rw [List.take_succ_cons, List.any_cons, Bool.or_eq_false_iff] at h
    rw [digitsLength_cons hmark, if_pos (hzero hc h.1), ih h.2]
  | case4 c cs hno hc =>
    by_cases hmark : c = '_'
    · cases cs with
      | nil => simp [digitsLength, hmark]
      | cons d ds => exact absurd rfl (hno d ds hmark)
    · rw [digitsLength_cons hmark, if_neg (hnonzero hc)]
  | case5 => rfl

theorem isImaginaryAt_of_drop {s rest : List Char} {c : Char} {n : Nat}
    (hdrop : s.drop n = c :: rest)
    (hc : (c == 'j' || c == 'J') = false) : isImaginaryAt s n = false := by
  unfold isImaginaryAt
  rw [hdrop]
  exact hc

theorem integerLength?_zero {rest : List Char} (hmark : markLetter? ('0' :: rest) = none) :
    integerLength? ('0' :: rest) = some (digitsLength (· == '0') rest + 1) := by
  cases rest with
  | nil => rfl
  | cons x rest =>
    have hx : markedDigits? x = none := hmark
    simp only [markedDigits?] at hx
    split at hx
    · cases hx
    · rename_i hhex
      split at hx
      · cases hx
      · rename_i hoctal
        split at hx
        · cases hx
        · rename_i hbinary
          simp only [integerLength?, if_neg hhex, if_neg hoctal, if_neg hbinary]

theorem integerLength?_of_ne {c : Char} (hc : c ≠ '0') (cs : List Char) :
    integerLength? (c :: cs) = decimalLength? (c :: cs) := by
  unfold integerLength?
  split
  · rename_i heq
    exact absurd (List.cons.inj heq).1 hc
  · dsimp only
    split
    · rename_i heq
      exact absurd (List.cons.inj heq).1 hc
    · rfl

theorem numberLength?_marked {x : Char} {p : Char → Bool} (hx : markedDigits? x = some p)
    {rest : List Char} {n : Nat}
    (h : markedLength? p rest = some n) : numberLength? ('0' :: x :: rest) = some n := by
  have hdecimal : decimalLength? ('0' :: x :: rest) = some 1 := by
    rcases markedDigits?_eq_some hx with ⟨rfl | rfl, -⟩ | ⟨rfl | rfl, -⟩ | ⟨rfl | rfl, -⟩ <;>
      simp [decimalLength?, digitsLength_cons]
  have hfloat : floatLength? ('0' :: x :: rest) = none := by
    rcases markedDigits?_eq_some hx with ⟨rfl | rfl, -⟩ | ⟨rfl | rfl, -⟩ | ⟨rfl | rfl, -⟩ <;>
      simp [floatLength?, hdecimal, exponentLength?]
  have himaginary : isImaginaryAt ('0' :: x :: rest) 1 = false := by
    rcases markedDigits?_eq_some hx with ⟨rfl | rfl, -⟩ | ⟨rfl | rfl, -⟩ | ⟨rfl | rfl, -⟩ <;> rfl
  have hinteger : integerLength? ('0' :: x :: rest) = some n := by
    rcases markedDigits?_eq_some hx with ⟨rfl | rfl, rfl⟩ | ⟨rfl | rfl, rfl⟩ | ⟨rfl | rfl, rfl⟩ <;>
      simp [integerLength?, h]
  simp [numberLength?, hdecimal, hfloat, himaginary, hinteger]

theorem numberLength?_float {s : List Char} {n : Nat} (hfloat : floatLength? s = some n)
    (hwhole : ∀ w, decimalLength? s = some w → isImaginaryAt s w = false) :
    numberLength? s = some (n + imaginaryLength s n) := by
  have hnone : ((decimalLength? s).bind fun n => if isImaginaryAt s n then some (n + 1) else none) =
      none := by
    cases hw : decimalLength? s with
    | none => rfl
    | some w => simp [hwhole w hw]
  unfold numberLength?
  dsimp only
  rw [hnone, hfloat]
  unfold imaginaryLength
  cases himaginary : isImaginaryAt s n <;> simp [himaginary]

theorem withExponent_of_strictExponent? {s : List Char} {n exponent : Nat}
    (h : strictExponent? (s.drop n) = some exponent) : withExponent s n = n + exponent := by
  unfold withExponent
  rw [exponentLength?_of_strictExponent? h]
  split
  · rename_i hzero
    rw [hzero]
    rfl
  · rfl

theorem numberLength?_whole {s : List Char} {w : Nat} (hw : decimalLength? s = some w)
    (hmark : markLetter? s = none) (hfloat : floatLength? s = none)
    (hzero : isImaginaryAt s w = false → hasLeadingZero s = false) :
    numberLength? s = some (w + imaginaryLength s w) := by
  unfold numberLength? imaginaryLength
  dsimp only
  rw [hw, hfloat]
  cases himaginary : isImaginaryAt s w with
  | true => simp [himaginary]
  | false =>
    have hinteger : integerLength? s = some w := by
      cases s with
      | nil => cases hw
      | cons c cs =>
        by_cases hc : c = '0'
        · subst hc
          have hdigits : digitsLength Char.isDigit cs + 1 = w := by
            simpa [decimalLength?] using hw
          have hzeros := hzero himaginary
          simp only [hasLeadingZero, wholeLength, hw, Option.getD_some, ← hdigits,
            List.take_succ_cons, List.head?_cons,
            List.any_cons] at hzeros
          rw [integerLength?_zero hmark, digitsLength_zeros (by simpa using hzeros), hdigits]
        · rw [integerLength?_of_ne hc, hw]
    simp [himaginary, hinteger]

theorem numberLength?_of_numberStart? {s : List Char} {n : Nat} (h : numberStart? s = some n)
    (hstart : StartsNumber s) : numberLength? s = some n := by
  unfold numberStart? at h
  cases hmark : markLetter? s with
  | some p =>
    rw [hmark] at h
    obtain ⟨x, rest, rfl, hx⟩ := markLetter?_eq_some hmark
    exact numberLength?_marked hx h
  | none =>
    rw [hmark] at h
    obtain ⟨exponent, hexponent, hzero, rfl⟩ := strictDecimal?_eq_some h
    cases hw : decimalLength? s with
    | none =>
      -- Only a fraction: a point and digits.
      have hwhole : wholeLength s = 0 := by simp [wholeLength, hw]
      obtain ⟨c, rest, rfl, hc⟩ : ∃ c rest, s = '.' :: c :: rest ∧ c.isDigit = true := by
        rcases hstart with hdigit | hdot
        · cases s with
          | nil => cases hdigit
          | cons c cs =>
            have hc : c.isDigit = true := hdigit
            simp [decimalLength?, hc] at hw
        · exact hdot
      rw [hwhole, List.drop_zero, fractionLength_dot, Nat.zero_add] at hexponent ⊢
      obtain ⟨d, hd⟩ : ∃ d, decimalLength? (c :: rest) = some d := by simp [decimalLength?, hc]
      rw [hd, Option.getD_some, Nat.add_comm 1 d] at hexponent ⊢
      apply numberLength?_float
      · unfold floatLength?
        rw [hw]
        change Option.map _ (decimalLength? (c :: rest)) = _
        rw [hd, Option.map_some, withExponent_of_strictExponent? hexponent]
      · intro w hw'
        rw [hw] at hw'
        cases hw'
    | some w =>
      have hwhole : wholeLength s = w := by simp [wholeLength, hw]
      rw [hwhole] at hexponent hzero ⊢
      -- The scanner looks for a point first, then for an exponent, and for a whole number last.
      by_cases hdot : ∃ rest, s.drop w = '.' :: rest
      · obtain ⟨rest, hdrop⟩ := hdot
        apply numberLength?_float
        · rw [floatLength?_dot hw hdrop, withExponent_of_strictExponent? hexponent]
        · intro w' hw'
          cases hw.symm.trans hw'
          exact isImaginaryAt_of_drop hdrop (by decide)
      · have hfraction : fractionLength (s.drop w) = 0 := by
          unfold fractionLength
          split
          · rename_i rest hdrop
            exact absurd ⟨rest, hdrop⟩ hdot
          · rfl
        have hfloat := floatLength?_of_ne hw fun rest hdrop => hdot ⟨rest, hdrop⟩
        rw [hfraction, Nat.add_zero] at hexponent hzero ⊢
        rw [exponentLength?_of_strictExponent? hexponent] at hfloat
        by_cases hnone : exponent = 0
        · rw [if_pos hnone, Option.map_none] at hfloat
          rw [hnone] at hzero ⊢
          apply numberLength?_whole hw hmark hfloat
          intro himaginary
          simpa [imaginaryLength, himaginary] using hzero
        · rw [if_neg hnone, Option.map_some] at hfloat
          apply numberLength?_float hfloat
          intro w' hw'
          cases hw.symm.trans hw'
          rcases strictExponent?_cases hexponent with ⟨e, sign, digits, d, hdrop, he, -⟩ |
            ⟨e, c, rest, d, hdrop, he, -⟩ | ⟨hnil, -⟩
          · apply isImaginaryAt_of_drop hdrop
            simp only [Bool.or_eq_true, beq_iff_eq] at he
            rcases he with rfl | rfl <;> decide
          · apply isImaginaryAt_of_drop hdrop
            simp only [Bool.or_eq_true, beq_iff_eq] at he
            rcases he with rfl | rfl <;> decide
          · exact absurd hnil hnone

end Harvest.Source
