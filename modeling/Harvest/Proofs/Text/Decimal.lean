import Harvest.Proofs.Text.Words
import Harvest.Text.Integer

/-!
# Decimal numbers

A whole number that is written in decimal digits is read again as itself, unless it has more digits
than are read.
-/

namespace Harvest.Text

theorem toNat_of_isDigit {c : Char} (hc : c.isDigit = true) : 48 ≤ c.toNat ∧ c.toNat ≤ 57 :=
  Char.isDigit_iff_toNat.mp hc

theorem digitValue?_of_isDigit {c : Char} (hc : c.isDigit = true) :
    digitValue? c = some (c.toNat - 48) := by
  have hsmall : c.toNat < 128 := by
    have := toNat_of_isDigit hc
    omega
  rw [digitValue?, if_pos hsmall, if_pos hc]

theorem digitTail_of_forall_isDigit {s : List Char} (h : ∀ c ∈ s, c.isDigit = true) :
    digitTail s = (s.map (·.toNat - 48), []) := by
  induction s with
  | nil => rfl
  | cons c s ih =>
    have hc := h c List.mem_cons_self
    have hscore : c ≠ '_' := by
      rintro rfl
      exact absurd hc (by decide)
    rw [digitTail]
    · rw [digitValue?_of_isDigit hc, ih fun d hd => h d (List.mem_cons_of_mem c hd)]
      rfl
    · intro d ds hd _
      exact hscore hd

theorem ofDigits_toDigits (n : Nat) : ofDigits 10 ((Nat.toDigits 10 n).map (·.toNat - 48)) = n := by
  have hvalue : Nat.ofDigitChars 10 (Nat.toDigits 10 n) 0 = n := Nat.ofDigitChars_ten_toDigits
  simp only [Nat.ofDigitChars, Nat.mul_comm 10] at hvalue
  rw [ofDigits, List.foldl_map]
  exact hvalue

theorem digitRun_toDigits (n : Nat) :
    digitRun (Nat.toDigits 10 n) = ((Nat.toDigits 10 n).map (·.toNat - 48), []) := by
  have hdigits : ∀ c ∈ Nat.toDigits 10 n, c.isDigit = true :=
    fun c hc => Nat.isDigit_of_mem_toDigits (by decide) (by decide) hc
  have hfirst : (Nat.toDigits 10 n).head? ≠ some '_' := by
    intro h
    exact absurd (hdigits '_' (List.mem_of_mem_head? h)) (by decide)
  rw [digitRun, if_neg hfirst, digitTail_of_forall_isDigit hdigits]

theorem isNumberBlank_of_mem_toString {n : Int} {c : Char} (h : c ∈ (toString n).toList) :
    isNumberBlank c = false := by
  rcases mem_toString_int h with rfl | hc
  · decide
  · have := toNat_of_isDigit hc
    simp only [isNumberBlank, isBlank, Bool.and_eq_false_iff, Bool.or_eq_false_iff,
      beq_eq_false_iff_ne,
      decide_eq_false_iff_not]
    omega

theorem trim_toString (n : Int) :
    trimRightOf isNumberBlank ((toString n).toList.dropWhile isNumberBlank) =
      (toString n).toList := by
  have hkept {s : List Char} (h : ∀ c ∈ s, isNumberBlank c = false) :
      s.dropWhile isNumberBlank = s := by
    cases s with
    | nil => rfl
    | cons c s => rw [List.dropWhile_cons_of_neg (by rw [h c List.mem_cons_self]; decide)]
  rw [hkept fun c hc => isNumberBlank_of_mem_toString hc, trimRightOf,
    hkept fun c hc => isNumberBlank_of_mem_toString (List.mem_reverse.mp hc), List.reverse_reverse]

/-- A number in decimal digits is read digit by digit to its end. -/
theorem exists_digits (m : Nat) :
    ∃ c cs d ds, Nat.toDigits 10 m = c :: cs ∧ c.isDigit = true ∧
      digitRun (c :: cs) = (d :: ds, []) ∧ (d :: ds).length =
        (c :: cs).length ∧ ofDigits 10 (d :: ds) = m := by
  cases hm : Nat.toDigits 10 m with
  | nil => exact absurd hm Nat.toDigits_ne_nil
  | cons c cs =>
    have hc : c ∈ Nat.toDigits 10 m := hm ▸ List.mem_cons_self
    have hrun := digitRun_toDigits m
    have hvalue := ofDigits_toDigits m
    rw [hm, List.map_cons] at hrun hvalue
    refine ⟨c, cs, _, _, rfl, Nat.isDigit_of_mem_toDigits (by decide) (by decide) hc, hrun, ?_,
      hvalue⟩
    rw [List.length_cons, List.length_map, List.length_cons]

/-- A number is read as it is written, unless it has too many digits. -/
theorem integer?_toString (n : Int) (hlength : (Nat.toDigits 10 n.natAbs).length ≤ maxDigits) :
    integer? (toString n) = .ok n := by
  obtain ⟨c, cs, d, ds, hdigits, hc, hrun, hsame, hvalue⟩ := exists_digits n.natAbs
  rw [hdigits, ← hsame] at hlength
  have hfits : ¬ (d :: ds).length > maxDigits := by omega
  rw [integer?, trim_toString]
  cases n with
  | ofNat m =>
    have htext : (toString (Int.ofNat m)).toList = c :: cs := Nat.toList_repr.trans hdigits
    rw [htext]
    split
    next negative s hsign =>
    -- a digit is no sign
    split at hsign
    · next heq => exact absurd ((List.cons.inj heq).1 ▸ hc) (by decide)
    · next heq => exact absurd ((List.cons.inj heq).1 ▸ hc) (by decide)
    · obtain ⟨rfl, rfl⟩ := Prod.mk.inj hsign
      simp only [hrun, List.head?_nil, reduceCtorEq, if_false, hfits,
        List.isEmpty_nil, Bool.not_true,
        Bool.false_eq_true, hvalue]
      rfl
  | negSucc m =>
    have htext : (toString (Int.negSucc m)).toList = '-' :: c :: cs := by
      show ("-" ++ Nat.repr (m + 1)).toList = _
      rw [String.toList_append, Nat.toList_repr]
      exact congrArg _ hdigits
    rw [htext]
    simp only [hrun, List.head?_nil, reduceCtorEq, if_false, hfits, List.isEmpty_nil, Bool.not_true,
      Bool.false_eq_true, if_true, hvalue]
    rfl

end Harvest.Text
