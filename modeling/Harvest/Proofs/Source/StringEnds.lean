import Harvest.Source.Symbol

/-!
# Where strings end

A string goes up to its closing quotes; a backslash takes the next character along, and a string in
single quotes may not hold a line end otherwise. Read as a whole or line by line, a string ends at
the same place.
-/

namespace Harvest.Source

/-- The text of a string after its opening quotes, up to and with the closing ones. -/
inductive Closes (closing : Closing) : List Char → Prop
  | quote (h : closing.triple = false) : Closes closing [closing.quote]
  | quotes (h : closing.triple = true) :
      Closes closing [closing.quote, closing.quote, closing.quote]
  | escape (c : Char) {t : List Char} (h : Closes closing t) : Closes closing ('\\' :: c :: t)
  | plain {c : Char} {t : List Char} (hslash : c ≠ '\\')
      (hsingle : closing.triple = false → c ≠ closing.quote ∧ c ≠ '\n')
      (htriple : closing.triple = true →
        ¬(c = closing.quote ∧ t.take 2 = [closing.quote, closing.quote]))
      (h : Closes closing t) : Closes closing (c :: t)

variable {closing : Closing} {s t : List Char} {n : Nat}

theorem Closes.ne_nil (h : Closes closing t) : t ≠ [] := by
  cases h <;> exact List.cons_ne_nil _ _

theorem Closes.two_le_length (h : Closes closing t) (htriple : closing.triple = true) :
    2 ≤ t.length := by
  induction h with
  | quote hsingle =>
    rw [htriple] at hsingle
    cases hsingle
  | quotes => exact Nat.le_succ 2
  | escape c h ih =>
    simp only [List.length_cons]
    omega
  | plain _ _ _ h ih =>
    simp only [List.length_cons]
    omega

theorem Closes.take_two (h : Closes closing t) (htriple : closing.triple = true) (r : List Char) :
    (t ++ r).take 2 = t.take 2 :=
  List.take_append_of_le_length (h.two_le_length htriple)

theorem exists_closes (hquote : closing.quote ≠ '\\') (h : closeLength? closing s = some n) :
    ∃ t r, s = t ++ r ∧ t.length = n ∧ Closes closing t := by
  fun_induction closeLength? closing s generalizing n with
  | case1 => cases h
  | case2 c cs ih =>
    obtain ⟨k, hk, rfl⟩ := Option.map_eq_some_iff.mp h
    obtain ⟨t, r, rfl, rfl, hcloses⟩ := ih hk
    exact ⟨'\\' :: c :: t, r, rfl, rfl, .escape c hcloses⟩
  | case3 cs hsingle =>
    cases h
    exact ⟨[closing.quote], cs, rfl, rfl, .quote (by simpa using hsingle)⟩
  | case4 cs htriple _ hquotes =>
    cases h
    have hcs : cs = [closing.quote, closing.quote] ++ cs.drop 2 := by
      rw [← beq_iff_eq.mp hquotes, List.take_append_drop]
    exact ⟨[closing.quote, closing.quote, closing.quote], cs.drop 2,
      congrArg (closing.quote :: ·) hcs, rfl,
      .quotes (by simpa using htriple)⟩
  | case5 cs htriple _ hquotes ih =>
    obtain ⟨k, hk, rfl⟩ := Option.map_eq_some_iff.mp h
    obtain ⟨t, r, rfl, rfl, hcloses⟩ := ih hk
    have htriple : closing.triple = true := by simpa using htriple
    rw [hcloses.take_two htriple] at hquotes
    refine ⟨closing.quote :: t, r, rfl, rfl, .plain hquote ?_ ?_ hcloses⟩
    · rw [htriple]
      nofun
    · rintro - ⟨-, htake⟩
      exact hquotes (beq_iff_eq.mpr htake)
  | case6 => cases h
  | case7 c cs hslash hc hfeed ih =>
    obtain ⟨k, hk, rfl⟩ := Option.map_eq_some_iff.mp h
    have hplain : c ≠ '\\' := by
      rintro rfl
      cases cs with
      | nil => cases hk
      | cons d cs => exact hslash d cs rfl rfl
    obtain ⟨t, r, rfl, rfl, hcloses⟩ := ih hk
    refine ⟨c :: t, r, rfl, rfl, .plain hplain ?_ ?_ hcloses⟩
    · intro hsingle
      exact ⟨hc, by simpa [hsingle] using hfeed⟩
    · rintro - ⟨heq, -⟩
      exact hc heq

theorem closeLength?_of_ne {c : Char} (hslash : c ≠ '\\') (cs : List Char) :
    closeLength? closing (c :: cs) =
      if c = closing.quote then
        if !closing.triple then some 1
        else if cs.take 2 == [c, c] then some 3
        else (closeLength? closing cs).map (· + 1)
    else if c = '\n' && !closing.triple then none
    else (closeLength? closing cs).map (· + 1) := by
  rw [closeLength?.eq_def]
  split
  · rename_i heq
    cases heq
  · rename_i heq
    exact absurd (List.cons.inj heq).1 hslash
  · rename_i heq
    cases heq
    rfl

theorem Closes.closeLength? (h : Closes closing t) (hquote : closing.quote ≠ '\\') (r : List Char) :
    closeLength? closing (t ++ r) = some t.length := by
  induction h with
  | quote hsingle => simp [closeLength?_of_ne hquote, hsingle]
  | quotes htriple => simp [closeLength?_of_ne hquote, htriple]
  | escape c h ih =>
    rw [List.cons_append, List.cons_append, Source.closeLength?, ih]
    rfl
  | plain hslash hsingle htriple h ih =>
    rename_i c t
    rw [List.cons_append, closeLength?_of_ne hslash, ih]
    cases hkind : closing.triple with
    | false =>
      obtain ⟨hc, hfeed⟩ := hsingle hkind
      simp [hc, hfeed]
    | true =>
      rw [h.take_two hkind]
      by_cases hc : c = closing.quote
      · have htake : ¬(t.take 2 == [c, c]) = true := by
          intro heq
          exact htriple hkind ⟨hc, by rw [beq_iff_eq.mp heq, hc]⟩
        simp [hc, hc ▸ htake]
      · simp [hc]

/-! ## Line by line -/

theorem tripleCloseLength?_of_ne {quote c : Char} (hslash : c ≠ '\\') (cs : List Char) :
    tripleCloseLength? quote (c :: cs) =
      if c = quote && (cs.take 2 == [quote, quote]) then some 3
      else (tripleCloseLength? quote cs).map (· + 1) := by
  rw [tripleCloseLength?.eq_def]
  split
  · rename_i heq
    cases heq
  · rename_i heq
    exact absurd (List.cons.inj heq).1 hslash
  · rename_i heq
    cases heq
    rw [if_neg hslash]

theorem singleCloseLength?_of_ne {quote c : Char} (hslash : c ≠ '\\') (cs : List Char) :
    singleCloseLength? quote (c :: cs) =
      if c = quote then some 1 else (singleCloseLength? quote cs).map (· + 1) := by
  rw [singleCloseLength?.eq_def]
  split
  · rename_i heq
    cases heq
  · rename_i heq
    exact absurd (List.cons.inj heq).1 hslash
  · rename_i heq
    cases heq
    rw [if_neg hslash]

def StringTail.more (n : Nat) : StringTail → StringTail
  | .closed length => .closed (length + n)
  | .continued => .continued

theorem stringTail?_of_ne {quote c : Char} (hslash : c ≠ '\\') (cs : List Char) :
    stringTail? quote (c :: cs) =
      if c = '\n' then none else if c = quote then some (.closed 1)
      else (stringTail? quote cs).map (StringTail.more 1) := by
  rw [stringTail?.eq_def]
  split
  · rename_i heq
    cases heq
  · rename_i heq
    exact absurd (List.cons.inj heq).1 hslash
  · rename_i heq
    cases heq
    rfl

theorem stringTail?_escape {quote c : Char} (hfeed : c ≠ '\n') (hreturn : c ≠ '\r')
    (cs : List Char) :
    stringTail? quote ('\\' :: c :: cs) = (stringTail? quote cs).map (StringTail.more 2) := by
  rw [stringTail?.eq_def]
  split
  · rename_i heq
    cases heq
  · rename_i rest heq
    cases heq
    split
    · rename_i heq
      cases heq
    · rename_i heq
      exact absurd (List.cons.inj heq).1 hfeed
    · rename_i heq
      exact absurd (List.cons.inj heq).1 hreturn
    · rename_i heq
      exact absurd (List.cons.inj heq).1 hfeed
    · rename_i heq
      cases heq
      rfl
  · rename_i hno heq
    exact absurd (List.cons.inj heq).1.symm (by simpa using hno)

inductive LineEnds (closing : Closing) (t : List Char) : Prop
  /-- The string is closed within the line. -/
  | closed (hfeed : '\n' ∉ t) (hlength : ∀ r, closing.length? (t ++ r) = some t.length)
      (htail : closing.triple = false → ∀ r, stringTail? closing.quote (t ++ r) =
        some (.closed t.length))
  /-- The line ends before the string does; the next line goes on with it. -/
  | opened {u t' : List Char} (ht : t = u ++ '\n' :: t') (hfeed : '\n' ∉ u) (h : Closes closing t')
      (hlength : closing.length? (u ++ ['\n']) = none)
      (hmark : closing.triple = false → endsContinued (u ++ ['\n']) = true ∧
        stringTail? closing.quote (u ++ ['\n']) = some .continued)

theorem length?_escape {c : Char} (hc : c ≠ '\n') (cs : List Char) :
    closing.length? ('\\' :: c :: cs) = (closing.length? cs).map (· + 2) := by
  unfold Closing.length?
  split
  · rw [tripleCloseLength?, if_neg hc]
  · rw [singleCloseLength?, if_neg hc]

theorem length?_plain {c : Char} {cs : List Char} (hslash : c ≠ '\\')
    (hsingle : closing.triple = false → c ≠ closing.quote)
    (htriple : closing.triple = true →
      ¬(c = closing.quote ∧ cs.take 2 = [closing.quote, closing.quote])) :
    closing.length? (c :: cs) = (closing.length? cs).map (· + 1) := by
  unfold Closing.length?
  cases hkind : closing.triple with
  | false =>
    simp only [Bool.false_eq_true, if_false]
    rw [singleCloseLength?_of_ne hslash, if_neg (hsingle hkind)]
  | true =>
    simp only [if_true]
    rw [tripleCloseLength?_of_ne hslash, if_neg (by simpa using htriple hkind)]

theorem endsContinued_cons {line : List Char} (h : endsContinued line = true) (c : Char) :
    endsContinued (c :: line) = true := by
  simp only [endsContinued, Bool.or_eq_true, List.isSuffixOf_iff_suffix] at h ⊢
  rcases h with h | h
  · exact .inl (h.trans (List.suffix_cons c line))
  · exact .inr (h.trans (List.suffix_cons c line))

theorem LineEnds.escape (h : LineEnds closing t) {c : Char} (hc : c ≠ '\n') (hreturn : c ≠ '\r') :
    LineEnds closing ('\\' :: c :: t) := by
  have hslash : '\n' ≠ '\\' := by decide
  cases h with
  | closed hfeed hlength htail =>
    refine .closed ?_ (fun r => ?_) fun hsingle r => ?_
    · simp [hfeed, hc.symm]
    · rw [List.cons_append, List.cons_append, length?_escape hc, hlength]
      rfl
    · rw [List.cons_append, List.cons_append, stringTail?_escape hc hreturn, htail hsingle]
      rfl
  | opened ht hfeed h hlength hmark =>
    rename_i u t'
    refine .opened (u := '\\' :: c :: u) (by rw [ht]; rfl) ?_ h ?_ fun hsingle => ?_
    · simp [hfeed, hc.symm]
    · rw [List.cons_append, List.cons_append, length?_escape hc, hlength]
      rfl
    · obtain ⟨hends, htail⟩ := hmark hsingle
      rw [List.cons_append, List.cons_append, stringTail?_escape hc hreturn, htail]
      exact ⟨endsContinued_cons (endsContinued_cons hends _) _, rfl⟩

theorem LineEnds.plain (h : LineEnds closing t) (hcloses : Closes closing t)
    (hquote : closing.quote ≠ '\n') {c : Char}
    (hslash : c ≠ '\\') (hsingle : closing.triple = false → c ≠ closing.quote ∧ c ≠ '\n')
    (htriple : closing.triple = true →
      ¬(c = closing.quote ∧ t.take 2 = [closing.quote, closing.quote]))
    (hc : c ≠ '\n') : LineEnds closing (c :: t) := by
  cases h with
  | closed hfeed hlength htail =>
    refine .closed ?_ (fun r => ?_) fun hkind r => ?_
    · simp [hfeed, hc.symm]
    · have htriple' (hkind : closing.triple = true) :
          ¬(c = closing.quote ∧ (t ++ r).take 2 = [closing.quote, closing.quote]) := by
        rw [hcloses.take_two hkind]
        exact htriple hkind
      rw [List.cons_append, length?_plain hslash (fun hkind => (hsingle hkind).1) htriple', hlength]
      rfl
    · rw [List.cons_append, stringTail?_of_ne hslash, if_neg hc,
        if_neg (hsingle hkind).1, htail hkind]
      rfl
  | opened ht hfeed h hlength hmark =>
    rename_i u t'
    refine .opened (u := c :: u) (by rw [ht]; rfl) ?_ h ?_ fun hkind => ?_
    · simp [hfeed, hc.symm]
    · have htriple' (hkind : closing.triple = true) :
          ¬(c = closing.quote ∧ (u ++ ['\n']).take 2 = [closing.quote, closing.quote]) := by
        rintro ⟨hc, htake⟩
        apply htriple hkind
        refine ⟨hc, ?_⟩
        -- The line end is no quote, so both quotes stand before it.
        cases u with
        | nil => exact absurd (List.cons.inj htake).2 (List.cons_ne_nil _ _).symm
        | cons x u =>
          cases u with
          | nil => exact absurd (List.cons.inj (List.cons.inj htake).2).1.symm hquote
          | cons y u =>
            rw [ht]
            exact htake
      rw [List.cons_append, length?_plain hslash (fun hkind => (hsingle hkind).1) htriple', hlength]
      rfl
    · obtain ⟨hends, htail⟩ := hmark hkind
      rw [List.cons_append, stringTail?_of_ne hslash, if_neg hc, if_neg (hsingle hkind).1, htail]
      exact ⟨endsContinued_cons hends _, rfl⟩

theorem Closes.lineEnds (h : Closes closing t) (hquote : isQuote closing.quote = true)
    (hreturn : '\r' ∉ t) :
    LineEnds closing t := by
  have hslash : closing.quote ≠ '\\' := by
    intro heq
    rw [heq] at hquote
    exact absurd hquote (by decide)
  have hfeed : closing.quote ≠ '\n' := by
    intro heq
    rw [heq] at hquote
    exact absurd hquote (by decide)
  induction h with
  | quote hsingle =>
    refine .closed (by simpa using hfeed.symm) (fun r => ?_) fun _ r => ?_
    · simp [Closing.length?, hsingle, singleCloseLength?_of_ne hslash]
    · simp [stringTail?_of_ne hslash, hfeed]
  | quotes htriple =>
    refine .closed (by simpa using hfeed.symm) (fun r => ?_) fun hsingle => ?_
    · simp [Closing.length?, htriple, tripleCloseLength?_of_ne hslash]
    · rw [htriple] at hsingle
      cases hsingle
  | escape c h ih =>
    rename_i t
    rw [List.mem_cons, List.mem_cons, not_or, not_or] at hreturn
    by_cases hc : c = '\n'
    · subst hc
      refine .opened (u := ['\\']) rfl (by decide) h ?_ fun _ => ⟨by decide, rfl⟩
      unfold Closing.length?
      split <;> rfl
    · exact (ih hreturn.2.2).escape hc (Ne.symm hreturn.2.1)
  | plain hplain hsingle htriple h ih =>
    rename_i c t
    rw [List.mem_cons, not_or] at hreturn
    by_cases hc : c = '\n'
    · -- A line end in a string with three quotes.
      subst hc
      have hkind : closing.triple = true := by
        cases hkind : closing.triple with
        | true => rfl
        | false => exact absurd rfl (hsingle hkind).2
      refine .opened (u := []) rfl List.not_mem_nil h ?_ ?_
      · have hno : ¬('\n' = closing.quote &&
            (([] : List Char).take 2 == [closing.quote, closing.quote])) = true := by
          simp
        simp only [Closing.length?, hkind, if_true, List.nil_append]
        rw [tripleCloseLength?_of_ne hplain, if_neg hno]
        rfl
      · rw [hkind]
        nofun
    · exact (ih hreturn.2).plain h hfeed hplain hsingle htriple hc

/-! ## Whole strings -/

def Closing.opening (closing : Closing) : List Char :=
  if closing.triple then [closing.quote, closing.quote, closing.quote] else [closing.quote]

theorem Closing.exists_opening (closing : Closing) :
    ∃ rest, closing.opening = closing.quote :: rest := by
  unfold Closing.opening
  split <;> exact ⟨_, rfl⟩

theorem Closing.eq_quote_of_mem_opening {closing : Closing} {c : Char} (hc : c ∈ closing.opening) :
    c = closing.quote := by
  unfold Closing.opening at hc
  split at hc <;> simpa using hc

def IsMark (mark : List Char) : Prop := String.ofList (mark.map Char.toLower) ∈ stringMarks

theorem toLower_of_toNat_ge {c : Char} (hc : 128 ≤ c.toNat) : c.toLower = c := by
  unfold Char.toLower
  rw [dif_neg]
  rintro ⟨-, hle⟩
  have : c.toNat ≤ 90 := UInt32.le_iff_toNat_le.mp hle
  omega

theorem mem_markLetters {c : Char} (h : c.toLower ∈ "bruf".toList) : c ∈ "brufBRUF".toList := by
  by_cases hc : c.toNat < 128
  · have hall : ∀ n < 128, (Char.ofNat n).toLower ∈ "bruf".toList →
      Char.ofNat n ∈ "brufBRUF".toList := by decide
    rw [← Char.ofNat_toNat c] at h ⊢
    exact hall _ hc h
  · rw [toLower_of_toNat_ge (by omega)] at h
    exact List.mem_append_left "BRUF".toList h

theorem IsMark.spec {mark : List Char} (h : IsMark mark) :
    mark.length ≤ 2 ∧ ∀ c ∈ mark, c ∈ "brufBRUF".toList := by
  have hall : ∀ text ∈ stringMarks, text.toList.length ≤ 2 ∧
      text.toList.all "bruf".toList.contains = true := by
    decide
  obtain ⟨hlength, hletters⟩ := hall _ h
  rw [String.toList_ofList] at hlength hletters
  refine ⟨by simpa using hlength, fun c hc => mem_markLetters ?_⟩
  exact List.contains_iff_mem.mp (List.all_eq_true.mp hletters _ (List.mem_map_of_mem hc))

theorem IsMark.not_quote {mark : List Char} (h : IsMark mark) {c : Char} (hc : c ∈ mark) :
    isQuote c = false := by
  have hall : ∀ c ∈ "brufBRUF".toList, (!isQuote c) = true := List.all_eq_true.mp (by decide)
  simpa using hall c (h.spec.2 c hc)

theorem stringMark?_append {mark : List Char} (h : IsMark mark) {quote : Char}
    (hquote : isQuote quote = true)
    (rest : List Char) : stringMark? (mark ++ quote :: rest) = some mark := by
  have hrun : (mark ++ quote :: rest).takeWhile (fun c => !isQuote c) = mark := by
    rw [List.takeWhile_append_of_pos (by simpa using fun c hc => h.not_quote hc),
      List.takeWhile_cons_of_neg (by simp [hquote]), List.append_nil]
  have htake : mark.take 3 = mark := List.take_of_length_le (by have := h.spec.1; omega)
  have hmark : stringMarks.contains (String.ofList (mark.map Char.toLower)) = true :=
    List.contains_iff_mem.mpr h
  unfold stringMark?
  simp only [hrun, htake, List.drop_left, hquote, hmark, Bool.and_self, if_true]

theorem stringMark?_eq_some {s mark : List Char} (h : stringMark? s = some mark) :
    IsMark mark ∧ ∃ quote rest, s = mark ++ quote :: rest ∧ isQuote quote = true := by
  unfold stringMark? at h
  extract_lets run at h
  split at h
  · rename_i quote rest hdrop
    split at h
    · rename_i hquote
      rw [Option.some.injEq] at h
      rw [Bool.and_eq_true] at hquote
      have hprefix : run <+: s := (List.take_prefix _ _).trans (List.takeWhile_prefix _)
      rw [h] at hprefix hdrop hquote
      refine ⟨List.contains_iff_mem.mp hquote.2, quote, rest, ?_, hquote.1⟩
      rw [← hdrop]
      exact (List.prefix_iff_eq_append.mp hprefix).symm
    · cases h
  · cases h

theorem stringMark?_eq_none_of_append {s r : List Char} (h : stringMark? (s ++ r) = none) :
    stringMark? s = none := by
  cases hmark : stringMark? s with
  | none => rfl
  | some mark =>
    obtain ⟨hletters, quote, rest, rfl, hquote⟩ := stringMark?_eq_some hmark
    rw [List.append_assoc, List.cons_append, stringMark?_append hletters hquote] at h
    cases h

/-- A text of a string with its letters and quotes. -/
structure Delimits (mark : List Char) (closing : Closing) (t r : List Char) : Prop where
  mark : IsMark mark
  quote : isQuote closing.quote = true
  closes : Closes closing t
  single : closing.triple = false → (t ++ r).take 2 ≠ [closing.quote, closing.quote]

theorem isQuote_ne_slash {c : Char} (h : isQuote c = true) : c ≠ '\\' := by
  rintro rfl
  exact absurd h (by decide)

theorem delimits_of_strictString? {mark s : List Char} {n : Nat} (hmark : stringMark? s = some mark)
    (h : strictString? mark s = some n) : ∃ closing t r, s = mark ++ (closing.opening ++ (t ++ r)) ∧
      n = mark.length + closing.opening.length + t.length ∧ Delimits mark closing t r := by
  obtain ⟨hletters, quote, rest, rfl, hquote⟩ := stringMark?_eq_some hmark
  unfold strictString? at h
  rw [List.drop_left] at h
  dsimp only at h
  split at h
  · rename_i htake
    obtain ⟨k, hk, rfl⟩ := Option.map_eq_some_iff.mp h
    obtain ⟨t, r, hrest, rfl, hcloses⟩ := exists_closes (isQuote_ne_slash hquote) hk
    refine ⟨⟨quote, true⟩, t, r, ?_, ?_, hletters, hquote, hcloses, nofun⟩
    · have hquotes : rest = [quote, quote] ++ rest.drop 2 := by
        rw [← beq_iff_eq.mp htake, List.take_append_drop]
      rw [← hrest]
      exact congrArg (mark ++ quote :: ·) hquotes
    · simp [Closing.opening]
      omega
  · rename_i htake
    obtain ⟨k, hk, rfl⟩ := Option.map_eq_some_iff.mp h
    obtain ⟨t, r, rfl, rfl, hcloses⟩ := exists_closes (isQuote_ne_slash hquote) hk
    refine ⟨⟨quote, false⟩, t, r, rfl, ?_, hletters, hquote, hcloses, fun _ heq =>
      htake (beq_iff_eq.mpr heq)⟩
    simp [Closing.opening]
    omega

theorem Delimits.stringMark? {mark t r : List Char} {closing : Closing}
    (h : Delimits mark closing t r) (rest : List Char) :
    stringMark? (mark ++ (closing.opening ++ rest)) = some mark := by
  obtain ⟨quotes, hopening⟩ := closing.exists_opening
  rw [hopening]
  exact stringMark?_append h.mark h.quote _

theorem Delimits.strictString? {mark t r : List Char} {closing : Closing}
    (h : Delimits mark closing t r) :
    strictString? mark (mark ++ (closing.opening ++ (t ++ r))) =
      some (mark.length + closing.opening.length + t.length) := by
  have hlength := h.closes.closeLength? (isQuote_ne_slash h.quote) r
  obtain ⟨quote, triple⟩ := closing
  unfold Source.strictString? Closing.opening
  rw [List.drop_left]
  cases triple with
  | true =>
    simp [hlength]
    omega
  | false =>
    have hsingle : ((t ++ r).take 2 == [quote, quote]) = false := by simpa using h.single rfl
    simp [hsingle, hlength]
    omega

theorem take_two_of_isPrefix {a b : List Char} {c d : Char} (h : a <+: b) (ha : a.take 2 = [c, d]) :
    b.take 2 = [c, d] := by
  obtain ⟨tail, rfl⟩ := h
  have hlength : 2 ≤ a.length := by
    have := congrArg List.length ha
    rw [List.length_take] at this
    simp only [List.length_cons, List.length_nil] at this
    omega
  rw [List.take_append_of_le_length hlength, ha]

/-- What follows a string does not change where it ends, unless it makes three quotes of two. -/
theorem Delimits.of_prefix {mark t r r' : List Char} {closing : Closing}
    (h : Delimits mark closing t r) (hr : r' <+: r) : Delimits mark closing t r' where
  mark := h.mark
  quote := h.quote
  closes := h.closes
  single hkind htake :=
    h.single hkind (take_two_of_isPrefix ((List.prefix_append_right_inj t).mpr hr) htake)

end Harvest.Source
