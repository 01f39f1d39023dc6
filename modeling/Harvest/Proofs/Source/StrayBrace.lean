import Harvest.Proofs.Source.SymbolTokens

/-!
# A closing brace behind an expression

No symbol of an expression but a string goes on over a blank or a closing brace. So the symbols of
an expression stay what they are when blanks and a closing brace follow it, all its brackets are
closed before the brace, and the brace closes nothing: the whole is no expression.
-/

namespace Harvest.Source

open Text

/-! ## Characters between symbols -/

def blankCodes : List Nat :=
  [9, 10, 11, 12, 13, 28, 29, 30, 31, 32, 0x85, 0xa0, 0x1680, 0x2000, 0x2001, 0x2002, 0x2003,
    0x2004, 0x2005, 0x2006,
   0x2007, 0x2008, 0x2009, 0x200a, 0x2028, 0x2029, 0x202f, 0x205f, 0x3000]

def blankRanges : Ranges :=
  [(0x85, 0x85), (0xa0, 0xa0), (0x1680, 0x1680), (0x2000, 0x200a),
    (0x2028, 0x2029), (0x202f, 0x202f),
   (0x205f, 0x205f), (0x3000, 0x3000)]

variable {y : Char} {ys s : List Char}

theorem toNat_mem_blankCodes (hy : isBlank y = true) : y.toNat ∈ blankCodes := by
  simp only [isBlank, Bool.or_eq_true, Bool.and_eq_true, decide_eq_true_eq, beq_iff_eq] at hy
  simp only [blankCodes, List.mem_cons, List.not_mem_nil, or_false]
  rcases hy with (((((((((hy | hy) | hy) | hy) | hy) | hy) | hy) | hy) | hy) | hy) | hy <;> omega

theorem isIdentifierTail_of_isBlank (hy : isBlank y = true) : isIdentifierTail y = false := by
  have hapart : ∀ r ∈ identifierStartRanges ++ identifierTailRanges,
      (blankRanges.all fun b => Nat.blt b.2 r.1 || Nat.blt r.2 b.1) = true :=
    List.all_eq_true.mp (by decide +kernel)
  have hascii : ∀ n ∈ blankCodes, n < 128 → ((Char.ofNat n).isAlphanum || Char.ofNat n == '_') =
    false := by decide
  have hcode := toNat_mem_blankCodes hy
  unfold isIdentifierTail
  split
  · rename_i hlow
    have hnone := hascii _ hcode hlow
    rwa [Char.ofNat_toNat] at hnone
  · rename_i hhigh
    have hblank : ∀ n ∈ blankCodes, ¬n < 128 → ∃ b ∈ blankRanges, b.1 ≤ n ∧ n ≤ b.2 := by decide
    obtain ⟨b, hb, hfirst, hlast⟩ := hblank _ hcode hhigh
    have hnone : (identifierStartRanges ++ identifierTailRanges).contains y = false := by
      rw [Ranges.contains, List.any_eq_false]
      intro r hr hin
      have hout := List.all_eq_true.mp (hapart r hr) b hb
      simp only [Bool.and_eq_true, decide_eq_true_eq, Bool.or_eq_true, Nat.blt_eq] at hin hout
      omega
    rwa [Ranges.contains, List.any_append] at hnone

/-- What a blank or a closing brace cannot be: part of a number, a quote, a letter before one, part
of a name, or part of an operator behind its first character. So it ends any symbol before it but a
string. -/
structure EndsSymbol (y : Char) : Prop where
  number : isNumberPart y = false
  quote : isQuote y = false
  mark : y ∉ "brufBRUF".toList
  name : isIdentifierTail y = false
  operator : ∀ op ∈ operators, y ∉ op.toList.drop 1

theorem endsSymbol_brace : EndsSymbol '\x7d' := by
  constructor <;> decide

theorem endsSymbol_of_isBlank (hy : isBlank y = true) : EndsSymbol y := by
  have hall : ∀ n ∈ blankCodes, (!isNumberPart (.ofNat n) && !isQuote (.ofNat n) &&
      !"brufBRUF".toList.contains (.ofNat n) &&
      operators.all fun op => !(op.toList.drop 1).contains (.ofNat n)) = true :=
    List.all_eq_true.mp (by decide +kernel)
  have h := hall _ (toNat_mem_blankCodes hy)
  rw [Char.ofNat_toNat] at h
  simp only [Bool.and_eq_true, Bool.not_eq_true', List.all_eq_true, List.contains_eq_mem,
    decide_eq_false_iff_not] at h
  exact ⟨h.1.1.1, h.1.1.2, h.1.2, isIdentifierTail_of_isBlank hy, h.2⟩

theorem isIdentifierTail_of_start {c : Char} (h : isIdentifierStart c = true) :
    isIdentifierTail c = true := by
  unfold isIdentifierStart at h
  unfold isIdentifierTail
  split at h
  · rename_i hascii
    rw [if_pos hascii, Char.isAlphanum]
    rcases Bool.or_eq_true_iff.mp h with h | h <;> simp [h]
  · rename_i hascii
    rw [if_neg hascii, h, Bool.true_or]

theorem isIdentifierTail_of_mem_name {word : List Char} {x : Symbol}
    (h : nameSymbol? word = some x) {c : Char} (hc : c ∈ word) : isIdentifierTail c = true := by
  unfold nameSymbol? at h
  split at h
  · rename_i d ds
    split at h
    · rename_i hparts
      rw [Bool.and_eq_true] at hparts
      rcases List.mem_cons.mp hc with rfl | hc
      · exact isIdentifierTail_of_start hparts.1
      · exact List.all_eq_true.mp hparts.2 c hc
    · cases h
  · cases hc

/-! ## Symbols before such a character -/

section

variable (hy : EndsSymbol y)

include hy in
theorem stringMark?_append_ends (hs : s ≠ []) : stringMark? (s ++ y :: ys) = stringMark? s := by
  cases hmark : stringMark? s with
  | some mark =>
    obtain ⟨hletters, quote, rest, rfl, hquote⟩ := stringMark?_eq_some hmark
    rw [List.append_assoc, List.cons_append, stringMark?_append hletters hquote]
  | none =>
    cases hlonger : stringMark? (s ++ y :: ys) with
    | none => rfl
    | some mark =>
      obtain ⟨hletters, quote, rest, htext, hquote⟩ := stringMark?_eq_some hlonger
      rcases List.append_eq_append_iff.mp htext with ⟨more, rfl, hrest⟩ | ⟨more, rfl, hrest⟩
      · -- The letters or the quote would take in the character.
        cases more with
        | nil =>
          rw [List.nil_append, List.cons.injEq] at hrest
          rw [← hrest.1, hy.quote] at hquote
          cases hquote
        | cons c more =>
          rw [List.cons_append, List.cons.injEq] at hrest
          have hmem : y ∈ s ++ c :: more := by simp [hrest.1]
          exact absurd (hletters.spec.2 y hmem) hy.mark
      · cases more with
        | nil =>
          rw [List.nil_append, List.cons.injEq] at hrest
          rw [hrest.1, hy.quote] at hquote
          cases hquote
        | cons c more =>
          rw [List.cons_append, List.cons.injEq] at hrest
          rw [← hrest.1, stringMark?_append hletters hquote] at hmark
          cases hmark

include hy in
theorem startsNumber_append_ends (hs : s ≠ []) : StartsNumber (s ++ y :: ys) ↔ StartsNumber s := by
  refine ⟨fun h => ?_, fun h => h.append _⟩
  obtain ⟨c, cs, rfl⟩ := List.exists_cons_of_ne_nil hs
  rcases h with hdigit | ⟨d, rest, htext, hd⟩
  · exact .inl hdigit
  · rw [List.cons_append, List.cons.injEq] at htext
    cases cs with
    | nil =>
      have hyd : y = d := (List.cons.inj htext.2).1
      have hpart : isNumberPart d = true := by simp [isNumberPart, hd]
      exact absurd hyd (ne_of_isNumberPart hy.number hpart)
    | cons e cs =>
      have hed : e = d := (List.cons.inj htext.2).1
      exact .inr ⟨e, cs, by rw [htext.1], hed ▸ hd⟩

variable {n m : Nat}

include hy in
theorem strictString?_append_ends {mark : List Char} (hmark : stringMark? s = some mark)
    (h : strictString? mark s = some n) : strictString? mark (s ++ y :: ys) = some n := by
  obtain ⟨closing, t, r, rfl, rfl, hdelimits⟩ := delimits_of_strictString? hmark h
  have hlonger : Delimits mark closing t (r ++ y :: ys) := by
    refine ⟨hdelimits.mark, hdelimits.quote, hdelimits.closes, fun hkind htake => ?_⟩
    -- Two quotes are not made three.
    cases hdelimits.closes with
    | quotes htriple => cases hkind.symm.trans htriple
    | quote =>
      cases r with
      | nil =>
        simp only [List.nil_append, List.cons_append, List.take_succ_cons,
          List.take_zero, List.cons.injEq,
          and_true] at htake
        have hquote := hdelimits.quote
        rw [← htake.2, hy.quote] at hquote
        cases hquote
      | cons c r => exact hdelimits.single hkind (by simpa using htake)
    | escape c h => exact hdelimits.single hkind (by simpa using htake)
    | plain _ hsingle _ _ =>
      have hquote := congrArg List.head? htake
      simp only [List.cons_append, List.take_succ_cons, List.head?_cons,
        Option.some.injEq] at hquote
      exact (hsingle hkind).1 hquote
  have hstring := hlonger.strictString?
  simpa only [List.append_assoc] using hstring

include hy in
theorem strictNumber?_append_ends (h : strictNumber? s = some n)
    (hlonger : strictNumber? (s ++ y :: ys) = some m) :
    m = n := by
  rw [strictNumber?_eq, Option.bind_eq_some_iff] at h hlonger
  obtain ⟨k, hk, hn⟩ := h
  obtain ⟨l, hl, hm⟩ := hlonger
  obtain ⟨-, rfl⟩ : _ ∧ k = n := by simpa using hn
  obtain ⟨-, rfl⟩ : _ ∧ l = m := by simpa using hm
  by_cases hlength : l ≤ s.length
  · have htake := numberStart?_take hl hlength
    rw [List.take_left] at htake
    exact Option.some.inj (htake.symm.trans hk)
  · -- The number would take in the character.
    refine absurd ?_ (notMem_number hy.number hl)
    rw [List.take_append, List.mem_append]
    obtain ⟨d, hd⟩ := Nat.exists_eq_add_of_lt (Nat.lt_of_not_le hlength)
    right
    rw [show l - s.length = d + 1 by omega, List.take_succ_cons]
    exact List.mem_cons_self

include hy in
theorem nameSymbol?_append_ends {x : Symbol}
    (h : nameSymbol? ((s ++ y :: ys).takeWhile isNameChar) = some x) :
    (s ++ y :: ys).takeWhile isNameChar = s.takeWhile isNameChar := by
  rw [List.takeWhile_append] at h ⊢
  split at h
  · rename_i hlength
    have hall : s.takeWhile isNameChar = s := (List.takeWhile_prefix _).eq_of_length hlength
    rw [if_pos hlength, hall]
    by_cases hname : isNameChar y = true
    · rw [List.takeWhile_cons_of_pos hname] at h
      have htail := isIdentifierTail_of_mem_name h (by simp : y ∈ s ++ y :: _)
      rw [hy.name] at htail
      cases htail
    · rw [List.takeWhile_cons_of_neg hname, List.append_nil]
  · rename_i hlength
    rw [if_neg hlength]

include hy in
theorem find?_operators_append_ends (hs : s ≠ []) :
    operators.find? (fun op => op.toList.isPrefixOf (s ++ y :: ys)) =
      operators.find? fun op => op.toList.isPrefixOf s := by
  refine List.find?_congr fun op hop => ?_
  rw [Bool.eq_iff_iff, List.isPrefixOf_iff_prefix, List.isPrefixOf_iff_prefix]
  refine ⟨fun h => ?_, fun h => h.trans (List.prefix_append _ _)⟩
  obtain ⟨rest, hrest⟩ := h
  rcases List.append_eq_append_iff.mp hrest with ⟨more, hs', -⟩ | ⟨more, hop', hmore⟩
  · exact ⟨more, hs'.symm⟩
  · cases more with
    | nil => exact ⟨[], by rw [hop', List.append_nil, List.append_nil]⟩
    | cons c more =>
      -- The operator would take in the character.
      obtain ⟨d, ds, rfl⟩ := List.exists_cons_of_ne_nil hs
      have hmem : y ∈ op.toList.drop 1 := by
        rw [hop', (List.cons.inj hmore).1]
        simp
      exact absurd hmem (hy.operator op hop)

include hy in
theorem SymbolAt.append_ends {x x' : Symbol} (hs : s ≠ []) (h : SymbolAt s x n)
    (hlonger : SymbolAt (s ++ y :: ys) x' m) : x' = x ∧ m = n ∧ n ≤ s.length := by
  have hmarks : stringMark? (s ++ y :: ys) = stringMark? s := stringMark?_append_ends hy hs
  have hstarts : StartsNumber (s ++ y :: ys) ↔ StartsNumber s := startsNumber_append_ends hy hs
  have hheads : (s ++ y :: ys).head? = s.head? := by
    obtain ⟨c, cs, rfl⟩ := List.exists_cons_of_ne_nil hs
    rfl
  -- What is added changes neither the marks nor the first character, so the kind stays the same.
  cases h with
  | string hmark h =>
    have hlength : n ≤ s.length := by
      obtain ⟨closing, t, r, hs', rfl, -⟩ := delimits_of_strictString? hmark h
      rw [hs']
      simp only [List.length_append]
      omega
    cases hlonger with
    | string hmark' h' =>
      cases (hmark.symm.trans hmarks.symm).trans hmark'
      cases (strictString?_append_ends hy hmark h).symm.trans h'
      rw [List.take_append_of_le_length hlength]
      exact ⟨rfl, rfl, hlength⟩
    | number hmark' | name hmark' | operator hmark' =>
      cases (hmark.symm.trans hmarks.symm).trans hmark'
  | number hmark hstart h hvalue =>
    cases hlonger with
    | string hmark' => cases (hmark.symm.trans hmarks.symm).trans hmark'
    | number hmark' hstart' h' hvalue' =>
      obtain rfl := strictNumber?_append_ends hy h h'
      have hlength : m ≤ s.length := by
        rw [strictNumber?_eq, Option.bind_eq_some_iff] at h
        obtain ⟨k, hk, hm⟩ := h
        obtain ⟨-, rfl⟩ : _ ∧ k = m := by simpa using hm
        exact numberStart?_le hk
      rw [List.take_append_of_le_length hlength, hvalue] at hvalue'
      cases hvalue'
      exact ⟨rfl, rfl, hlength⟩
    | name hmark' hstart' | operator hmark' hstart' => exact absurd (hstarts.mpr hstart) hstart'
  | name hmark hstart hname h =>
    cases hlonger with
    | string hmark' => cases (hmark.symm.trans hmarks.symm).trans hmark'
    | number hmark' hstart' => exact absurd (hstarts.mp hstart') hstart
    | name hmark' hstart' hname' h' =>
      have hword := nameSymbol?_append_ends hy h'
      rw [hword, h] at h'
      cases h'
      exact ⟨rfl, congrArg List.length hword, (List.takeWhile_prefix _).length_le⟩
    | operator hmark' hstart' hname' =>
      rw [hheads, hname] at hname'
      cases hname'
  | operator hmark hstart hname h =>
    cases hlonger with
    | string hmark' => cases (hmark.symm.trans hmarks.symm).trans hmark'
    | number hmark' hstart' => exact absurd (hstarts.mp hstart') hstart
    | name hmark' hstart' hname' =>
      rw [hheads, hname] at hname'
      cases hname'
    | operator hmark' hstart' hname' h' =>
      rw [find?_operators_append_ends hy hs, h] at h'
      cases h'
      have hfound := List.find?_some h
      have hprefix := List.isPrefixOf_iff_prefix.mp hfound
      exact ⟨rfl, rfl, String.length_toList ▸ hprefix.length_le⟩

end

/-! ## Texts before such a character -/

/-- A symbol that starts with a blank or a closing brace can only be an operator. -/
theorem EndsSymbol.exists_operator (hy : EndsSymbol y) {cs : List Char} {x : Symbol} {n : Nat}
    (h : symbol? y cs = some (x, n)) :
    ∃ op ∈ operators, x = .operator op ∧ op.toList.head? = some y := by
  cases symbol?_eq_some_iff.mp h with
  | string hmark _hlength =>
    rename_i mark
    obtain ⟨hletters, quote, rest, htext, hquote⟩ := stringMark?_eq_some hmark
    cases mark with
    | nil =>
      rw [← (List.cons.inj htext).1, hy.quote] at hquote
      cases hquote
    | cons c mark =>
      have hmem : y ∈ c :: mark := by
        rw [(List.cons.inj htext).1]
        exact List.mem_cons_self
      exact absurd (hletters.spec.2 y hmem) hy.mark
  | number hmark hstart =>
    have hpart : isNumberPart y = true := by
      rcases hstart with hdigit | ⟨d, rest, htext, -⟩
      · have hdigit : y.isDigit = true := hdigit
        simp [isNumberPart, hdigit]
      · rw [(List.cons.inj htext).1]
        decide
    rw [hy.number] at hpart
    cases hpart
  | name hmark hstart hname hword =>
    have hname : isNameChar y = true := hname
    have htail := isIdentifierTail_of_mem_name hword (by simp [hname] : y ∈ _)
    rw [hy.name] at htail
    cases htail
  | operator hmark hstart hname hop =>
    exact ⟨_, List.mem_of_find?_eq_some hop, rfl, head?_operator h⟩

theorem Reads.cons_cases {brackets cs : List Char} {symbols : List Symbol} {c : Char}
    (h : Reads brackets (c :: cs) symbols) :
    ((isInlineBlank c = true ∨ c = '\n') ∧ ∃ symbols, Reads brackets cs symbols) ∨
    c = '#' ∨ c = '\\' ∨
      startsSymbol c = true ∧ ∃ x n brackets' symbols, symbol? c cs = some (x, n) ∧
        x.after? brackets = some brackets' ∧ Reads brackets' (cs.drop (n - 1)) symbols := by
  cases h with
  | blank hc h => exact .inl ⟨.inl hc, _, h⟩
  | comment => exact .inr (.inl rfl)
  | lineBreak h => exact .inl ⟨.inr rfl, _, h⟩
  | lineEnd h => exact .inl ⟨.inr rfl, _, h⟩
  | continuation => exact .inr (.inr (.inl rfl))
  | symbol hc hx hbrackets h => exact .inr (.inr (.inr ⟨hc, _, _, _, _, hx, hbrackets, h⟩))

theorem not_reads_brace {blanks rest : List Char} {symbols : List Symbol}
    (hblanks : ∀ c ∈ blanks, isBlank c = true) :
    ¬ Reads [] (blanks ++ '\x7d' :: rest) symbols := by
  intro h
  induction blanks generalizing symbols with
  | nil =>
    rcases h.cons_cases with ⟨hblank | hfeed, -⟩ | hcomment | hslash |
      ⟨-, x, n, brackets, -, hx, hbrackets, -⟩
    · cases hblank
    · cases hfeed
    · cases hcomment
    · cases hslash
    · obtain ⟨op, -, rfl, hhead⟩ := endsSymbol_brace.exists_operator hx
      rw [Symbol.after?, hhead] at hbrackets
      cases hbrackets
  | cons c blanks ih =>
    have hblank := hblanks c List.mem_cons_self
    rcases h.cons_cases with ⟨-, _, h⟩ | rfl | rfl | ⟨-, x, n, brackets, -, hx, -⟩
    · exact ih (fun d hd => hblanks d (List.mem_cons_of_mem c hd)) h
    · cases hblank
    · cases hblank
    · obtain ⟨op, hop, rfl, hhead⟩ := (endsSymbol_of_isBlank hblank).exists_operator hx
      have hall : ∀ op ∈ operators, op.toList.head?.any isBlank = false := by decide
      have hnone := hall op hop
      rw [hhead, Option.any_some, hblank] at hnone
      cases hnone

/-- What is not read where all brackets are closed is not read behind an expression either. -/
theorem Reads.not_append {brackets u : List Char} {symbols symbols' : List Symbol}
    (h : Reads brackets u symbols) (hcomment : '#' ∉ u) (hslash : '\\' ∉ u) (hy : EndsSymbol y)
    (hrest : ∀ symbols, ¬ Reads [] (y :: ys) symbols) :
    ¬ Reads brackets (u ++ y :: ys) symbols' := by
  intro hlonger
  -- The longer text is read as `u` is, symbol by symbol, until only what was added is left.
  induction h generalizing symbols' with
  | done => exact hrest _ hlonger
  | comment => exact hcomment List.mem_cons_self
  | continuation => exact hslash List.mem_cons_self
  | blank hc h ih =>
    simp only [List.mem_cons, not_or] at hcomment hslash
    rcases hlonger.cons_cases with ⟨-, _, hlonger⟩ | rfl | rfl | ⟨hstart, -⟩
    · exact ih hcomment.2 hslash.2 hlonger
    · cases hc
    · cases hc
    · rw [startsSymbol, hc] at hstart
      cases hstart
  | lineBreak h ih | lineEnd h ih =>
    simp only [List.mem_cons, not_or] at hcomment hslash
    rcases hlonger.cons_cases with ⟨-, _, hlonger⟩ | hcase | hcase | ⟨hcase, -⟩
    · exact ih hcomment.2 hslash.2 hlonger
    · cases hcase
    · cases hcase
    · cases hcase
  | symbol hc hx hbrackets h ih =>
    rename_i brackets brackets' cs symbols c x n
    rcases hlonger.cons_cases with ⟨hblank | rfl, -⟩ | rfl | rfl | ⟨-, x', m, brackets'', _, hx',
      hbrackets', hlonger⟩
    · rw [startsSymbol, hblank] at hc
      cases hc
    · cases hc
    · cases hc
    · cases hc
    · obtain ⟨rfl, rfl, hlength⟩ :=
        (symbol?_eq_some_iff.mp hx).append_ends hy (List.cons_ne_nil c cs)
        (symbol?_eq_some_iff.mp hx')
      cases hbrackets.symm.trans hbrackets'
      rw [List.length_cons] at hlength
      rw [List.append_eq, List.drop_append_of_le_length (by omega)] at hlonger
      refine ih (fun hmem => hcomment ?_) (fun hmem => hslash ?_) hlonger
      · exact List.mem_cons_of_mem _ (List.mem_of_mem_drop hmem)
      · exact List.mem_cons_of_mem _ (List.mem_of_mem_drop hmem)

/-! ## Expressions before a closing brace -/

theorem reads_of_isExpression (h : isExpression s = true) :
    ∃ symbols, Reads [] (unifyLineEnds s) symbols := by
  obtain ⟨e, he⟩ := Option.isSome_iff_exists.mp h
  obtain ⟨symbols, hsymbols, -⟩ := Option.bind_eq_some_iff.mp he
  unfold symbols? leadingSymbols? at hsymbols
  obtain ⟨found, hfound, hrest⟩ := Option.bind_eq_some_iff.mp hsymbols
  obtain ⟨hindented, heq⟩ := Option.ite_none_left_eq_some.mp hrest
  exact ⟨found.symbols, reads_of_symbolsFrom hfound (by simpa using hindented)⟩

/-- Blanks and a closing brace behind an expression make it none, whatever follows. -/
theorem isExpression_append_brace {u blanks rest : List Char} (h : isExpression u = true)
    (hcomment : '#' ∉ u)
    (hslash : '\\' ∉ u) (hblanks : ∀ c ∈ blanks, isBlank c = true) (hfeed : '\n' ∉ blanks) :
    isExpression (u ++ (blanks ++ '\x7d' :: rest)) = false := by
  rw [← Bool.not_eq_true]
  intro hlonger
  obtain ⟨symbols, hreads⟩ := reads_of_isExpression h
  obtain ⟨symbols', hreads'⟩ := reads_of_isExpression hlonger
  have hhead : (blanks ++ '\x7d' :: rest).head? ≠ some '\n' := by
    cases blanks with
    | nil => simp
    | cons c cs =>
      rintro ⟨⟩
      exact hfeed List.mem_cons_self
  rw [unifyLineEnds_append hhead, unifyLineEnds_append (by simp),
    unifyLineEnds_cons (by decide)] at hreads'
  have hunified : ∀ c ∈ unifyLineEnds blanks, isBlank c = true := by
    intro c hc
    rcases mem_unifyLineEnds hc with rfl | hc
    · rfl
    · exact hblanks c hc
  have hcomment' : '#' ∉ unifyLineEnds u :=
    fun hmem => by simpa [hcomment] using mem_unifyLineEnds hmem
  have hslash' : '\\' ∉ unifyLineEnds u :=
    fun hmem => by simpa [hslash] using mem_unifyLineEnds hmem
  have hstray (symbols : List Symbol) :
      ¬ Reads [] (unifyLineEnds blanks ++ '\x7d' :: unifyLineEnds rest) symbols :=
    not_reads_brace hunified
  -- A blank or the brace itself comes next behind the expression.
  cases hnext : unifyLineEnds blanks with
  | nil =>
    rw [hnext] at hreads' hstray
    exact hreads.not_append hcomment' hslash' endsSymbol_brace hstray hreads'
  | cons y ys =>
    rw [hnext] at hreads' hstray hunified
    exact hreads.not_append hcomment' hslash'
      (endsSymbol_of_isBlank (hunified y List.mem_cons_self)) hstray hreads'

end Harvest.Source
