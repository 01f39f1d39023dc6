import Mathlib.Data.List.Find
import Harvest.Proofs.Source.LiteralValues

/-!
# Symbols as lexemes

The scanner goes line by line and tries numbers first, then operators, strings and names, while
symbols are read from the whole text. Where a symbol stands at the start of the rest of a line, the
scanner finds it too: as a token of the same length, or as a string that goes on after the line.
-/

namespace Harvest.Source

/-! ## The rest of a line -/

/-- The rest of a line, and the text that follows it. -/
inductive LineRest : List Char → List Char → Prop
  | last {line : List Char} (h : '\n' ∉ line) : LineRest line []
  | ended {u : List Char} (h : '\n' ∉ u) (more : List Char) : LineRest (u ++ ['\n']) more

variable {line more s : List Char}

/-- Text without a line feed at the start of the rest of a line belongs to that line. -/
theorem LineRest.split (h : LineRest line more) {w r : List Char} (hw : '\n' ∉ w)
    (hs : w ++ r = line ++ more) :
    ∃ r', line = w ++ r' ∧ r = r' ++ more ∧ LineRest r' more := by
  cases h with
  | last h =>
    rw [List.append_nil] at hs
    subst hs
    rw [List.mem_append, not_or] at h
    exact ⟨r, rfl, (List.append_nil r).symm, .last h.2⟩
  | ended h =>
    rename_i u
    rw [List.append_assoc] at hs
    rcases List.append_eq_append_iff.mp hs with ⟨v, rfl, rfl⟩ | ⟨v, rfl, hv⟩
    · rw [List.mem_append, not_or] at h
      refine ⟨v ++ ['\n'], by simp, by simp, .ended h.2 more⟩
    · cases v with
      | nil =>
        refine ⟨['\n'], by simp, ?_, .ended (u := []) List.not_mem_nil more⟩
        simpa using hv.symm
      | cons c v =>
        -- The line end would be in `w`.
        have hc : '\n' = c := (List.cons.inj hv).1
        rw [List.mem_append, not_or] at hw
        exact absurd (hc ▸ List.mem_cons_self) hw.2

theorem LineRest.feed (h : LineRest line more) {r : List Char} (hs : line ++ more = '\n' :: r) :
    line = ['\n'] ∧ more = r := by
  cases h with
  | last h =>
    rw [List.append_nil] at hs
    rw [hs] at h
    exact absurd List.mem_cons_self h
  | ended h =>
    rename_i u
    cases u with
    | nil => exact ⟨rfl, (List.cons.inj hs).2⟩
    | cons c u =>
      have hc : c = '\n' := (List.cons.inj hs).1
      exact absurd (hc ▸ List.mem_cons_self) h

/-! ## The order in which lexemes are tried -/

theorem lexeme?_of_startsSymbol {c : Char} (hc : startsSymbol c = true) (hreturn : c ≠ '\r')
    (cs : List Char) :
    lexeme? (c :: cs) = ((numberLength? (c :: cs)).map (.token .number)).or
      (((operatorLength? (c :: cs)).map (.token .operator)).or
        ((stringLexeme? (c :: cs)).or (wordLexeme? (c :: cs)))) := by
  rw [lexeme?.eq_def]
  split
  · rename_i heq
    exact absurd (List.cons.inj heq).1 (ne_of_startsSymbol hc (by decide))
  · rename_i heq
    exact absurd (List.cons.inj heq).1 (ne_of_startsSymbol hc (by decide))
  · rename_i heq
    exact absurd (List.cons.inj heq).1 (ne_of_startsSymbol hc (by decide))
  · rename_i heq
    exact absurd (List.cons.inj heq).1 (ne_of_startsSymbol hc (by decide))
  · rename_i heq
    exact absurd (List.cons.inj heq).1 hreturn
  · cases numberLength? (c :: cs) with
    | some n => rfl
    | none =>
      cases operatorLength? (c :: cs) with
      | some n => rfl
      | none => rfl

theorem StartsNumber.append (h : StartsNumber s) (r : List Char) : StartsNumber (s ++ r) := by
  rcases h with hdigit | ⟨c, rest, rfl, hc⟩
  · cases s with
    | nil => cases hdigit
    | cons c cs => exact .inl hdigit
  · exact .inr ⟨c, rest ++ r, rfl, hc⟩

theorem numberLength?_eq_none {c : Char} {cs : List Char} (h : ¬StartsNumber (c :: cs)) :
    numberLength? (c :: cs) = none := by
  have hc : c.isDigit = false := by
    rw [← Bool.not_eq_true]
    exact fun hc => h (.inl hc)
  have hdecimal : decimalLength? (c :: cs) = none := by simp [decimalLength?, hc]
  have hfloat : floatLength? (c :: cs) = none := by
    unfold floatLength?
    rw [hdecimal]
    dsimp only
    split
    · rename_i rest heq
      cases heq
      cases cs with
      | nil => rfl
      | cons d ds =>
        have hd : d.isDigit = false := by
          rw [← Bool.not_eq_true]
          exact fun hd => h (.inr ⟨d, ds, rfl, hd⟩)
        simp [decimalLength?, hd]
    · rfl
  have hzero : c ≠ '0' := by
    rintro rfl
    exact absurd hc (by decide)
  unfold numberLength?
  simp [hdecimal, hfloat, integerLength?_of_ne hzero]

theorem feed_notMem_operator {op : String} (h : op ∈ operators) : '\n' ∉ op.toList := by
  revert op
  decide

theorem operator_ne_nil {op : String} (h : op ∈ operators) : op.toList ≠ [] := by
  revert op
  decide

theorem operatorLength?_eq_none {c : Char} (h : (isNameChar c || isQuote c) = true)
    (cs : List Char) :
    operatorLength? (c :: cs) = none := by
  have hall : ∀ op ∈ operators, op.toList.head?.any (fun d => !(isNameChar d || isQuote d)) =
    true := by decide
  unfold operatorLength?
  rw [Option.map_eq_none_iff, List.find?_eq_none]
  intro op hop hprefix
  have hstart := hall op hop
  cases hop : op.toList with
  | nil =>
    rw [hop] at hstart
    cases hstart
  | cons d ds =>
    rw [hop] at hstart hprefix
    rw [List.isPrefixOf_cons_cons, Bool.and_eq_true] at hprefix
    rw [beq_iff_eq.mp hprefix.1, List.head?_cons, Option.any_some, h] at hstart
    cases hstart

theorem isNameChar_of_isWord {c : Char} (h : Text.isWord c = true) : isNameChar c = true := by
  unfold Text.isWord at h
  unfold isNameChar
  split at h
  · simp [h]
  · rename_i hc
    have hge : c.toNat ≥ 128 := by omega
    simp [hge]

/-! ## Symbols as lexemes -/

def Symbol.kind : Symbol → TokenKind
  | .name _ | .keyword _ => .name
  | .number _ => .number
  | .string _ => .string
  | .operator _ => .operator
  | .newline => .newline

def Symbol.isPlain : Symbol → Bool
  | .name text => text.toList.all Text.isWord
  | _ => true

theorem operator_isPrefixOf (h : LineRest line more) {op : List Char} (hop : '\n' ∉ op) :
    op.isPrefixOf (line ++ more) = op.isPrefixOf line := by
  rw [Bool.eq_iff_iff, List.isPrefixOf_iff_prefix, List.isPrefixOf_iff_prefix]
  constructor
  · rintro ⟨r, hr⟩
    obtain ⟨r', hline, -⟩ := h.split hop hr
    exact ⟨r', hline.symm⟩
  · exact fun hprefix => hprefix.trans (List.prefix_append line more)

theorem lexeme?_operator {c : Char} {cs : List Char} (hc : startsSymbol c = true)
    (hreturn : c ≠ '\r')
    (hline : LineRest (c :: cs) more) (hstart : ¬StartsNumber (c :: cs ++ more)) {op : String}
    (h : operators.find? (fun op => op.toList.isPrefixOf (c :: cs ++ more)) = some op) :
    lexeme? (c :: cs) = some (.token .operator op.length) := by
  have hfind : operators.find? (fun op => op.toList.isPrefixOf (c :: cs)) = some op := by
    rw [← h]
    apply List.find?_congr
    intro op hop
    exact (operator_isPrefixOf hline (feed_notMem_operator hop)).symm
  rw [lexeme?_of_startsSymbol hc hreturn, numberLength?_eq_none fun h => hstart (h.append more),
    operatorLength?, hfind]
  rfl

theorem lexeme?_number {c : Char} {cs : List Char} {n : Nat} (hc : startsSymbol c = true)
    (hreturn : c ≠ '\r')
    (hstart : StartsNumber (c :: cs ++ more)) (h : numberStart? (c :: cs ++ more) = some n)
    (hn : n ≤ (c :: cs).length) :
    lexeme? (c :: cs) = some (.token .number n) := by
  have hline : (c :: cs ++ more).take (c :: cs).length = c :: cs := List.take_left
  have hnumber : numberStart? (c :: cs) = some n := by
    rw [← hline]
    exact numberStart?_take h hn
  have hstart' : StartsNumber (c :: cs) := by
    have htake := hstart.take h
    rw [List.take_append_of_le_length hn] at htake
    rw [← List.take_append_drop n (c :: cs)]
    exact htake.append _
  rw [lexeme?_of_startsSymbol hc hreturn, numberLength?_of_numberStart? hnumber hstart']
  rfl

theorem lexeme?_name {c : Char} {cs w r : List Char} (hc : startsSymbol c = true)
    (hreturn : c ≠ '\r')
    (hmark : stringMark? (c :: cs) = none) (hstart : ¬StartsNumber (c :: cs))
    (hname : isNameChar c = true)
    (hw : c :: cs = w ++ r) (hwords : w.all Text.isWord = true)
    (hr : (r.head?.map isNameChar).getD false = false)
    (hfirst : Text.isIdentifierStart c = true) (hne : w ≠ []) :
    lexeme? (c :: cs) = some (.token .name w.length) := by
  have hrun : (c :: cs).takeWhile Text.isWord = w := by
    rw [hw, List.takeWhile_append_of_pos (List.all_eq_true.mp hwords)]
    cases r with
    | nil => exact List.append_nil w
    | cons d ds =>
      have hd : ¬Text.isWord d = true := fun hd => by
        have hname : isNameChar d = false := hr
        rw [isNameChar_of_isWord hd] at hname
        cases hname
      rw [List.takeWhile_cons_of_neg hd, List.append_nil]
  have hword : wordLexeme? (c :: cs) = some (.token .name w.length) := by
    obtain ⟨d, ds, rfl⟩ := List.exists_cons_of_ne_nil hne
    unfold wordLexeme? Text.runLength
    simp only [hrun, List.length_cons, List.head?_cons, Option.map_some,
      Option.getD_some, hfirst, if_true]
  have hstring : stringLexeme? (c :: cs) = none := by
    unfold stringLexeme?
    rw [hmark]
  rw [lexeme?_of_startsSymbol hc hreturn, numberLength?_eq_none hstart,
    operatorLength?_eq_none (by simp [hname]),
    hstring, hword]
  rfl

theorem Delimits.start {mark t r rest : List Char} {closing : Closing}
    (h : Delimits mark closing t r) {c : Char}
    {cs : List Char} (hs : mark ++ (closing.opening ++ rest) = c :: cs) :
    (isNameChar c || isQuote c) = true ∧ ¬StartsNumber (c :: cs) := by
  have hletters : ∀ d ∈ "brufBRUF".toList, (isNameChar d && !d.isDigit && d != '.') = true :=
    List.all_eq_true.mp (by decide)
  have hquotes : ∀ d, isQuote d = true → d.isDigit = false ∧ d ≠ '.' := by
    intro d hd
    simp only [isQuote, Bool.or_eq_true, beq_iff_eq] at hd
    rcases hd with rfl | rfl <;> decide
  have hnone (hdigit : c.isDigit = false) (hdot : c ≠ '.') : ¬StartsNumber (c :: cs) := by
    rintro (hc | ⟨d, ds, heq, -⟩)
    · rw [List.head?_cons, Option.map_some, Option.getD_some, hdigit] at hc
      cases hc
    · exact hdot (List.cons.inj heq).1
  cases mark with
  | nil =>
    obtain ⟨quotes, hopening⟩ := closing.exists_opening
    rw [hopening] at hs
    have hc : closing.quote = c := (List.cons.inj hs).1
    obtain ⟨hdigit, hdot⟩ := hquotes c (hc ▸ h.quote)
    exact ⟨by simp [← hc, h.quote], hnone hdigit hdot⟩
  | cons d mark =>
    have hc : d = c := (List.cons.inj hs).1
    have hletter := hletters c (h.mark.spec.2 c (hc ▸ List.mem_cons_self))
    simp only [Bool.and_eq_true, Bool.not_eq_true', bne_iff_ne] at hletter
    obtain ⟨⟨hname, hdigit⟩, hdot⟩ := hletter
    exact ⟨by simp [hname], hnone hdigit hdot⟩

theorem lexeme?_string {c : Char} {cs mark t r rest : List Char} {closing : Closing}
    (hc : startsSymbol c = true)
    (hreturn : c ≠ '\r') (h : Delimits mark closing t r)
    (hs : mark ++ (closing.opening ++ rest) = c :: cs) {lexeme : Lexeme}
    (hlexeme : stringLexeme? (c :: cs) = some lexeme) : lexeme? (c :: cs) = some lexeme := by
  obtain ⟨hfirst, hstart⟩ := h.start hs
  rw [lexeme?_of_startsSymbol hc hreturn, numberLength?_eq_none hstart,
    operatorLength?_eq_none hfirst, hlexeme]
  rfl

theorem stringLexeme?_closed {mark t r : List Char} {closing : Closing}
    (h : Delimits mark closing t r) (hlength : closing.length? (t ++ r) = some t.length)
    (htail : closing.triple = false → stringTail? closing.quote (t ++ r) =
      some (.closed t.length)) :
    stringLexeme? (mark ++ (closing.opening ++ (t ++ r))) =
      some (.token .string (mark ++ (closing.opening ++ t)).length) := by
  unfold stringLexeme?
  rw [h.stringMark?]
  dsimp only
  rw [List.drop_left]
  obtain ⟨quote, triple⟩ := closing
  cases triple with
  | true =>
    have hlength : tripleCloseLength? quote (t ++ r) = some t.length := hlength
    simp [Closing.opening, hlength]
    omega
  | false =>
    have hsingle : ((t ++ r).take 2 == [quote, quote]) = false := by simpa using h.single rfl
    simp [Closing.opening, hsingle, htail rfl]
    omega

theorem stringLexeme?_opened {mark t r u : List Char} {closing : Closing}
    (h : Delimits mark closing t r)
    (hsingle : closing.triple = false → (u ++ ['\n']).take 2 ≠ [closing.quote, closing.quote])
    (hlength : closing.length? (u ++ ['\n']) = none)
    (htail : closing.triple = false → stringTail? closing.quote (u ++ ['\n']) = some .continued) :
    stringLexeme? (mark ++ (closing.opening ++ (u ++ ['\n']))) = some (.openString closing) := by
  unfold stringLexeme?
  rw [h.stringMark?]
  dsimp only
  rw [List.drop_left]
  obtain ⟨quote, triple⟩ := closing
  cases triple with
  | true =>
    have hlength : tripleCloseLength? quote (u ++ ['\n']) = none := hlength
    simp [Closing.opening, hlength]
  | false =>
    have hsingle : ((u ++ ['\n']).take 2 == [quote, quote]) = false := by simpa using hsingle rfl
    simp [Closing.opening, hsingle, htail rfl]

def Symbol.SpelledBy (text : List Char) : Symbol → Prop
  | .operator op => String.ofList text = op ∧ op ∈ operators
  | .number value => IsLiteral text (.number value)
  | .string l => text = l ∧ IsLiteral l (.string l) ∧ (isFormatted l = true → isBytes l = false)
  | _ => True

/-- How the scanner finds a symbol that starts the rest of a line. -/
inductive Lexed (line more : List Char) (x : Symbol) (n : Nat) : Prop
  /-- The symbol is a token of the line. -/
  | within {w r : List Char} (hline : line = w ++ r) (hne : w ≠ []) (hlength : w.length = n)
      (hrest : LineRest r more)
      (hlexeme : lexeme? line = some (.token x.kind n)) (hspelled : x.SpelledBy w)
  /-- The symbol is a string that goes on after the line. -/
  | opened {closing : Closing} {t r : List Char} (hmore : more = t ++ r)
      (hlength : (line ++ t).length = n)
      (hcloses : Closes closing t) (hquote : isQuote closing.quote = true)
      (hlexeme : lexeme? line = some (.openString closing)) (hx : x = .string (line ++ t))
      (hspelled : x.SpelledBy (line ++ t))

theorem LineRest.eq_nil (h : LineRest line more) (hline : line = []) : more = [] := by
  cases h with
  | last => rfl
  | ended => simp at hline

theorem LineRest.exists_cons (h : LineRest line more) {c : Char} {cs : List Char}
    (hs : c :: cs = line ++ more) :
    ∃ line', line = c :: line' ∧ cs = line' ++ more := by
  cases line with
  | nil =>
    rw [h.eq_nil rfl] at hs
    cases hs
  | cons d line' =>
    obtain ⟨rfl, rfl⟩ := List.cons.inj hs
    exact ⟨line', rfl, rfl⟩

section

variable {c : Char} {cs : List Char} {x : Symbol} {n : Nat}

theorem lexed_number {value : Constant} (h : SymbolAt (c :: cs ++ more) (.number value) n)
    (hline : LineRest (c :: cs) more) (hc : startsSymbol c = true)
    (hclean : ∀ d ∈ c :: cs ++ more, d ≠ '\r' ∧ d ≠ '\x00') :
    Lexed (c :: cs) more (.number value) n := by
  obtain ⟨hn, halone⟩ := h.number_take
  cases h with
  | name hmark hstart hname h => rcases (nameSymbol?_eq_some h).1 with ⟨heq, -⟩ | heq <;> cases heq
  | number hmark hstart h hvalue =>
    rw [strictNumber?_eq] at h
    obtain ⟨k, hk, hend⟩ := Option.bind_eq_some_iff.mp h
    obtain ⟨-, heq⟩ := Option.ite_none_right_eq_some.mp hend
    cases heq
    generalize hw : (c :: cs ++ more).take n = w at halone
    have hlength : w.length = n := by
      rw [← hw]
      exact List.length_take_of_le hn
    have hfeed : '\n' ∉ w := hw ▸ notMem_number (by decide) hk
    obtain ⟨r, hr, -, hrest⟩ := hline.split hfeed (hw ▸ List.take_append_drop n (c :: cs ++ more))
    have hcons : ∃ w', w = c :: w' := by
      cases w with
      | nil =>
        rcases hw ▸ hstart.take hk with hnil | ⟨_, _, heq, -⟩
        · cases hnil
        · cases heq
      | cons d w' =>
        obtain rfl : c = d := (List.cons.inj hr).1
        exact ⟨w', rfl⟩
    obtain ⟨w', rfl⟩ := hcons
    have hn : n ≤ (c :: cs).length := by
      rw [hr, List.length_append]
      omega
    refine .within hr (List.cons_ne_nil c w') hlength hrest
      (lexeme?_number hc (hclean c List.mem_cons_self).1 hstart hk hn) ?_
    refine isLiteral_of_symbolAt hc (hlength ▸ halone) nofun fun d hd => hclean d ?_
    rw [hr, List.append_assoc]
    exact List.mem_append_left _ hd

theorem lexed_operator {op : String} (h : SymbolAt (c :: cs ++ more) (.operator op) n)
    (hline : LineRest (c :: cs) more) (hc : startsSymbol c = true) (hreturn : c ≠ '\r') :
    Lexed (c :: cs) more (.operator op) n := by
  cases h with
  | name hmark hstart hname h => rcases (nameSymbol?_eq_some h).1 with ⟨heq, -⟩ | heq <;> cases heq
  | operator hmark hstart hname h =>
    have hmem := List.mem_of_find?_eq_some h
    have hlexeme := lexeme?_operator hc hreturn hline hstart h
    have hfound := List.find?_some h
    obtain ⟨r, hr⟩ := List.isPrefixOf_iff_prefix.mp hfound
    obtain ⟨r', hr', -, hrest⟩ := hline.split (feed_notMem_operator hmem) hr
    exact .within hr' (operator_ne_nil hmem) String.length_toList hrest hlexeme
      ⟨String.ofList_toList, hmem⟩

theorem lexed_name {x : Symbol} (hmark : stringMark? (c :: cs ++ more) = none)
    (hstart : ¬StartsNumber (c :: cs ++ more)) (hname : isNameChar c = true)
    (h : nameSymbol? ((c :: cs ++ more).takeWhile isNameChar) = some x)
    (hplain : x.isPlain = true) (hline : LineRest (c :: cs) more) (hc : startsSymbol c = true)
    (hreturn : c ≠ '\r') :
    Lexed (c :: cs) more x ((c :: cs ++ more).takeWhile isNameChar).length := by
  generalize hw : (c :: cs ++ more).takeWhile isNameChar = w at h
  obtain ⟨hx, hfirst⟩ := nameSymbol?_eq_some h
  have hreserved : ∀ text ∈ reservedNames, text.toList.all Text.isWord = true := by decide
  have hwords : w.all Text.isWord = true ∧ x.kind = .name ∧ x.SpelledBy w := by
    rcases hx with ⟨rfl, hkeyword⟩ | rfl
    · have hwords := hreserved _ hkeyword
      rw [String.toList_ofList] at hwords
      exact ⟨hwords, rfl, trivial⟩
    · have hwords : (String.ofList w).toList.all Text.isWord = true := hplain
      rw [String.toList_ofList] at hwords
      exact ⟨hwords, rfl, trivial⟩
  have hall : ∀ d ∈ w, isNameChar d = true := fun d hd =>
    isNameChar_of_isWord (List.all_eq_true.mp hwords.1 d hd)
  have hfeed : '\n' ∉ w := fun hmem => absurd (hall _ hmem) (by decide)
  have hsplit : w ++ (c :: cs ++ more).dropWhile isNameChar = c :: cs ++ more :=
    hw ▸ List.takeWhile_append_dropWhile
  obtain ⟨r, hr, hdrop, hrest⟩ := hline.split hfeed hsplit
  have hend : (r.head?.map isNameChar).getD false = false := by
    cases r with
    | nil => rfl
    | cons d r =>
      have hd := List.head?_dropWhile_not isNameChar (c :: cs ++ more)
      rw [hdrop] at hd
      simpa using hd
  have hcons : ∃ w', w = c :: w' := ⟨(cs ++ more).takeWhile isNameChar, by
    rw [← hw, List.cons_append, List.takeWhile_cons_of_pos hname]⟩
  obtain ⟨w', rfl⟩ := hcons
  refine .within hr (List.cons_ne_nil c w') rfl hrest ?_ hwords.2.2
  rw [hwords.2.1]
  exact lexeme?_name hc hreturn (stringMark?_eq_none_of_append hmark)
    (fun h => hstart (h.append more)) hname hr
    hwords.1
    hend hfirst (List.cons_ne_nil c w')

theorem lexed_string {l : List Char} (h : SymbolAt (c :: cs ++ more) (.string l) n)
    (hline : LineRest (c :: cs) more) (hc : startsSymbol c = true)
    (hclean : ∀ d ∈ c :: cs ++ more, d ≠ '\r' ∧ d ≠ '\x00') :
    Lexed (c :: cs) more (.string l) n := by
  obtain ⟨mark, closing, t, r, hl, rfl, hs, hdelimits⟩ := h.delimits
  have halone := symbolAt_of_delimits (hdelimits.of_prefix List.nil_prefix) hl
  have hreturn : c ≠ '\r' := (hclean c List.mem_cons_self).1
  have hcons : ∃ l', l = c :: l' := by
    cases l with
    | nil =>
      obtain ⟨quotes, hopening⟩ := closing.exists_opening
      rw [hopening] at hl
      simp at hl
    | cons d l' =>
      obtain rfl : c = d := (List.cons.inj hs).1
      exact ⟨l', rfl⟩
  have hliteral : IsLiteral l (.string l) := by
    obtain ⟨l', rfl⟩ := hcons
    refine isLiteral_of_symbolAt hc halone nofun fun d hd => hclean d ?_
    rw [hs]
    exact List.mem_append_left r hd
  have hspelled : (Symbol.string l).SpelledBy l :=
    ⟨rfl, hliteral, fun hformatted => hl ▸ hdelimits.isBytes_of_isFormatted (hl ▸ hformatted)⟩
  have hopening : '\n' ∉ mark ++ closing.opening := by
    rw [List.mem_append, not_or]
    constructor
    · exact fun hmem => absurd (hdelimits.mark.spec.2 _ hmem) (by decide)
    · intro hmem
      have hquote := hdelimits.quote
      rw [← Closing.eq_quote_of_mem_opening hmem] at hquote
      exact absurd hquote (by decide)
  have hends : LineEnds closing t := by
    apply hdelimits.closes.lineEnds hdelimits.quote
    intro hmem
    refine (hclean '\r' ?_).1 rfl
    rw [hs, hl]
    simp [hmem]
  -- Up to where the first line of the string ends, the symbol and the lexeme are the same text.
  cases hends with
  | closed hfeed hlength htail =>
    have hnone : '\n' ∉ l := by
      rw [hl, ← List.append_assoc, List.mem_append, not_or]
      exact ⟨hopening, hfeed⟩
    obtain ⟨r', hr', hr, hrest⟩ := hline.split hnone hs.symm
    have hne : l ≠ [] := by
      obtain ⟨l', rfl⟩ := hcons
      exact List.cons_ne_nil c l'
    refine .within hr' hne rfl hrest ?_ hspelled
    have hdelimits' : Delimits mark closing t r' := hdelimits.of_prefix ⟨more, hr.symm⟩
    have hshape : mark ++ (closing.opening ++ (t ++ r')) = c :: cs := by
      rw [hr', hl]
      simp
    apply lexeme?_string hc hreturn hdelimits' hshape
    rw [← hshape, stringLexeme?_closed hdelimits' (hlength r') fun hsingle => htail hsingle r', hl]
    rfl
  | opened ht hfeed hcloses hlength hmark =>
    rename_i u t'
    have hnone : '\n' ∉ mark ++ closing.opening ++ u := by
      rw [List.mem_append, not_or]
      exact ⟨hopening, hfeed⟩
    have hs' : mark ++ closing.opening ++ u ++ '\n' :: (t' ++ r) = c :: cs ++ more := by
      rw [hs, hl, ht]
      simp
    obtain ⟨r', hr', hr, hrest⟩ := hline.split hnone hs'
    obtain ⟨rfl, rfl⟩ := hrest.feed hr.symm
    have hshape : mark ++ (closing.opening ++ (u ++ ['\n'])) = c :: cs := by
      rw [hr']
      simp
    have hl' : l = c :: cs ++ t' := by
      rw [hr', hl, ht]
      simp
    have hsingle : closing.triple = false →
        (u ++ ['\n']).take 2 ≠ [closing.quote, closing.quote] := by
      intro hkind htake
      apply hdelimits.single hkind
      refine take_two_of_isPrefix ⟨t' ++ r, ?_⟩ htake
      rw [ht]
      simp
    refine .opened rfl (by rw [hl']) hcloses hdelimits.quote ?_ (by rw [hl']) (hl' ▸ hspelled)
    apply lexeme?_string hc hreturn hdelimits hshape
    rw [← hshape]
    exact stringLexeme?_opened hdelimits hsingle hlength fun hsingle => (hmark hsingle).2

theorem lexed_of_symbol? (hs : c :: cs = line ++ more) (h : symbol? c cs = some (x, n))
    (hplain : x.isPlain = true) (hline : LineRest line more) (hc : startsSymbol c = true)
    (hclean : ∀ d ∈ c :: cs, d ≠ '\r' ∧ d ≠ '\x00') : Lexed line more x n := by
  obtain ⟨line, rfl, rfl⟩ := hline.exists_cons hs
  have hreturn := (hclean c List.mem_cons_self).1
  have h := symbol?_eq_some_iff.mp h
  cases hx : h with
  | string => exact lexed_string h hline hc hclean
  | number => exact lexed_number h hline hc hclean
  | name hmark hstart hname hword =>
    exact lexed_name hmark hstart hname hword hplain hline hc hreturn
  | operator => exact lexed_operator h hline hc hreturn

end

end Harvest.Source
