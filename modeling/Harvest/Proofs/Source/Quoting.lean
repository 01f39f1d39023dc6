import Harvest.Proofs.Text.Lines
import Harvest.Source.Literal

/-!
# Quoted texts

Every text can be written as a string literal in single quotes, with escapes for the characters that
cannot stand in one. The scanner finds the end of such a literal, and its value is the text.
-/

namespace Harvest.Source

/-- May the character stand for itself in a literal in single quotes? -/
def isPlain (c : Char) : Bool := c != '\\' && c != '\'' && 0x20 ≤ c.toNat

/-- A character in a literal: itself, or an escape with the two hexadecimal digits of its code. -/
def quoteChar (c : Char) : List Char :=
  if isPlain c then [c]
  else ['\\', 'x', Nat.digitChar (c.toNat / 16), Nat.digitChar (c.toNat % 16)]

def quoteBody (s : List Char) : List Char := s.flatMap quoteChar

def quote (s : List Char) : List Char := '\'' :: quoteBody s ++ ['\'']

/-- How the body of a literal stands for a text. -/
inductive StandsFor : List Char → List Char → Prop
  | nil : StandsFor [] []
  | plain {c : Char} {body s : List Char} (hc : isPlain c = true) (h : StandsFor body s) :
      StandsFor (c :: body) (c :: s)
  | escape {c : Char} {body s : List Char} (hc : c.toNat < 256) (h : StandsFor body s) :
      StandsFor
        ('\\' :: 'x' :: Nat.digitChar (c.toNat / 16) :: Nat.digitChar (c.toNat % 16) :: body)
        (c :: s)

theorem toNat_lt_of_not_isPlain {c : Char} (hc : ¬isPlain c = true) : c.toNat < 256 := by
  unfold isPlain at hc
  by_cases hslash : c = '\\'
  · rw [hslash]; decide
  · by_cases hquote : c = '\''
    · rw [hquote]; decide
    · simp [hslash, hquote] at hc
      omega

theorem standsFor_quoteBody (s : List Char) : StandsFor (quoteBody s) s := by
  induction s with
  | nil => exact .nil
  | cons c s ih =>
    unfold quoteBody
    rw [List.flatMap_cons, quoteChar]
    split
    · rename_i hc
      exact .plain hc ih
    · rename_i hc
      exact .escape (toNat_lt_of_not_isPlain hc) ih

/-! ## The characters of a literal -/

theorem hexValue?_digitChar {d : Nat} (hd : d < 16) : hexValue? (Nat.digitChar d) = some d := by
  revert d
  decide

theorem isHexDigit_digitChar {d : Nat} (hd : d < 16) : isHexDigit (Nat.digitChar d) = true := by
  revert d
  decide

theorem isPlain_digitChar {d : Nat} (hd : d < 16) : isPlain (Nat.digitChar d) = true := by
  revert d
  decide

theorem isPlain_iff {c : Char} : isPlain c = true ↔ c ≠ '\\' ∧ c ≠ '\'' ∧ 0x20 ≤ c.toNat := by
  simp [isPlain, and_assoc]

theorem StandsFor.of_mem {body s : List Char} (h : StandsFor body s) :
    ∀ c ∈ body, c ≠ '\'' ∧ 0x20 ≤ c.toNat := by
  have hplain {d : Char} (hd : isPlain d = true) : d ≠ '\'' ∧ 0x20 ≤ d.toNat :=
    (isPlain_iff.mp hd).2
  induction h with
  | nil => simp
  | plain hc _ ih =>
    rw [List.forall_mem_cons]
    exact ⟨hplain hc, ih⟩
  | escape hc _ ih =>
    simp only [List.forall_mem_cons]
    exact ⟨by decide, by decide, hplain (isPlain_digitChar (by omega)),
      hplain (isPlain_digitChar (by omega)), ih⟩

theorem notMem_quote (s : List Char) {c : Char} (hc : c.toNat < 0x20) : c ∉ quote s := by
  have hne : c ≠ '\'' := by rintro rfl; revert hc; decide
  have hbody : c ∉ quoteBody s := by
    intro hmem
    have hcode := ((standsFor_quoteBody s).of_mem c hmem).2
    omega
  simp [quote, hne, hbody]

theorem StandsFor.take_two {body s : List Char} (h : StandsFor body s) (rest : List Char)
    (hrest : rest.head? ≠ some '\'') :
    ((body ++ '\'' :: rest).take 2 == ['\'', '\'']) = false := by
  rw [beq_eq_false_iff_ne]
  cases body with
  | nil => cases rest <;> simp_all
  | cons c body =>
    have hc : c ≠ '\'' := (h.of_mem c List.mem_cons_self).1
    simp [hc]

/-! ## Where a literal ends -/

theorem stringTail?_plain {c : Char} {cs : List Char} {n : Nat} (hc : isPlain c = true)
    (h : stringTail? '\'' cs = some (.closed n)) :
    stringTail? '\'' (c :: cs) = some (.closed (n + 1)) := by
  obtain ⟨hslash, hquote, hcode⟩ := isPlain_iff.mp hc
  have hfeed : c ≠ '\n' := by rintro rfl; revert hcode; decide
  rw [stringTail?.eq_def]
  split <;> simp_all

theorem stringTail?_backslash {cs : List Char} {n : Nat}
    (h : stringTail? '\'' cs = some (.closed n)) :
    stringTail? '\'' ('\\' :: 'x' :: cs) = some (.closed (n + 2)) := by
  change Option.map _ (stringTail? '\'' cs) = _
  rw [h]
  rfl

theorem StandsFor.stringTail? {body s : List Char} (h : StandsFor body s) (rest : List Char) :
    stringTail? '\'' (body ++ '\'' :: rest) = some (.closed (body.length + 1)) := by
  induction h with
  | nil => rfl
  | plain hc _ ih => exact stringTail?_plain hc ih
  | escape hc _ ih =>
    -- The backslash takes the letter after it along, and the two digits are plain.
    apply stringTail?_backslash
    apply stringTail?_plain (isPlain_digitChar (by omega))
    exact stringTail?_plain (isPlain_digitChar (by omega)) ih

theorem closeLength?_plain {c : Char} {cs : List Char} {n : Nat} (hc : isPlain c = true)
    (h : closeLength? ⟨'\'', false⟩ cs = some n) :
    closeLength? ⟨'\'', false⟩ (c :: cs) = some (n + 1) := by
  obtain ⟨hslash, hquote, hcode⟩ := isPlain_iff.mp hc
  have hfeed : c ≠ '\n' := by rintro rfl; revert hcode; decide
  rw [closeLength?.eq_def]
  split <;> simp_all

theorem closeLength?_backslash {cs : List Char} {n : Nat}
    (h : closeLength? ⟨'\'', false⟩ cs = some n) :
    closeLength? ⟨'\'', false⟩ ('\\' :: 'x' :: cs) = some (n + 2) := by
  change Option.map _ (closeLength? ⟨'\'', false⟩ cs) = _
  rw [h]
  rfl

theorem StandsFor.closeLength? {body s : List Char} (h : StandsFor body s) (rest : List Char) :
    closeLength? ⟨'\'', false⟩ (body ++ '\'' :: rest) = some (body.length + 1) := by
  induction h with
  | nil => rfl
  | plain hc _ ih => exact closeLength?_plain hc ih
  | escape hc _ ih =>
    apply closeLength?_backslash
    apply closeLength?_plain (isPlain_digitChar (by omega))
    exact closeLength?_plain (isPlain_digitChar (by omega)) ih

/-! ## What a literal stands for -/

theorem hexDigits?_digitChar {n : Nat} (hn : n < 256) (rest : List Char) :
    hexDigits? 2 (Nat.digitChar (n / 16) :: Nat.digitChar (n % 16) :: rest) = some n := by
  have hhigh : n / 16 < 16 := by omega
  have hlow : n % 16 < 16 := by omega
  have hvalue : digitsValue 16 [Nat.digitChar (n / 16), Nat.digitChar (n % 16)] = n := by
    simp only [digitsValue, List.filterMap_cons, hexValue?_digitChar hhigh,
      hexValue?_digitChar hlow, List.filterMap_nil, Text.ofDigits]
    simp
    omega
  simp [hexDigits?, isHexDigit_digitChar hhigh, isHexDigit_digitChar hlow, hvalue]

theorem charOfCode_toNat (c : Char) : charOfCode c.toNat = c := by
  unfold charOfCode
  rw [if_pos (show c.toNat.isValidChar from c.valid), Char.ofNat_toNat]

theorem unescapeFrom_plain (names : String → Option Char) {c : Char} (hc : c ≠ '\\')
    (cs : List Char) :
    unescapeFrom names 0 (c :: cs) = (unescapeFrom names 0 cs).map (c :: ·) := by
  rw [unescapeFrom.eq_def]
  exact if_neg hc

theorem unescapeFrom_escape (names : String → Option Char) {c : Char} (hc : c.toNat < 256)
    (cs : List Char) :
    unescapeFrom names 0
        ('\\' :: 'x' :: Nat.digitChar (c.toNat / 16) :: Nat.digitChar (c.toNat % 16) :: cs) =
      (unescapeFrom names 0 cs).map (c :: ·) := by
  have hescape : escape? names 'x'
      (Nat.digitChar (c.toNat / 16) :: Nat.digitChar (c.toNat % 16) :: cs) = some ([c], 2) := by
    change (hexDigits? 2 _).map _ = _
    rw [hexDigits?_digitChar hc, Option.map_some, charOfCode_toNat]
  simp only [unescapeFrom, ↓reduceIte, hescape, List.singleton_append]

theorem StandsFor.unescape {body s : List Char} (h : StandsFor body s)
    (names : String → Option Char) : unescape names body = some s := by
  unfold Source.unescape
  induction h with
  | nil => rfl
  | plain hc _ ih => rw [unescapeFrom_plain names (isPlain_iff.mp hc).1, ih, Option.map_some]
  | escape hc _ ih => rw [unescapeFrom_escape names hc, ih, Option.map_some]

theorem ofLiteral_quote (s : List Char) : StringParts.ofLiteral (quote s) = ⟨[], quoteBody s⟩ := by
  unfold StringParts.ofLiteral quote
  cases hbody : quoteBody s with
  | nil => rfl
  | cons c body =>
    -- The quote that opens the literal is not the first of three, since `c` is none.
    have hc : c ≠ '\'' :=
      ((standsFor_quoteBody s).of_mem c (by rw [hbody]; exact List.mem_cons_self)).1
    cases body <;> simp [isQuote, Ne.symm hc]

theorem joinStrings_quote (expression : List Char → Bool) (s : List Char) :
    joinStrings expression [quote s] = some (.constant (.text (String.ofList s))) := by
  have htext : unescape Text.characterNamed? (quoteBody s) = some s :=
    (standsFor_quoteBody s).unescape _
  simp [joinStrings, ofLiteral_quote, htext]

/-! ## Reading a literal as an expression -/

theorem symbol?_quote (s : List Char) :
    symbol? '\'' (quoteBody s ++ ['\'']) = some (.string (quote s), (quote s).length) := by
  have hbody := standsFor_quoteBody s
  have hmark : stringMark? ('\'' :: (quoteBody s ++ ['\''])) = some [] := rfl
  have hlength : strictString? [] ('\'' :: (quoteBody s ++ ['\''])) = some (quote s).length := by
    unfold strictString?
    simp only [List.length_nil, List.drop_zero]
    rw [hbody.take_two [] (by simp), hbody.closeLength?]
    simp [quote]
  unfold symbol?
  simp only [hmark, hlength, Option.map_some]
  rw [show '\'' :: (quoteBody s ++ ['\'']) = quote s from rfl, List.take_length]

theorem symbols?_quote (s : List Char) : symbols? (quote s) = some [.string (quote s)] := by
  have hends : Text.unifyLineEnds (quote s) = quote s :=
    Text.unifyLineEnds_of_notMem (notMem_quote s (by decide))
  have hrest : (quoteBody s ++ ['\'']).drop ((quote s).length - 1) = [] := by simp [quote]
  have hfrom (fuel : Nat) : symbolsFrom (fuel + 3) .lineStart [] (quote s) =
      some { symbols := [.string (quote s)] } := by
    change symbolsFrom (fuel + 2) .within [] ('\'' :: (quoteBody s ++ ['\''])) = _
    simp only [symbolsFrom]
    rw [symbol?_quote]
    simp [hrest, Symbols.cons]
  have hfuel : 2 * (quote s).length + 2 = 2 * (quoteBody s).length + 3 + 3 := by
    simp [quote]
    omega
  unfold symbols? leadingSymbols?
  simp only [hends]
  rw [hfuel, hfrom]
  rfl

namespace Grammar

section StringOnly

variable {strings : Strings} {literal : List Char} {e : Expr} {n : Nat}

theorem parse_primary_string (hvalue : strings [literal] = some e) :
    parse strings (n + 2) .primary [.string literal] = some (e, []) := by
  have hatom : parse strings (n + 1) .atom [.string literal] = some (e, []) := by
    simp [parse, body, atom, stringRun, hvalue]
  have htrailers : parse strings (n + 1) (.trailers e) [] = some (e, []) := rfl
  change primary (parse strings (n + 1)) [.string literal] = _
  simp [primary, hatom, htrailers]

theorem parse_power_string
    (hprimary : parse strings n .primary [.string literal] = some (e, [])) :
    parse strings (n + 1) .power [.string literal] = some (e, []) := by
  change power (parse strings n) [.string literal] = _
  simp [power, awaited, keyword?, operator?, hprimary]

theorem parse_factor_string
    (hpower : parse strings n .power [.string literal] = some (e, [])) :
    parse strings (n + 1) .factor [.string literal] = some (e, []) := hpower

theorem parse_binary_last_string
    (hfactor : parse strings n .factor [.string literal] = some (e, [])) :
    parse strings (n + 1) (.binary binaryLevels.length) [.string literal] = some (e, []) := hfactor

theorem parse_binary_string {level : Nat} (hlevel : level < binaryLevels.length)
    (hnext : parse strings (n + 1) (.binary (level + 1)) [.string literal] = some (e, [])) :
    parse strings (n + 2) (.binary level) [.string literal] = some (e, []) := by
  have htail : parse strings (n + 1) (.binaryTail level e) [] = some (e, []) := rfl
  change binary (parse strings (n + 1)) level [.string literal] = _
  unfold binary
  rw [if_pos hlevel, hnext]
  exact htail

theorem parse_comparison_string
    (hbinary : parse strings n (.binary 0) [.string literal] = some (e, [])) :
    parse strings (n + 1) .comparison [.string literal] = some (e, []) := by
  change comparison (parse strings n) [.string literal] = _
  simp [comparison, comparisonOperator?, hbinary]

theorem parse_inversion_string
    (hcomparison : parse strings n .comparison [.string literal] = some (e, [])) :
    parse strings (n + 1) .inversion [.string literal] = some (e, []) := hcomparison

theorem parse_conjunction_string
    (hinversion : parse strings n .inversion [.string literal] = some (e, [])) :
    parse strings (n + 1) .conjunction [.string literal] = some (e, []) := by
  change conjunction (parse strings n) [.string literal] = _
  simp [conjunction, keyword?, hinversion]

theorem parse_disjunction_string
    (hconjunction : parse strings n .conjunction [.string literal] = some (e, [])) :
    parse strings (n + 1) .disjunction [.string literal] = some (e, []) := by
  change disjunction (parse strings n) [.string literal] = _
  simp [disjunction, keyword?, hconjunction]

theorem parse_expression_string
    (hdisjunction : parse strings n .disjunction [.string literal] = some (e, [])) :
    parse strings (n + 1) .expression [.string literal] = some (e, []) := by
  change expression (parse strings n) [.string literal] = _
  simp [expression, keyword?, hdisjunction]

/-- A literal that stands alone is an expression: each rule hands it on to the next tighter one, and
finds nothing after it. -/
theorem read_string (hvalue : strings [literal] = some e) :
    read strings .expressions [.string literal] = some (e, []) := by
  have hbinary : parse strings 84 (.binary 0) [.string literal] = some (e, []) := by
    apply parse_binary_string (by decide)
    apply parse_binary_string (by decide)
    apply parse_binary_string (by decide)
    apply parse_binary_string (by decide)
    apply parse_binary_string (by decide)
    apply parse_binary_string (by decide)
    apply parse_binary_last_string
    apply parse_factor_string
    apply parse_power_string
    exact parse_primary_string hvalue
  have hexpression : parse strings 89 .expression [.string literal] = some (e, []) := by
    apply parse_expression_string
    apply parse_disjunction_string
    apply parse_conjunction_string
    apply parse_inversion_string
    exact parse_comparison_string hbinary
  change expressions (parse strings 89) [.string literal] = _
  simp [expressions, operator?, hexpression]

end StringOnly

end Grammar

theorem evaluate_quote (s : List Char) :
    evaluate (quote s) = .ok (.constant (.text (String.ofList s))) := by
  have hstart : (quote s).dropWhile (fun c => c == ' ' || c == '\t') = quote s := rfl
  have hnull : (quote s).contains '\x00' = false := by
    rw [List.contains_eq_mem, decide_eq_false_iff_not]
    exact notMem_quote s (by decide)
  have hexpression : expression? (quote s) = some (.constant (.text (String.ofList s))) := by
    unfold expression? expressionOf?
    rw [symbols?_quote, Option.bind_some, Grammar.read_string (joinStrings_quote _ s)]
    rfl
  unfold evaluate
  simp only [hstart, hnull, hexpression]
  rfl

end Harvest.Source
