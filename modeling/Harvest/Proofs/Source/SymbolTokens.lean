import Harvest.Proofs.Source.Succession
import Harvest.Proofs.Source.SymbolLexemes

/-!
# Symbols and tokens

How a text is read as symbols, without the bounds of the reader and without regard to where lines
are indented to; and how the tokens of the scanner are such symbols one by one, with comments and
layout between them.
-/

namespace Harvest.Source

/-! ## Reading symbols -/

def Symbol.after? (brackets : List Char) : Symbol → Option (List Char)
  | .operator op => op.toList.head?.bind (bracketsAfter? brackets)
  | _ => some brackets

/-- How a text is read as symbols, whatever its lines are indented to; `brackets` are to
be closed. -/
inductive Reads : List Char → List Char → List Symbol → Prop
  | done : Reads [] [] []
  | blank {brackets cs : List Char} {symbols : List Symbol} {c : Char} (hc : isInlineBlank c = true)
      (h : Reads brackets cs symbols) : Reads brackets (c :: cs) symbols
  | comment {brackets cs : List Char} {symbols : List Symbol}
      (h : Reads brackets (cs.dropWhile (· != '\n')) symbols) : Reads brackets ('#' :: cs) symbols
  | lineBreak {brackets cs : List Char} {symbols : List Symbol} (h : Reads brackets cs symbols) :
      Reads brackets ('\n' :: cs) symbols
  | lineEnd {cs : List Char} {symbols : List Symbol} (h : Reads [] cs symbols) :
      Reads [] ('\n' :: cs) (.newline :: symbols)
  | continuation {brackets cs : List Char} {symbols : List Symbol} {c : Char}
      (h : Reads brackets (c :: cs) symbols) :
      Reads brackets ('\\' :: '\n' :: c :: cs) symbols
  | symbol {brackets brackets' cs : List Char} {symbols : List Symbol} {c : Char}
      {x : Symbol} {n : Nat}
      (hc : startsSymbol c = true) (hx : symbol? c cs = some (x, n))
      (hbrackets : x.after? brackets = some brackets')
      (h : Reads brackets' (cs.drop (n - 1)) symbols) : Reads brackets (c :: cs) (x :: symbols)

theorem reads_of_lineStart? {brackets s rest : List Char} {symbols : List Symbol}
    {column first k : Nat}
    (h : lineStart? column first s = some (k, rest)) (hrest : Reads brackets rest symbols) :
    Reads brackets s symbols := by
  fun_induction lineStart? column first s with
  | case1 column first cs ih => exact .blank (by decide) (ih h)
  | case2 column first cs ih => exact .blank (by decide) (ih h)
  | case3 column first cs ih => exact .blank (by decide) (ih h)
  | case4 column first c cs ih => exact .continuation (ih h)
  | case5 => cases h
  | case6 =>
    cases h
    exact hrest

theorem startsSymbol_of_ne {c : Char} (hblank : ¬(c = ' ' || c = '\t' || c = '\x0c') = true)
    (hcomment : c ≠ '#') (hfeed : c ≠ '\n') (hslash : c ≠ '\\') : startsSymbol c = true := by
  simp only [Bool.or_eq_true, decide_eq_true_eq, not_or] at hblank
  simp [startsSymbol, isInlineBlank, hblank, hcomment, hfeed, hslash]

theorem head?_operator {c : Char} {cs : List Char} {op : String} {n : Nat}
    (h : symbol? c cs = some (.operator op, n)) : op.toList.head? = some c := by
  cases symbol?_eq_some_iff.mp h with
  | name _ _ _ hword => rcases (nameSymbol?_eq_some hword).1 with ⟨heq, -⟩ | heq <;> cases heq
  | operator hmark hstart hname hop =>
    have hfound := List.find?_some hop
    obtain ⟨d, ds, hop⟩ :=
      List.exists_cons_of_ne_nil (operator_ne_nil (List.mem_of_find?_eq_some hop))
    rw [hop, List.isPrefixOf_cons_cons, Bool.and_eq_true] at hfound
    rw [hop, List.head?_cons, beq_iff_eq.mp hfound.1]

theorem reads_of_symbolsFrom {fuel : Nat} {place : Place} {brackets s : List Char} {found : Symbols}
    (h : symbolsFrom fuel place brackets s = some found) (hindented : found.indented = false) :
    Reads brackets s found.symbols := by
  fun_induction symbolsFrom fuel place brackets s generalizing found with
  | case1 | case2 | case7 | case13 | case14 | case15 => cases h
  | case3 fuel brackets s column rest hstart hempty ih =>
    exact reads_of_lineStart? hstart (ih h hindented)
  | case4 =>
    cases h
    cases hindented
  | case5 fuel brackets s column rest hstart hempty hcolumn ih =>
    exact reads_of_lineStart? hstart (ih h hindented)
  | case6 fuel place brackets hplace hbrackets =>
    cases h
    rw [List.isEmpty_iff.mp hbrackets]
    exact .done
  | case8 fuel place brackets hplace c cs hc ih =>
    refine .blank ?_ (ih h hindented)
    simpa [isInlineBlank] using hc
  | case9 fuel place brackets hplace cs hc ih => exact .comment (ih h hindented)
  | case10 fuel place brackets hplace cs rest hinside hblank hcomment =>
    rename_i ih
    exact .lineBreak (ih h hindented)
  | case11 fuel place brackets hplace cs rest houtside hblank hcomment =>
    rename_i ih
    obtain ⟨found', hfound, rfl⟩ := Option.map_eq_some_iff.mp h
    simp only [Bool.or_eq_true, Bool.not_eq_true', not_or, Bool.not_eq_false,
      List.isEmpty_iff] at houtside
    rw [houtside.2] at ih ⊢
    exact .lineEnd (ih (houtside.2 ▸ hfound) hindented)
  | case12 fuel place brackets hplace c cs hblank hcomment hfeed ih =>
    exact .continuation (ih h hindented)
  | case16 fuel place brackets hplace c cs hblank hcomment hfeed hslash x n hx after
    brackets' hbrackets =>
    rename_i ih
    obtain ⟨found', hfound, rfl⟩ := Option.map_eq_some_iff.mp h
    refine .symbol (startsSymbol_of_ne hblank hcomment hfeed hslash) hx ?_ (ih hfound hindented)
    cases x with
    | operator op =>
      rw [Symbol.after?, head?_operator hx]
      exact hbrackets
    | name | keyword | number | string | newline => exact hbrackets

theorem reads_of_symbols? {s : List Char} {symbols : List Symbol} (h : symbols? s = some symbols)
    (hreturn : '\r' ∉ s) : Reads [] s symbols := by
  unfold symbols? leadingSymbols? at h
  rw [Text.unifyLineEnds_of_notMem hreturn] at h
  obtain ⟨found, hfound, h⟩ := Option.bind_eq_some_iff.mp h
  obtain ⟨hindented, heq⟩ := Option.ite_none_left_eq_some.mp h
  cases heq
  exact reads_of_symbolsFrom hfound (by simpa using hindented)

/-! ## Tokens -/

/-- Tokens are these symbols one by one, with comments and layout between them; `brackets` are to be
closed. -/
inductive Spells : List Char → List Token → List Symbol → Prop
  | done {t : Token} (ht : t.kind = .finish) : Spells [] [t] []
  | gap {brackets : List Char} {ts : List Token} {symbols : List Symbol} {t : Token}
      (ht : t.isGap = true)
      (hblock : t.kind = .dedent → brackets = []) (h : Spells brackets ts symbols) :
      Spells brackets (t :: ts) symbols
  | lineEnd {ts : List Token} {symbols : List Symbol} (h : Spells [] ts symbols) :
      Spells [] ts (.newline :: symbols)
  | symbol {brackets brackets' : List Char} {ts : List Token} {symbols : List Symbol}
      {t : Token} {x : Symbol}
      (hkind : t.kind = x.kind) (hne : x ≠ .newline) (hx : x.SpelledBy t.text.toList)
      (hbrackets : x.after? brackets = some brackets') (h : Spells brackets' ts symbols) :
      Spells brackets (t :: ts) (x :: symbols)

variable {brackets brackets' : List Char} {symbols : List Symbol} {ts : List Token}

theorem Spells.gaps {gaps : List Token} (hgaps : ∀ t ∈ gaps, t.isGap = true)
    (hblocks : ∀ t ∈ gaps, t.kind = .dedent → brackets = []) (h : Spells brackets ts symbols) :
    Spells brackets (gaps ++ ts) symbols := by
  induction gaps with
  | nil => exact h
  | cons t gaps ih =>
    rw [List.forall_mem_cons] at hgaps hblocks
    exact .gap hgaps.1 hblocks.1 (ih hgaps.2 hblocks.2)

theorem Symbol.kind_isGap {x : Symbol} (hne : x ≠ .newline) {t : Token} (ht : t.kind = x.kind) :
    t.isGap = false := by
  cases x with
  | newline => exact absurd rfl hne
  | name | keyword | number | string | operator => simp [Token.isGap, ht, Symbol.kind]

theorem Spells.of_gap {t : Token} (ht : t.isGap = true) (h : Spells brackets (t :: ts) symbols) :
    Spells brackets ts symbols := by
  generalize hall : t :: ts = all at h
  induction h with
  | done hdone =>
    obtain ⟨rfl, -⟩ := List.cons.inj hall
    simp [Token.isGap, hdone] at ht
  | gap _ _ h =>
    obtain ⟨-, rfl⟩ := List.cons.inj hall
    exact h
  | lineEnd _ ih => exact .lineEnd (ih hall)
  | symbol hkind hne =>
    obtain ⟨rfl, -⟩ := List.cons.inj hall
    rw [Symbol.kind_isGap hne hkind] at ht
    cases ht

theorem Spells.of_gaps {gaps : List Token} (hgaps : ∀ t ∈ gaps, t.isGap = true)
    (h : Spells brackets (gaps ++ ts) symbols) : Spells brackets ts symbols := by
  induction gaps with
  | nil => exact h
  | cons t gaps ih =>
    rw [List.forall_mem_cons] at hgaps
    exact ih hgaps.2 (h.of_gap hgaps.1)

theorem spells_finalTokens (row : Nat) (last : List Char) (blocks : List Nat) :
    Spells [] (finalTokens row last blocks) [] := by
  unfold finalTokens
  extract_lets implied
  rw [List.append_assoc]
  have himplied : ∀ t ∈ implied, t.isGap = true := by
    dsimp only [implied]
    split
    · split <;> simp [Token.isGap]
    · simp
  refine Spells.gaps himplied (fun _ _ _ => rfl)
    (Spells.gaps (fun t ht => ?_) (fun _ _ _ => rfl) (.done rfl))
  rw [(List.mem_replicate.mp ht).2]
  rfl

/-- What is scanned are these symbols, or a line is indented to a column that no block has. -/
def Scan.Spells (scanned : Scan) (brackets : List Char) (symbols : List Symbol) : Prop :=
  scanned.fault = some .badDedent ∨ scanned.fault = none ∧
    Source.Spells brackets scanned.tokens symbols

theorem prepend_nil (scanned : Scan) : scanned.prepend [] = scanned := rfl

theorem prepend_append (l m : List Token) (scanned : Scan) :
    scanned.prepend (l ++ m) = (scanned.prepend m).prepend l := by
  unfold Scan.prepend
  rw [List.append_assoc]

theorem Scan.Spells.prepend {scanned : Scan} (h : scanned.Spells brackets symbols)
    {gaps : List Token}
    (hgaps : ∀ t ∈ gaps, t.isGap = true) (hblocks : ∀ t ∈ gaps, t.kind = .dedent → brackets = []) :
    (scanned.prepend gaps).Spells brackets symbols := by
  rcases h with hfault | ⟨hfault, h⟩
  · exact .inl hfault
  · exact .inr ⟨hfault, h.gaps hgaps hblocks⟩

theorem Scan.Spells.of_prepend {scanned : Scan} {gaps : List Token}
    (hgaps : ∀ t ∈ gaps, t.isGap = true)
    (h : (scanned.prepend gaps).Spells brackets symbols) : scanned.Spells brackets symbols := by
  rcases h with hfault | ⟨hfault, h⟩
  · exact .inl hfault
  · exact .inr ⟨hfault, h.of_gaps hgaps⟩

theorem Scan.Spells.lineEnd {scanned : Scan} (h : scanned.Spells [] symbols) :
    scanned.Spells [] (.newline :: symbols) := by
  rcases h with hfault | ⟨hfault, h⟩
  · exact .inl hfault
  · exact .inr ⟨hfault, .lineEnd h⟩

theorem Scan.Spells.symbol {scanned : Scan} {t : Token} {x : Symbol} (hkind : t.kind = x.kind)
    (hne : x ≠ .newline)
    (hx : x.SpelledBy t.text.toList) (hbrackets : x.after? brackets = some brackets')
    (h : scanned.Spells brackets' symbols) :
    (scanned.prepend [t]).Spells brackets (x :: symbols) := by
  rcases h with hfault | ⟨hfault, h⟩
  · exact .inl hfault
  · exact .inr ⟨hfault, .symbol hkind hne hx hbrackets h⟩

end Harvest.Source
