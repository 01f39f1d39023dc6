import Harvest.Proofs.Source.NumberLength
import Harvest.Proofs.Source.Quoting
import Harvest.Proofs.Source.StringEnds
import Harvest.Proofs.Source.SymbolOrder
import Harvest.Source.Reader
import Harvest.Source.Scan

/-!
# The values of literals

A number or string that is a symbol of an expression is the same symbol when it stands alone, and so
has a value of its own. Of the strings that stand next to each other in an expression each is in
order by itself: it has a text or bytes for its value, unless it is a formatted one.
-/

namespace Harvest.Source

/-! ## Symbols and what follows them -/

/-- The symbol at the start of a text, with the number of characters that it takes up. -/
inductive SymbolAt (s : List Char) : Symbol → Nat → Prop
  | string {mark : List Char} {n : Nat} (hmark : stringMark? s = some mark)
      (h : strictString? mark s = some n) :
      SymbolAt s (.string (s.take n)) n
  | number {n : Nat} {value : Constant} (hmark : stringMark? s = none) (hstart : StartsNumber s)
      (h : strictNumber? s = some n) (hvalue : Constant.ofNumber? (s.take n) = some value) :
      SymbolAt s (.number value) n
  | name {x : Symbol} (hmark : stringMark? s = none) (hstart : ¬StartsNumber s)
      (hname : (s.head?.map isNameChar).getD false = true)
      (h : nameSymbol? (s.takeWhile isNameChar) = some x) :
      SymbolAt s x (s.takeWhile isNameChar).length
  | operator {op : String} (hmark : stringMark? s = none) (hstart : ¬StartsNumber s)
      (hname : (s.head?.map isNameChar).getD false = false)
      (h : operators.find? (fun op => op.toList.isPrefixOf s) = some op) :
      SymbolAt s (.operator op) op.length

theorem startsNumber_cons {c : Char} {cs : List Char} : StartsNumber (c :: cs) ↔
    (c.isDigit || (c == '.' && (cs.head?.map Char.isDigit).getD false)) = true := by
  unfold StartsNumber
  cases cs with
  | nil => simp
  | cons d ds =>
    simp only [List.head?_cons, Option.map_some, Option.getD_some, List.cons.injEq,
      Bool.or_eq_true, Bool.and_eq_true,
      beq_iff_eq]
    constructor
    · rintro (hc | ⟨e, rest, ⟨hc, rfl, -⟩, he⟩)
      · exact .inl hc
      · exact .inr ⟨hc, he⟩
    · rintro (hc | ⟨hc, hd⟩)
      · exact .inl hc
      · exact .inr ⟨d, ds, ⟨hc, rfl, rfl⟩, hd⟩

theorem symbol?_eq_some_iff {c : Char} {cs : List Char} {x : Symbol} {n : Nat} :
    symbol? c cs = some (x, n) ↔ SymbolAt (c :: cs) x n := by
  unfold symbol?
  dsimp only
  constructor
  · intro h
    cases hmark : stringMark? (c :: cs) with
    | some mark =>
      rw [hmark] at h
      obtain ⟨k, hk, heq⟩ := Option.map_eq_some_iff.mp h
      cases heq
      exact .string hmark hk
    | none =>
      rw [hmark] at h
      dsimp only at h
      split at h
      · rename_i hstart
        obtain ⟨k, hk, hfound⟩ := Option.bind_eq_some_iff.mp h
        obtain ⟨value, hvalue, heq⟩ := Option.map_eq_some_iff.mp hfound
        cases heq
        exact .number hmark (startsNumber_cons.mpr hstart) hk hvalue
      · rename_i hstart
        have hstart := mt startsNumber_cons.mp hstart
        split at h
        · rename_i hname
          obtain ⟨symbol, hsymbol, heq⟩ := Option.map_eq_some_iff.mp h
          cases heq
          exact .name hmark hstart hname hsymbol
        · rename_i hname
          obtain ⟨op, hop, heq⟩ := Option.map_eq_some_iff.mp h
          cases heq
          exact .operator hmark hstart (Bool.not_eq_true _ ▸ hname) hop
  · intro h
    cases h with
    | string hmark h => simp only [hmark, h, Option.map_some]
    | number hmark hstart h hvalue =>
      simp only [hmark, startsNumber_cons.mp hstart, if_true, h, hvalue,
        Option.map_some, Option.bind_some]
    | name hmark hstart hname h =>
      have hname : isNameChar c = true := hname
      simp only [hmark, if_neg (mt startsNumber_cons.mpr hstart), hname, if_true,
        h, Option.map_some]
    | operator hmark hstart hname h =>
      have hname : isNameChar c = false := hname
      simp only [hmark, if_neg (mt startsNumber_cons.mpr hstart), hname,
        Bool.false_eq_true, if_false, h,
        Option.map_some]

theorem nameSymbol?_eq_some {word : List Char} {x : Symbol} (h : nameSymbol? word = some x) :
    (x = .keyword (String.ofList word) ∧ String.ofList word ∈ reservedNames ∨
    x = .name (String.ofList word)) ∧
      (word.head?.map Text.isIdentifierStart).getD false = true := by
  unfold nameSymbol? at h
  split at h
  · rename_i c cs
    split at h
    · rename_i hc
      rw [Bool.and_eq_true] at hc
      cases h
      refine ⟨?_, hc.1⟩
      split
      · rename_i hreserved
        exact .inl ⟨rfl, List.contains_iff_mem.mp hreserved⟩
      · exact .inr rfl
    · cases h
  · cases h

theorem SymbolAt.number_take {s : List Char} {value : Constant} {n : Nat}
    (h : SymbolAt s (.number value) n) :
    n ≤ s.length ∧ SymbolAt (s.take n) (.number value) n := by
  cases h with
  | number hmark hstart h hvalue =>
    rw [strictNumber?_eq] at h
    obtain ⟨k, hk, hend⟩ := Option.bind_eq_some_iff.mp h
    obtain ⟨-, heq⟩ := Option.ite_none_right_eq_some.mp hend
    cases heq
    refine ⟨numberStart?_le hk, .number ?_ (hstart.take hk) ?_ ?_⟩
    · rw [← List.take_append_drop n s] at hmark
      exact stringMark?_eq_none_of_append hmark
    · rw [strictNumber?_eq, numberStart?_take hk (Nat.le_refl n), Option.bind_some,
        List.drop_take_self]
      rfl
    · rw [List.take_take, Nat.min_self, hvalue]
  | name hmark hstart hname h => rcases (nameSymbol?_eq_some h).1 with ⟨heq, -⟩ | heq <;> cases heq

theorem SymbolAt.delimits {s l : List Char} {n : Nat} (h : SymbolAt s (.string l) n) :
    ∃ mark closing t r, l = mark ++ (closing.opening ++ t) ∧ n = l.length ∧ s = l ++ r ∧
      Delimits mark closing t r := by
  cases h with
  | string hmark h =>
    rename_i mark
    obtain ⟨closing, t, r, rfl, rfl, hdelimits⟩ := delimits_of_strictString? hmark h
    have hlength : mark.length + closing.opening.length + t.length =
        (mark ++ (closing.opening ++ t)).length := by
      simp only [List.length_append]
      omega
    have hs : mark ++ (closing.opening ++ (t ++ r)) = mark ++ (closing.opening ++ t) ++ r := by simp
    refine ⟨mark, closing, t, r, ?_, ?_, ?_, hdelimits⟩
    · rw [hlength, hs, List.take_left]
    · rw [hlength, hs, List.take_left]
    · rw [hlength, hs, List.take_left]
  | name hmark hstart hname h => rcases (nameSymbol?_eq_some h).1 with ⟨heq, -⟩ | heq <;> cases heq

theorem symbolAt_of_delimits {mark t l : List Char} {closing : Closing}
    (h : Delimits mark closing t [])
    (hl : l = mark ++ (closing.opening ++ t)) : SymbolAt l (.string l) l.length := by
  subst hl
  have hlength := h.strictString?
  rw [List.append_nil, Nat.add_assoc, ← List.length_append, ← List.length_append] at hlength
  have hsymbol := SymbolAt.string (h.stringMark? t) hlength
  rwa [List.take_length] at hsymbol

/-! ## Literals that stand alone -/

/-- May a symbol start with the character? Blanks, comments and line ends do not. -/
def startsSymbol (c : Char) : Bool := !(isInlineBlank c || c == '#' || c == '\n' || c == '\\')

theorem ne_of_startsSymbol {c d : Char} (hc : startsSymbol c = true) (hd : startsSymbol d = false) :
    c ≠ d := by
  rintro rfl
  rw [hc] at hd
  cases hd

theorem lineStart?_of_startsSymbol {c : Char} (hc : startsSymbol c = true) (cs : List Char) :
    lineStart? 0 0 (c :: cs) = some (0, c :: cs) := by
  rw [lineStart?.eq_def]
  split
  iterate 5
    rename_i heq
    exact absurd (List.cons.inj heq).1 (ne_of_startsSymbol hc (by decide))
  rfl

theorem symbols?_literal {c : Char} {cs : List Char} {x : Symbol} (hc : startsSymbol c = true)
    (h : SymbolAt (c :: cs) x (c :: cs).length) (hx : ∀ op, x ≠ .operator op)
    (hreturn : '\r' ∉ c :: cs) :
    symbols? (c :: cs) = some [x] := by
  have hspace : c ≠ ' ' := ne_of_startsSymbol hc (by decide)
  have htab : c ≠ '\t' := ne_of_startsSymbol hc (by decide)
  have hfeed : c ≠ '\x0c' := ne_of_startsSymbol hc (by decide)
  have hcomment : c ≠ '#' := ne_of_startsSymbol hc (by decide)
  have hend : c ≠ '\n' := ne_of_startsSymbol hc (by decide)
  have hslash : c ≠ '\\' := ne_of_startsSymbol hc (by decide)
  have hfrom (fuel : Nat) : symbolsFrom (fuel + 3) .lineStart [] (c :: cs) =
      some { symbols := [x] } := by
    have hwithin : symbolsFrom (fuel + 2) .within [] (c :: cs) = some { symbols := [x] } := by
      cases x with
      | operator op => exact absurd rfl (hx op)
      | name | keyword | number | string | newline =>
        simp [symbolsFrom, hspace, htab, hfeed, hcomment, hend, hslash,
          symbol?_eq_some_iff.mpr h, Symbols.cons]
    rw [symbolsFrom, lineStart?_of_startsSymbol hc]
    simp [hcomment, hend, hwithin]
  have hfuel : 2 * (c :: cs).length + 2 = 2 * cs.length + 1 + 3 := by
    rw [List.length_cons]
    omega
  unfold symbols? leadingSymbols?
  simp only [Text.unifyLineEnds_of_notMem hreturn]
  rw [hfuel, hfrom]
  rfl


/-! ## Strings next to each other -/

/-- Are there letters before the string that make it a formatted one? -/
def isFormatted (literal : List Char) : Bool := (StringParts.ofLiteral literal).mark.contains 'f'

/-- Are there letters before the string that make it one of bytes? -/
def isBytes (literal : List Char) : Bool := (StringParts.ofLiteral literal).mark.contains 'b'

theorem isSome_of_mapM {α β : Type} {f : α → Option β} {xs : List α} {ys : List β}
    (h : xs.mapM f = some ys) {x : α} (hx : x ∈ xs) : ∃ y, f x = some y := by
  induction xs generalizing ys with
  | nil => cases hx
  | cons a as ih =>
    simp only [List.mapM_cons, Option.bind_eq_bind, Option.bind_eq_some_iff] at h
    obtain ⟨y, hy, ys', hys, -⟩ := h
    rcases List.mem_cons.mp hx with rfl | hx
    · exact ⟨y, hy⟩
    · exact ih hys hx

def StringParts.text? (p : StringParts) : Option (List Char) :=
  if p.mark.contains 'r' then some p.body else unescape Text.characterNamed? p.body

def StringParts.bytes? (p : StringParts) : Option (List UInt8) :=
  if p.body.any (·.toNat ≥ 128) then none
  else if p.mark.contains 'r' then some (p.body.map (·.toNat.toUInt8))
  else unescapeBytes p.body

def StringParts.isValid (expression : List Char → Bool) (p : StringParts) : Bool :=
  if p.mark.contains 'f' then
    Formatted.isWellFormed
      { raw := p.mark.contains 'r', expression
        text := fun s => p.mark.contains 'r' || (unescape Text.characterNamed? s).isSome }
      p.body
  else p.text?.isSome

/-- Literals are joined if all are bytes or none is; formatted ones have no value. -/
theorem joinStrings_eq (expression : List Char → Bool) (literals : List (List Char)) :
    joinStrings expression literals =
      if literals.all isBytes then
        ((literals.map StringParts.ofLiteral).mapM StringParts.bytes?).map fun all =>
          .constant (.bytes all.flatten)
      else if literals.any isBytes then none
      else if literals.any isFormatted then
        if (literals.map StringParts.ofLiteral).all
          (StringParts.isValid expression) then some .formatted else none
      else ((literals.map StringParts.ofLiteral).mapM StringParts.text?).map fun all =>
        .constant (.text (String.ofList all.flatten)) := by
  unfold joinStrings
  simp only [List.all_map, List.any_map]
  rfl

theorem isBytes_eq_of_joinStrings {expression : List Char → Bool}
    {literals : List (List Char)} {e : Expr}
    (h : joinStrings expression literals = some e) {l l' : List Char} (hl : l ∈ literals)
    (hl' : l' ∈ literals) :
    isBytes l = isBytes l' := by
  rw [joinStrings_eq] at h
  by_cases hall : literals.all isBytes = true
  · rw [List.all_eq_true] at hall
    rw [hall l hl, hall l' hl']
  · rw [if_neg hall] at h
    have hany : ¬literals.any isBytes = true := fun hany => by
      rw [if_pos hany] at h
      cases h
    simp only [List.any_eq_true, not_exists, not_and, Bool.not_eq_true] at hany
    rw [hany l hl, hany l' hl']

theorem joinStrings_singleton {expression : List Char → Bool}
    {literals : List (List Char)} {e : Expr}
    (h : joinStrings expression literals = some e) {l : List Char} (hl : l ∈ literals) :
    (isBytes l = true ∧ ∃ bytes, ∀ expression',
      joinStrings expression' [l] = some (.constant (.bytes bytes))) ∨
    (isBytes l = false ∧ isFormatted l = true ∧ joinStrings expression [l] = some .formatted) ∨
    (isBytes l = false ∧ isFormatted l = false ∧
      ∃ text, ∀ expression', joinStrings expression' [l] = some (.constant (.text text))) := by
  have hsame := fun l' (hl' : l' ∈ literals) => isBytes_eq_of_joinStrings h hl' hl
  have hpart : StringParts.ofLiteral l ∈ literals.map StringParts.ofLiteral :=
    List.mem_map_of_mem hl
  rw [joinStrings_eq] at h
  cases hbytes : isBytes l with
  | true =>
    have hall : literals.all isBytes = true := List.all_eq_true.mpr fun l' hl' =>
      (hsame l' hl').trans hbytes
    rw [if_pos hall] at h
    obtain ⟨all, hmap, -⟩ := Option.map_eq_some_iff.mp h
    obtain ⟨bytes, hvalue⟩ := isSome_of_mapM hmap hpart
    exact .inl ⟨rfl, bytes, fun expression' => by simp [joinStrings_eq, hbytes, hvalue]⟩
  | false =>
    -- Strings of bytes stand next to strings of bytes only, so there are none.
    have hnone : literals.any isBytes = false := by
      rw [List.any_eq_false]
      intro l' hl'
      rw [hsame l' hl', hbytes]
      exact Bool.false_ne_true
    have hnot : ¬literals.all isBytes = true := fun hall => by
      rw [List.all_eq_true.mp hall l hl] at hbytes
      cases hbytes
    rw [if_neg hnot, hnone, if_neg Bool.false_ne_true] at h
    cases hformatted : isFormatted l with
    | true =>
      rw [if_pos (List.any_eq_true.mpr ⟨l, hl, hformatted⟩)] at h
      have hvalid : (StringParts.ofLiteral l).isValid expression = true := by
        split at h
        · rename_i hall
          exact List.all_eq_true.mp hall _ hpart
        · cases h
      exact .inr (.inl ⟨rfl, rfl, by simp [joinStrings_eq, hbytes, hformatted, hvalid]⟩)
    | false =>
      have hmark : (StringParts.ofLiteral l).mark.contains 'f' = false := hformatted
      obtain ⟨text, htext⟩ : ∃ text, (StringParts.ofLiteral l).text? = some text := by
        split at h
        · split at h
          · rename_i hall
            have hvalid := List.all_eq_true.mp hall _ hpart
            rw [StringParts.isValid, hmark, if_neg Bool.false_ne_true] at hvalid
            exact Option.isSome_iff_exists.mp hvalid
          · cases h
        · obtain ⟨all, hmap, -⟩ := Option.map_eq_some_iff.mp h
          exact isSome_of_mapM hmap hpart
      refine .inr (.inr ⟨rfl, rfl, String.ofList text, fun expression' => ?_⟩)
      simp [joinStrings_eq, hbytes, hformatted, htext]

/-! ## Values -/

structure IsLiteral (l : List Char) (x : Symbol) : Prop where
  symbols : symbols? l = some [x]
  blanks : l.dropWhile (fun c => c == ' ' || c == '\t') = l
  null : '\x00' ∉ l

theorem isLiteral_of_symbolAt {c : Char} {cs : List Char} {x : Symbol} (hc : startsSymbol c = true)
    (h : SymbolAt (c :: cs) x (c :: cs).length) (hx : ∀ op, x ≠ .operator op)
    (hclean : ∀ d ∈ c :: cs, d ≠ '\r' ∧ d ≠ '\x00') : IsLiteral (c :: cs) x where
  symbols := symbols?_literal hc h hx fun hmem => (hclean _ hmem).1 rfl
  blanks := by
    have hspace : c ≠ ' ' := ne_of_startsSymbol hc (by decide)
    have htab : c ≠ '\t' := ne_of_startsSymbol hc (by decide)
    rw [List.dropWhile_cons_of_neg]
    simp [hspace, htab]
  null hmem := (hclean _ hmem).2 rfl

theorem IsLiteral.evaluate_eq {l : List Char} {x : Symbol} (h : IsLiteral l x) : evaluate l =
    ((expressionOf? l.length [x]).map Expr.value).getD
      (.error (if isIndented l then .indented else .notExpression)) := by
  have hnull : l.contains '\x00' = false := by simpa using h.null
  unfold evaluate expression?
  simp only [h.blanks, hnull, h.symbols, Option.bind_some, Bool.false_eq_true, if_false]
  cases expressionOf? l.length [x] <;> rfl

theorem expressionOf?_number (depth : Nat) (value : Constant) :
    expressionOf? depth [.number value] = some (.constant value) := rfl

theorem expressionOf?_string {depth : Nat} {l : List Char} {e : Expr}
    (h : joinStrings (isFieldExpression depth) [l] = some e) :
    expressionOf? depth [.string l] = some e := by
  unfold expressionOf?
  rw [Grammar.read_string h]
  rfl

theorem IsLiteral.literalValue_number {l : List Char} {value : Constant}
    (h : IsLiteral l (.number value)) :
    ∃ v, Reader.literalValue (String.ofList l) = .ok v := by
  have hvalue : evaluate l = .ok (.constant value) := by
    rw [h.evaluate_eq, expressionOf?_number]
    rfl
  unfold Reader.literalValue
  rw [String.toList_ofList, hvalue]
  cases value <;> exact ⟨_, rfl⟩

def IsStringValue (bytes : Bool) : ArgumentValue → Prop
  | .text _ => bytes = false
  | .bytes => bytes = true
  | .other => False

theorem IsStringValue.joinValues {bytes : Bool} {a b : ArgumentValue} (ha : IsStringValue bytes a)
    (hb : IsStringValue bytes b) : ∃ v, Reader.joinValues a b = .ok v ∧ IsStringValue bytes v := by
  cases a with
  | text s =>
    cases b with
    | text t => exact ⟨_, rfl, ha⟩
    | bytes => exact absurd (ha.symm.trans hb) Bool.false_ne_true
    | other => exact hb.elim
  | bytes =>
    cases b with
    | text t => exact absurd (hb.symm.trans ha) Bool.false_ne_true
    | bytes => exact ⟨_, rfl, ha⟩
    | other => exact hb.elim
  | other => exact ha.elim

theorem IsLiteral.literalValue_formatted {l : List Char} (h : IsLiteral l (.string l))
    (hformatted : isFormatted l = true) (hbytes : isBytes l = false) :
    ∃ fault, Reader.literalValue (String.ofList l) = .error fault := by
  have hvalue : ∃ fault, evaluate l = .error fault := by
    rw [h.evaluate_eq]
    cases he : expressionOf? l.length [.string l] with
    | none => exact ⟨_, rfl⟩
    | some e =>
      obtain ⟨⟨literals, joined, hjoin, hmem, -⟩, -⟩ := inOrder_of_expressionOf? he
      rcases joinStrings_singleton hjoin hmem with ⟨hb, -⟩ | ⟨-, -, hsingle⟩ | ⟨-, hf, -⟩
      · rw [hbytes] at hb
        cases hb
      · rw [expressionOf?_string hsingle] at he
        cases he
        exact ⟨_, rfl⟩
      · rw [hformatted] at hf
        cases hf
  obtain ⟨fault, hfault⟩ := hvalue
  unfold Reader.literalValue
  rw [String.toList_ofList, hfault]
  exact ⟨_, rfl⟩

theorem IsLiteral.literalValue_string {l : List Char} (h : IsLiteral l (.string l))
    (hformatted : isFormatted l = false)
    {expression : List Char → Bool} {literals : List (List Char)} {e : Expr}
    (hjoin : joinStrings expression literals = some e) (hmem : l ∈ literals) :
    ∃ v, Reader.literalValue (String.ofList l) = .ok v ∧ IsStringValue (isBytes l) v := by
  unfold Reader.literalValue
  rw [String.toList_ofList, h.evaluate_eq]
  rcases joinStrings_singleton hjoin hmem with ⟨hb, bytes, hsingle⟩ | ⟨-, hf, -⟩ |
    ⟨hb, -, text, hsingle⟩
  · rw [expressionOf?_string (hsingle _)]
    exact ⟨_, rfl, hb⟩
  · rw [hformatted] at hf
    cases hf
  · rw [expressionOf?_string (hsingle _)]
    exact ⟨_, rfl, hb⟩

theorem Delimits.isBytes_of_isFormatted {mark t r : List Char} {closing : Closing}
    (h : Delimits mark closing t r)
    (hformatted : isFormatted (mark ++ (closing.opening ++ t)) = true) :
    isBytes (mark ++ (closing.opening ++ t)) = false := by
  have hmark : (StringParts.ofLiteral (mark ++ (closing.opening ++ t))).mark =
      mark.map Char.toLower := by
    obtain ⟨quotes, hopening⟩ := closing.exists_opening
    unfold StringParts.ofLiteral
    dsimp only
    rw [List.takeWhile_append_of_pos (by simpa using fun c hc => h.mark.not_quote hc), hopening,
      List.cons_append, List.takeWhile_cons_of_neg (by simp [h.quote]), List.append_nil]
  have hall : ∀ text ∈ stringMarks, text.toList.contains 'f' = true →
    text.toList.contains 'b' = false := by decide
  have hnone := hall _ h.mark
  rw [String.toList_ofList] at hnone
  unfold isFormatted at hformatted
  unfold isBytes
  rw [hmark] at hformatted ⊢
  exact hnone hformatted

end Harvest.Source
