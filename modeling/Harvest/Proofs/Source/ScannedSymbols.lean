import Harvest.Proofs.Source.Statements
import Harvest.Proofs.Source.SymbolTokens

/-!
# The tokens of an expression

The scanner goes line by line, keeps track of blocks and of open strings, and looks ahead for the
end of blanks; the reader of symbols goes over the whole text. For a text whose symbols are all in
order, the tokens of the scanner are these symbols.
-/

namespace Harvest.Source

variable {brackets brackets' : List Char} {symbols : List Symbol}

/-! ## The rest of a line -/

theorem scanTail_of_blanks {cs : List Char} (h : cs.dropWhile isInlineBlank = [])
    (row column : Nat) (depth : Int) :
    scanTail row 0 column depth cs = { depth } := by
  cases cs with
  | nil => rfl
  | cons c cs =>
    have hc : isInlineBlank c = true := by
      by_contra hc
      rw [List.dropWhile_cons_of_neg hc] at h
      cases h
    rw [List.dropWhile_cons_of_pos hc] at h
    rw [scanTail]
    simp only [hc, if_true, h]

theorem scanTail_blank {c : Char} {cs : List Char} (hc : isInlineBlank c = true)
    (h : cs.dropWhile isInlineBlank = [] ∨ (lexeme? (cs.dropWhile isInlineBlank)).isSome = true)
    (row column : Nat)
    (depth : Int) :
    scanTail row 0 column depth (c :: cs) = scanTail row 0 (column + 1) depth cs := by
  rw [scanTail]
  simp only [hc, if_true]
  split
  · rename_i hnil
    exact (scanTail_of_blanks hnil row (column + 1) depth).symm
  · rename_i hcons
    rcases h with hnil | hlexeme
    · exact absurd hnil hcons
    · rw [if_pos hlexeme]

theorem scanTail_blanks {cs : List Char}
    (h : cs.dropWhile isInlineBlank = [] ∨ (lexeme? (cs.dropWhile isInlineBlank)).isSome = true)
    (row column : Nat) (depth : Int) : scanTail row 0 column depth cs =
      scanTail row 0 (column + (cs.takeWhile isInlineBlank).length) depth
        (cs.dropWhile isInlineBlank) := by
  induction cs generalizing column with
  | nil => rfl
  | cons c cs ih =>
    cases hc : isInlineBlank c with
    | false => rw [List.takeWhile_cons_of_neg (by simp [hc]),
      List.dropWhile_cons_of_neg (by simp [hc])]; rfl
    | true =>
      rw [List.dropWhile_cons_of_pos hc] at h ⊢
      rw [scanTail_blank hc h, ih h, List.takeWhile_cons_of_pos hc, List.length_cons]
      congr 1
      omega

def lineEndToken (depth : Int) (row column : Nat) : Token :=
  ⟨if depth > 0 then .breakOnly else .newline, String.ofList ['\n'], row, column⟩

theorem lineEndToken_isGap (depth : Int) (row column : Nat) :
    (lineEndToken depth row column).isGap = true := by
  unfold lineEndToken Token.isGap
  split <;> rfl

theorem lineEndToken_ne_dedent (depth : Int) (row column : Nat) :
    (lineEndToken depth row column).kind ≠ .dedent := by
  unfold lineEndToken
  split <;> exact nofun

theorem scanTail_lineEnd (row column : Nat) (depth : Int) :
    scanTail row 0 column depth ['\n'] = { tokens := [lineEndToken depth row column], depth } := rfl

theorem scanTail_comment {w r : List Char} (hw : '\n' ∉ w) (hreturn : '\r' ∉ w)
    (hr : r = [] ∨ r = ['\n'])
    (row column : Nat) (depth : Int) : scanTail row 0 column depth ('#' :: w ++ r) =
      (scanTail row 0 (column + ('#' :: w).length) depth r).cons
      ⟨.comment, String.ofList ('#' :: w), row, column⟩ := by
  have hrun : Text.runLength (fun c => c != '\r' && c != '\n') (w ++ r) = w.length := by
    have hall : ∀ c ∈ w, (c != '\r' && c != '\n') = true := by
      intro c hc
      rw [Bool.and_eq_true, bne_iff_ne, bne_iff_ne]
      exact ⟨fun h => hreturn (h ▸ hc), fun h => hw (h ▸ hc)⟩
    unfold Text.runLength
    rw [List.takeWhile_append_of_pos hall]
    rcases hr with rfl | rfl
    · simp
    · simp
  have hlexeme : lexeme? ('#' :: (w ++ r)) = some (.token .comment (w.length + 1)) := by
    rw [← hrun]
    rfl
  exact scanTail_token '#' w rfl hlexeme

theorem scanTail_openString {c : Char} {cs : List Char} {closing : Closing}
    (hc : isInlineBlank c = false)
    (h : lexeme? (c :: cs) = some (.openString closing)) (row column : Nat) (depth : Int) :
    scanTail row 0 column depth (c :: cs) =
      { depth, pending := some ⟨closing, c :: cs, row, column⟩ } := by
  rw [scanTail]
  simp only [hc, Bool.false_eq_true, if_false, h]

theorem scanTail_continuation (row column : Nat) (depth : Int) (cs : List Char) :
    scanTail row 0 column depth ('\\' :: '\n' :: cs) = { depth, continued := true } := rfl

theorem depthAfter_of_bracketsAfter? {brackets brackets' : List Char} {c : Char}
    (h : bracketsAfter? brackets c = some brackets') :
    depthAfter brackets.length c = brackets'.length := by
  unfold bracketsAfter? at h
  cases hopen : closingBracket? c with
  | some close =>
    have hc : "([\x7b".toList.contains c = true := by
      unfold closingBracket? at hopen
      split at hopen
      iterate 3 rfl
      cases hopen
    rw [hopen] at h
    obtain ⟨-, heq⟩ := Option.ite_none_right_eq_some.mp h
    cases heq
    rw [depthAfter, if_pos hc, List.length_cons]
    rfl
  | none =>
    have hc : ¬"([\x7b".toList.contains c = true := by
      intro hc
      simp only [String.reduceToList, List.contains_cons, List.contains_nil,
        Bool.or_false, Bool.or_eq_true,
        beq_iff_eq] at hc
      rcases hc with rfl | rfl | rfl <;> cases hopen
    rw [hopen] at h
    dsimp only at h
    rw [depthAfter, if_neg hc]
    split at h
    · rename_i hclose
      rw [if_pos hclose]
      split at h
      · obtain ⟨-, heq⟩ := Option.ite_none_right_eq_some.mp h
        cases heq
        rw [List.length_cons]
        omega
      · cases h
    · rename_i hclose
      cases h
      rw [if_neg hclose]

/-! ## Lines -/

theorem textLines_lineEnd {u : List Char} (hu : '\n' ∉ u) (rest : List Char) :
    textLines (u ++ '\n' :: rest) = .ok (u ++ ['\n']) :: textLines rest := by
  unfold textLines Text.feedLines
  rw [Text.feedLinesFrom_of_notMem hu]
  rfl

theorem feedLinesFrom_last {s : List Char} (hs : '\n' ∉ s) (line : List Char)
    (hne : line ++ s ≠ []) :
    Text.feedLinesFrom line s = [line.reverse ++ s] := by
  induction s generalizing line with
  | nil =>
    rw [List.append_nil] at hne
    rw [Text.feedLinesFrom, List.append_nil, if_neg (by simpa using hne)]
  | cons c s ih =>
    rw [List.mem_cons, not_or] at hs
    rw [Text.feedLinesFrom, if_neg (Ne.symm hs.1), ih hs.2 _ (List.cons_ne_nil _ _)]
    simp

/-- The first line of a text, and the text after it. -/
theorem exists_lineRest {s : List Char} (hs : s ≠ []) :
    ∃ line more, s = line ++ more ∧ LineRest line more ∧
      textLines s = .ok line :: textLines more := by
  by_cases hfeed : '\n' ∈ s
  · obtain ⟨u, rest, rfl, hu⟩ := List.eq_append_cons_of_mem hfeed
    exact ⟨u ++ ['\n'], rest, by simp, .ended hu rest, textLines_lineEnd hu rest⟩
  · refine ⟨s, [], by simp, .last hfeed, ?_⟩
    unfold textLines Text.feedLines
    rw [feedLinesFrom_last hfeed [] hs]
    rfl

/-- What is scanned after the start of a line, the rest of which gives `tail`; `more` follows the
line. -/
def Scanner.resume (s : Scanner) (row : Nat) (tail : LineTail) (line more : List Char) : Scan :=
  ((s.afterLine row tail).lines line (textLines more)).prepend tail.tokens

theorem resume_cons (s : Scanner) (row : Nat) (t : Token) (tail : LineTail)
    (line more : List Char) :
    s.resume row (tail.cons t) line more = (s.resume row tail line more).prepend [t] := rfl

theorem lines_of_not_fresh {s : Scanner} (hpending : s.pending = none)
    (hfresh : ¬(s.depth = 0 && !s.continued) = true)
    (last line more : List Char) : s.lines last (.ok line :: textLines more) =
      s.resume (s.row + 1) (scanTail (s.row + 1) 0 0 s.depth line) line more := by
  apply lines_of_next
  unfold Scanner.line
  simp only [hpending, if_neg hfresh]

theorem afterLine_needsMark {s : Scanner} (hmark : s.needsMark = false) (row : Nat)
    (tail : LineTail) :
    (s.afterLine row tail).needsMark =
      (tail.pending.map fun o => !o.closing.triple).getD false := by
  unfold Scanner.afterLine
  rw [hmark]
  rfl

/-- A string that is open is read up to where it closes. -/
theorem lines_pending {closing : Closing} (hquote : isQuote closing.quote = true) {t : List Char}
    (h : Closes closing t) (hreturn : '\r' ∉ t) {s : Scanner} {opened : OpenString}
    (hpending : s.pending = some opened) (hclosing : opened.closing = closing)
    (hmark : s.needsMark = !closing.triple) (hnested : s.Nested) (last r : List Char) :
    ∃ (s' : Scanner) (row column : Nat) (line r' more : List Char),
      s.lines last (textLines (t ++ r)) =
        (s'.resume row (scanTail row 0 column s.depth r') line more).prepend
          [⟨.string, String.ofList (opened.text ++ t), opened.row, opened.column⟩] ∧
      r = r' ++ more ∧ LineRest r' more ∧ s'.needsMark = false ∧ s'.Nested := by
  -- On the length of what is left of the string: each line takes some of it.
  induction hn : t.length using Nat.strong_induction_on generalizing t s opened last with
  | _ n ih =>
    subst hn hclosing
    cases h.lineEnds hquote hreturn with
    | closed hfeed hlength htail =>
      obtain ⟨line, more, hs, hline, hlines⟩ := exists_lineRest (s := t ++ r) (by simp [h.ne_nil])
      obtain ⟨r', rfl, hr, hrest⟩ := hline.split hfeed hs
      have hnext : s.line (t ++ r') = .next
          (⟨.string, String.ofList (opened.text ++ t), opened.row, opened.column⟩ ::
            (scanTail (s.row + 1) 0 t.length s.depth r').tokens)
          ({ s with needsMark := false }.afterLine (s.row + 1)
              (scanTail (s.row + 1) 0 t.length s.depth r')) := by
        unfold Scanner.line Scanner.stringLine
        simp only [hpending, hlength r', List.drop_left, List.take_left]
      refine ⟨{ s with needsMark := false }, s.row + 1, t.length, t ++ r', r', more, ?_, hr,
        hrest, rfl, hnested⟩
      rw [hlines, lines_of_next hnext]
      rfl
    | opened ht hfeed hcloses hlength hcontinued =>
      rename_i u t'
      subst ht
      have hgoes : ¬(s.needsMark && !endsContinued (u ++ ['\n'])) = true := by
        rw [hmark]
        cases hkind : opened.closing.triple with
        | true => simp
        | false => simp [(hcontinued hkind).1]
      let next : Scanner :=
        { s with
          row := s.row + 1
          pending := some { opened with text := opened.text ++ (u ++ ['\n']) } }
      have hnext : s.line (u ++ ['\n']) = .next [] next := by
        unfold Scanner.line Scanner.stringLine
        simp only [hpending, hlength, if_neg hgoes]
        rfl
      rw [List.append_assoc, List.cons_append, textLines_lineEnd hfeed, lines_of_next hnext]
      have hshorter : t'.length < (u ++ '\n' :: t').length := by
        simp only [List.length_append, List.length_cons]
        omega
      have hreturn' : '\r' ∉ t' := fun hmem => hreturn (by simp [hmem])
      obtain ⟨s', row, column, line, r', more, hscan, hr⟩ :=
        ih _ hshorter hcloses hreturn' (s := next) rfl rfl hmark hnested (u ++ ['\n']) rfl
      refine ⟨s', row, column, line, r', more, ?_, hr⟩
      rw [hscan, List.append_assoc]
      simp only [next, List.append_assoc, List.singleton_append]
      rfl

/-- The rest of a line, with `more` after it, is scanned as these symbols. -/
structure Resumes (brackets line more : List Char) (symbols : List Symbol) : Prop where
  lexeme : line.dropWhile isInlineBlank = [] ∨
    (lexeme? (line.dropWhile isInlineBlank)).isSome = true
  spells : ∀ (s : Scanner) (row column : Nat) (last : List Char), s.needsMark = false → s.Nested →
    (s.resume row (scanTail row 0 column brackets.length line) last more).Spells brackets symbols

theorem reads_of_blanks {s : List Char} (hs : ∀ c ∈ s, isInlineBlank c = true)
    (h : Reads brackets s symbols) :
    brackets = [] ∧ symbols = [] := by
  induction h with
  | done => exact ⟨rfl, rfl⟩
  | blank hc h ih => exact ih fun c hc => hs c (List.mem_cons_of_mem _ hc)
  | comment | lineBreak | lineEnd | continuation =>
    exact absurd (hs _ List.mem_cons_self) (by decide)
  | symbol hc =>
    have hblank := hs _ List.mem_cons_self
    simp [startsSymbol, hblank] at hc

theorem LineRest.exists_comment {c : Char} {cs more : List Char}
    (h : LineRest (c :: cs) more) (hc : c ≠ '\n') :
    ∃ w r, cs = w ++ r ∧ '\n' ∉ w ∧ (r = [] ∨ r = ['\n']) ∧ LineRest r more := by
  generalize hline : c :: cs = line at h
  cases h with
  | last h =>
    rw [← hline, List.mem_cons, not_or] at h
    exact ⟨cs, [], (List.append_nil cs).symm, h.2, .inl rfl, .last List.not_mem_nil⟩
  | ended h =>
    rename_i u
    cases u with
    | nil => exact absurd (List.cons.inj hline).1 hc
    | cons d w =>
      rw [List.mem_cons, not_or] at h
      obtain ⟨-, rfl⟩ := List.cons.inj hline
      exact ⟨w, ['\n'], rfl, h.2, .inr rfl, .ended List.not_mem_nil more⟩

theorem scanTail_layout {c : Char} {cs more : List Char} (hline : LineRest (c :: cs) more)
    (hc : c = '#' ∨ c = '\n') (hreturn : '\r' ∉ cs) (row column : Nat) (depth : Int) :
    ∃ gaps : List Token, (∀ t ∈ gaps, t.isGap = true) ∧
      scanTail row 0 column depth (c :: cs) = { tokens := gaps, depth } := by
  have hend (row column : Nat) : ∃ gaps : List Token, (∀ t ∈ gaps, t.isGap = true) ∧
      scanTail row 0 column depth ['\n'] = { tokens := gaps, depth } := by
    refine ⟨_, fun t ht => ?_, scanTail_lineEnd row column depth⟩
    rw [List.mem_singleton.mp ht]
    exact lineEndToken_isGap depth row column
  rcases hc with rfl | rfl
  · obtain ⟨w, r, rfl, hw, hr, -⟩ := hline.exists_comment (by decide)
    have hcomment := scanTail_comment hw (fun hmem => hreturn (List.mem_append_left r hmem))
      hr row column depth
    rw [List.cons_append] at hcomment
    rw [hcomment]
    rcases hr with rfl | rfl
    · exact ⟨[_], fun t ht => by rw [List.mem_singleton.mp ht]; rfl, rfl⟩
    · obtain ⟨gaps, hgaps, htail⟩ := hend row (column + ('#' :: w).length)
      rw [htail]
      refine ⟨_ :: gaps, fun t ht => ?_, rfl⟩
      rcases List.mem_cons.mp ht with rfl | ht
      · rfl
      · exact hgaps t ht
  · obtain ⟨heq, -⟩ := hline.feed (r := cs ++ more) rfl
    rw [heq]
    exact hend row column

theorem freshLine_layout {s : Scanner} {line : List Char} {c : Char} {cs : List Char}
    (hline : line.drop (line.takeWhile isInlineBlank).length = c :: cs) (hc : c = '#' ∨ c = '\n') :
    ∃ gaps : List Token, (∀ t ∈ gaps, t.isGap = true) ∧
      s.freshLine line = .next gaps { s with row := s.row + 1 } := by
  have hlayout : (c = '#' || c = '\r' || c = '\n') = true := by
    rcases hc with rfl | rfl <;> decide
  unfold Scanner.freshLine
  simp only [hline, if_pos hlayout]
  refine ⟨_, fun t ht => ?_, rfl⟩
  rcases List.mem_append.mp ht with ht | ht
  · split at ht
    · rw [List.mem_singleton.mp ht]
      rfl
    · cases ht
  · rw [List.mem_singleton.mp ht]
    rfl

theorem lines_fresh {line more : List Char} (hreads : Reads [] (line ++ more) symbols)
    (hclean : ∀ d ∈ line ++ more, d ≠ '\r' ∧ d ≠ '\x00') (hline : LineRest line more)
    (h : Resumes [] line more symbols) {s : Scanner} (hpending : s.pending = none)
    (hmark : s.needsMark = false)
    (hcontinued : s.continued = false) (hdepth : s.depth = 0) (hnested : s.Nested)
    (last : List Char) :
    (s.lines last (.ok line :: textLines more)).Spells [] symbols := by
  have hfresh : s.line line = s.freshLine line := by
    unfold Scanner.line
    simp only [hpending, hdepth, hcontinued]
    rfl
  have hsplit : line.takeWhile isInlineBlank ++ line.dropWhile isInlineBlank = line :=
    List.takeWhile_append_dropWhile
  have hdrop : line.drop (line.takeWhile isInlineBlank).length = line.dropWhile isInlineBlank := by
    have hdrop := @List.drop_left _ (line.takeWhile isInlineBlank) (line.dropWhile isInlineBlank)
    rwa [hsplit] at hdrop
  have htail := scanTail_blanks h.lexeme (s.row + 1) 0 0
  cases hstart : line.dropWhile isInlineBlank with
  | nil =>
    -- Blanks without a line end: this is the last line, and scanning ends here.
    have hblanks : ∀ c ∈ line, isInlineBlank c = true := by
      rw [hstart, List.append_nil] at hsplit
      rw [← hsplit]
      exact List.all_eq_true.mp List.all_takeWhile
    have hmore : more = [] := by
      cases hline with
      | last => rfl
      | ended => exact absurd (hblanks '\n' (by simp)) (by decide)
    have hend : s.line line = .blankEnd := by
      rw [hfresh]
      unfold Scanner.freshLine
      simp only [hdrop, hstart]
    rw [hmore, List.append_nil] at hreads
    rw [Scanner.lines, hend, (reads_of_blanks hblanks hreads).2]
    exact .inr ⟨rfl, spells_finalTokens _ _ _⟩
  | cons c cs =>
    have hinside {d : Char} (hd : d ∈ c :: cs) : d ∈ line ++ more := by
      rw [← hsplit, hstart]
      exact List.mem_append_left more (List.mem_append_right _ hd)
    rw [hstart] at hdrop htail
    by_cases hc : c = '#' ∨ c = '\n'
    · -- Here the rest of the line gives layout as well, and the next line is scanned from the same
      -- state.
      obtain ⟨gaps, hgaps, hnext⟩ := freshLine_layout (s := s) hdrop hc
      have hfeed : '\n' ∉ line.takeWhile isInlineBlank := fun hmem =>
        absurd (List.all_eq_true.mp List.all_takeWhile _ hmem) (by decide)
      have hrest : LineRest (c :: cs) more := by
        obtain ⟨r, hr, -, hrest⟩ :=
          hline.split hfeed (r := c :: cs ++ more) (by rw [← hstart, ← List.append_assoc, hsplit])
        rw [← hstart]
        have heq := List.append_cancel_left (hsplit.trans hr)
        exact heq ▸ hrest
      have hreturn : '\r' ∉ cs := fun hmem =>
        (hclean _ (hinside (List.mem_cons_of_mem c hmem))).1 rfl
      obtain ⟨gaps', hgaps', hlayout⟩ :=
        scanTail_layout hrest hc hreturn (s.row + 1) (0 + (line.takeWhile isInlineBlank).length) 0
      have hspells := h.spells s (s.row + 1) 0 line hmark hnested
      have hsame : s.afterLine (s.row + 1) { tokens := gaps', depth := 0 } =
          { s with row := s.row + 1 } := by
        simp [Scanner.afterLine, hdepth, hpending, hcontinued]
      change (s.resume (s.row + 1) (scanTail (s.row + 1) 0 0 0 line) line more).Spells []
        symbols at hspells
      rw [htail, hlayout, Scanner.resume, hsame] at hspells
      rw [lines_of_next (hfresh.trans hnext)]
      exact (hspells.of_prepend hgaps').prepend hgaps fun _ _ _ => rfl
    · have hreturn : c ≠ '\r' := (hclean c (hinside List.mem_cons_self)).1
      have hc' : ¬(c = '#' || c = '\r' || c = '\n') = true := by
        rw [not_or] at hc
        simp [hc, hreturn]
      obtain ⟨top, htop⟩ := Option.isSome_iff_exists.mp hnested.2
      -- The only line that can go wrong: the indentation of a statement may fit no block.
      rcases freshLine_statement hnested.1 htop hdrop hc' with hfault | ⟨marks, indents, hnext,
        hmarks, hsorted, hhead⟩
      · rw [lines_of_fault (hfresh.trans hfault)]
        exact .inl rfl
      · rw [lines_of_next (hfresh.trans hnext)]
        have hspells := h.spells { s with indents } (s.row + 1) 0 line hmark ⟨hsorted, hhead ▸ rfl⟩
        change (Scanner.resume { s with indents } (s.row + 1) (scanTail (s.row + 1) 0 0 0 line)
          line more).Spells []
          symbols
          at hspells
        rw [htail, Nat.zero_add, ← hdepth] at hspells
        rw [prepend_append]
        exact hspells.prepend (hmarks.isGap rfl) fun _ _ _ => rfl

theorem lines_of_resumes {text : List Char} (hreads : Reads brackets text symbols)
    (hclean : ∀ d ∈ text, d ≠ '\r' ∧ d ≠ '\x00')
    (h : ∀ line more, text = line ++ more → LineRest line more → Resumes brackets line more symbols)
    {s : Scanner}
    (hpending : s.pending = none) (hmark : s.needsMark = false) (hcontinued : s.continued = false)
    (hdepth : s.depth = brackets.length) (hnested : s.Nested) (last : List Char) :
    (s.lines last (textLines text)).Spells brackets symbols := by
  by_cases hnil : text = []
  · subst hnil
    cases hreads
    change (s.finish last).Spells [] []
    rw [finish_of_complete hpending (by simpa using hdepth) hcontinued]
    exact .inr ⟨rfl, spells_finalTokens _ _ _⟩
  obtain ⟨line, more, rfl, hline, hlines⟩ := exists_lineRest hnil
  have hresumes := h line more rfl hline
  rw [hlines]
  by_cases hopen : brackets = []
  · subst hopen
    exact lines_fresh hreads hclean hline hresumes hpending hmark hcontinued hdepth hnested last
  · have hfresh : ¬(s.depth = 0 && !s.continued) = true := by
      simp [hdepth, hopen]
    rw [lines_of_not_fresh hpending hfresh, hdepth]
    exact hresumes.spells s (s.row + 1) 0 line hmark hnested

/-! ## Texts -/

theorem Resumes.blank {c : Char} {line more : List Char} (hc : isInlineBlank c = true)
    (h : Resumes brackets line more symbols) : Resumes brackets (c :: line) more symbols where
  lexeme := by
    rw [List.dropWhile_cons_of_pos hc]
    exact h.lexeme
  spells s row column last hmark hnested := by
    rw [scanTail_blank hc h.lexeme]
    exact h.spells s row (column + 1) last hmark hnested

theorem Resumes.feed {more : List Char} (hreads : Reads brackets more symbols)
    (hclean : ∀ d ∈ more, d ≠ '\r' ∧ d ≠ '\x00')
    (h : ∀ line more', more = line ++ more' → LineRest line more' →
      Resumes brackets line more' symbols) :
    Resumes brackets ['\n'] more symbols where
  lexeme := .inr rfl
  spells s row column last hmark hnested := by
    rw [scanTail_lineEnd]
    refine Scan.Spells.prepend ?_ (fun t ht => ?_) fun t ht hdedent => ?_
    · exact lines_of_resumes hreads hclean h (s := s.afterLine row { depth := brackets.length }) rfl
        (afterLine_needsMark hmark row _) rfl rfl hnested last
    · rw [List.mem_singleton.mp ht]
      exact lineEndToken_isGap _ _ _
    · rw [List.mem_singleton.mp ht] at hdedent
      exact absurd hdedent (lineEndToken_ne_dedent _ _ _)

theorem Resumes.comment {w r more : List Char} (hw : '\n' ∉ w) (hreturn : '\r' ∉ w)
    (hr : r = [] ∨ r = ['\n'])
    (h : Resumes brackets r more symbols) : Resumes brackets ('#' :: (w ++ r)) more symbols where
  lexeme := .inr rfl
  spells s row column last hmark hnested := by
    rw [← List.cons_append, scanTail_comment hw hreturn hr, resume_cons]
    refine (h.spells s row _ last hmark hnested).prepend (fun t ht => ?_) fun t ht hdedent => ?_
    · rw [List.mem_singleton.mp ht]
      rfl
    · rw [List.mem_singleton.mp ht] at hdedent
      cases hdedent

theorem Resumes.continuation (c : Char) (cs : List Char)
    (h : ∀ line more, c :: cs = line ++ more → LineRest line more →
      Resumes brackets line more symbols) :
    Resumes brackets ['\\', '\n'] (c :: cs) symbols where
  lexeme := .inr rfl
  spells s row column last hmark hnested := by
    obtain ⟨line, more, hs, hline, hlines⟩ := exists_lineRest (List.cons_ne_nil c cs)
    rw [scanTail_continuation, Scanner.resume, hlines,
      lines_of_not_fresh rfl (by simp [Scanner.afterLine])]
    rw [prepend_nil]
    exact (h line more hs hline).spells _ _ 0 line (afterLine_needsMark hmark row _) hnested

theorem Resumes.symbol {c : Char} {cs line more brackets' : List Char} {x : Symbol} {n : Nat}
    (hs : c :: cs = line ++ more) (hline : LineRest line more) (hc : startsSymbol c = true)
    (hx : symbol? c cs = some (x, n)) (hplain : x.isPlain = true)
    (hclean : ∀ d ∈ c :: cs, d ≠ '\r' ∧ d ≠ '\x00') (hbrackets : x.after? brackets = some brackets')
    (h : ∀ line' more', cs.drop (n - 1) = line' ++ more' → LineRest line' more' →
      Resumes brackets' line' more' symbols) : Resumes brackets line more (x :: symbols) := by
  have hblank : isInlineBlank c = false := by
    simp only [startsSymbol, Bool.not_eq_true', Bool.or_eq_false_iff] at hc
    exact hc.1.1.1
  have hdepth : (if x.kind = .operator then depthAfter brackets.length c else brackets.length) =
      brackets'.length := by
    cases x with
    | operator op =>
      rw [Symbol.after?, head?_operator hx] at hbrackets
      exact depthAfter_of_bracketsAfter? hbrackets
    | name | keyword | number | string | newline =>
      cases hbrackets
      rfl
  have hne : x ≠ .newline := by
    rintro rfl
    cases symbol?_eq_some_iff.mp hx with
    | name _ _ _ hword => rcases (nameSymbol?_eq_some hword).1 with ⟨heq, -⟩ | heq <;> cases heq
  have hlexed := lexed_of_symbol? hs hx hplain hline hc hclean
  obtain ⟨line, rfl, rfl⟩ := hline.exists_cons hs
  constructor
  · rw [List.dropWhile_cons_of_neg (by simp [hblank])]
    cases hlexed with
    | within _ _ _ _ hlexeme => exact .inr (hlexeme ▸ rfl)
    | opened _ _ _ _ hlexeme => exact .inr (hlexeme ▸ rfl)
  · intro s row column last hmark hnested
    cases hlexed with
    | within hw hword hlength hrest hlexeme hspelled =>
      subst hlength
      obtain ⟨d, w, rfl⟩ := List.exists_cons_of_ne_nil hword
      rw [List.cons_append] at hw
      obtain ⟨rfl, rfl⟩ := List.cons.inj hw
      rename_i r
      rw [scanTail_token c w hblank hlexeme, hdepth, resume_cons]
      have hdrop : (w ++ r ++ more).drop ((c :: w).length - 1) = r ++ more := by
        rw [List.length_cons, Nat.add_sub_cancel, List.append_assoc, List.drop_left]
      have hspells := (h r more hdrop hrest).spells s row (column + (c :: w).length)
        last hmark hnested
      refine hspells.symbol rfl hne ?_ hbrackets
      rw [String.toList_ofList]
      exact hspelled
    | opened hmore hlength hcloses hquote hlexeme hx' hspelled =>
      -- The rest of the line is the start of a string; what follows it is taken up where the string
      -- closes.
      rename_i closing t r
      subst hmore
      rw [scanTail_openString hblank hlexeme]
      have hdrop : (line ++ (t ++ r)).drop (n - 1) = r := by
        rw [← hlength, List.length_append, List.length_cons, ← List.append_assoc,
          show line.length + 1 + t.length - 1 =
            (line ++ t).length by rw [List.length_append]; omega, List.drop_left]
      have hreturn : '\r' ∉ t := fun hmem => (hclean '\r' (by simp [hmem])).1 rfl
      let opened : OpenString := ⟨closing, c :: line, row, column⟩
      obtain ⟨s', row', column', last', r', more', hscan, hr, hrest, hmark', hnested'⟩ :=
        lines_pending hquote hcloses hreturn (s :=
          s.afterLine row { depth := brackets.length, pending := some opened })
          rfl rfl (afterLine_needsMark hmark row _) hnested last r
      have hbrackets' : brackets = brackets' := by
        rw [hx'] at hbrackets
        exact Option.some.inj hbrackets
      have hspells :=
        (h r' more' (hdrop.trans hr) hrest).spells s' row' column' last' hmark' hnested'
      rw [← hbrackets'] at hspells hbrackets
      have hstring : (⟨.string, String.ofList (c :: line ++ t), row, column⟩ : Token).kind =
          x.kind := by
        rw [hx']
        rfl
      rw [Scanner.resume, prepend_nil, hscan]
      refine hspells.symbol hstring hne ?_ hbrackets
      rw [String.toList_ofList]
      exact hspelled

/-- The tokens of a text are the symbols that are read from it. -/
theorem resumes_of_reads {text : List Char} (h : Reads brackets text symbols)
    (hclean : ∀ d ∈ text, d ≠ '\r' ∧ d ≠ '\x00') (hplain : ∀ x ∈ symbols, x.isPlain = true)
    (line more : List Char)
    (hs : text = line ++ more) (hline : LineRest line more) :
    Resumes brackets line more symbols := by
  induction h generalizing line more with
  | done =>
    obtain ⟨rfl, rfl⟩ := List.append_eq_nil_iff.mp hs.symm
    refine ⟨.inl rfl, fun s row column last hmark hnested => ?_⟩
    change (((s.afterLine row { depth := 0 }).finish last).prepend []).Spells [] []
    rw [finish_of_complete rfl rfl rfl]
    exact .inr ⟨rfl, spells_finalTokens _ _ _⟩
  | blank hc h ih =>
    rename_i c
    have hfeed : '\n' ∉ [c] := by
      rw [List.mem_singleton]
      rintro rfl
      exact absurd hc (by decide)
    rw [List.forall_mem_cons] at hclean
    obtain ⟨r, rfl, rfl, hrest⟩ := hline.split hfeed hs
    exact (ih hclean.2 hplain r more rfl hrest).blank hc
  | comment h ih =>
    rename_i cs
    rw [List.forall_mem_cons] at hclean
    obtain ⟨line, rfl, rfl⟩ := hline.exists_cons hs
    obtain ⟨w, r, rfl, hw, hr, hrest⟩ := hline.exists_comment (by decide)
    have hdrop : (w ++ r ++ more).dropWhile (· != '\n') = r ++ more := by
      have hall : ∀ d ∈ w, (d != '\n') = true := fun d hd => bne_iff_ne.mpr fun heq => hw (heq ▸ hd)
      rw [List.append_assoc, List.dropWhile_append_of_pos hall]
      rcases hr with rfl | rfl
      · rw [hrest.eq_nil rfl]
        rfl
      · rfl
    have hreturn : '\r' ∉ w := fun hmem => (hclean.2 '\r' (by simp [hmem])).1 rfl
    refine .comment hw hreturn hr (ih (fun d hd => hclean.2 d ?_) hplain r more hdrop hrest)
    exact (List.dropWhile_suffix _).subset hd
  | lineBreak h ih =>
    obtain ⟨rfl, rfl⟩ := hline.feed hs.symm
    rw [List.forall_mem_cons] at hclean
    exact .feed h hclean.2 (ih hclean.2 hplain)
  | lineEnd h ih =>
    obtain ⟨rfl, rfl⟩ := hline.feed hs.symm
    rw [List.forall_mem_cons] at hclean hplain
    -- The end of a statement is a symbol but no token of its own: its token counts as layout.
    have hresumes := Resumes.feed h hclean.2 (ih hclean.2 hplain.2)
    exact ⟨hresumes.lexeme, fun s row column last hmark hnested =>
      (hresumes.spells s row column last hmark hnested).lineEnd⟩
  | continuation h ih =>
    rename_i cs _ c
    obtain ⟨r, rfl, hr, hrest⟩ := hline.split (w := ['\\']) (by decide) hs
    obtain ⟨rfl, rfl⟩ := hrest.feed hr.symm
    rw [List.forall_mem_cons, List.forall_mem_cons] at hclean
    exact .continuation c cs (ih hclean.2.2 hplain)
  | symbol hc hx hbrackets h ih =>
    rw [List.forall_mem_cons] at hplain
    refine .symbol hs hline hc hx hplain.1 hclean hbrackets fun line' more' => ?_
    refine ih (fun d hd => hclean d ?_) hplain.2 line' more'
    exact List.mem_cons_of_mem _ (List.mem_of_mem_drop hd)

/-- The tokens of a text are the symbols that are read from it, unless a line is indented to a
column that no block has. -/
theorem scan_spells {text : List Char} {symbols : List Symbol} (h : symbols? text = some symbols)
    (hclean : ∀ d ∈ text, d ≠ '\r' ∧ d ≠ '\x00') (hplain : ∀ x ∈ symbols, x.isPlain = true) :
    (scan (textLines text)).Spells [] symbols := by
  have hreads := reads_of_symbols? h fun hmem => (hclean _ hmem).1 rfl
  exact lines_of_resumes hreads hclean (resumes_of_reads hreads hclean hplain)
    (s := {}) rfl rfl rfl rfl
    ⟨by simp, rfl⟩ []

end Harvest.Source
