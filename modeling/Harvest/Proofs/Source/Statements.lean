import Harvest.Proofs.Source.Quoting
import Harvest.Source.Extract

/-!
# Sources of marked texts

A source that marks texts, one on each line, gives these texts back: the lines are cut apart, each
one is scanned and its literal evaluated, and the reader makes one message of each call.
-/

namespace Harvest.Source

def statement (s : List Char) : List Char :=
  ['g', 'e', 't', 't', 'e', 'x', 't', '('] ++ quote s ++ [')', '\n']

def program (texts : List String) : List Char := texts.flatMap fun s => statement s.toList

def markedMessage (file : String) (line : Int) (s : String) : Message :=
  { text := some s
    flags := Message.withBraceFlag s (Message.withPercentFlag s [])
    location := ⟨file, line⟩ }

/-! ## Lines -/

theorem textLines_program (texts : List String) :
    textLines (program texts) = texts.map fun s => .ok (statement s.toList) := by
  have hlines : Text.feedLines (program texts) = texts.map fun s => statement s.toList := by
    unfold Text.feedLines program
    induction texts with
    | nil => rfl
    | cons s texts ih =>
      have hfeed : '\n' ∉ ['g', 'e', 't', 't', 'e', 'x', 't', '('] ++ quote s.toList ++ [')'] := by
        have hquote := notMem_quote s.toList (c := '\n') (by decide)
        simp [hquote]
      have hcut := Text.feedLinesFrom_of_notMem hfeed [] (texts.flatMap fun s => statement s.toList)
      rw [ih] at hcut
      simpa [statement] using hcut
  unfold textLines
  rw [hlines, List.map_map]
  rfl

/-! ## Tokens -/

theorem scanTail_skip (row column : Nat) (depth : Int) (skipped rest : List Char) :
    scanTail row skipped.length column depth (skipped ++ rest) =
      scanTail row 0 (column + skipped.length) depth rest := by
  induction skipped generalizing column with
  | nil => rfl
  | cons c skipped ih =>
    rw [List.length_cons, List.cons_append, scanTail, ih]
    congr 1
    omega

theorem scanTail_token {row column : Nat} {depth : Int} {kind : TokenKind} (c : Char)
    (more : List Char) {rest : List Char} (hblank : isInlineBlank c = false)
    (hlexeme : lexeme? (c :: (more ++ rest)) = some (.token kind (more.length + 1))) :
    scanTail row 0 column depth (c :: (more ++ rest)) =
      (scanTail row 0 (column + (c :: more).length)
          (if kind = .operator then depthAfter depth c else depth) rest).cons
        ⟨kind, String.ofList (c :: more), row, column⟩ := by
  rw [scanTail, hblank, if_neg (by decide), hlexeme]
  simp only [Nat.add_sub_cancel]
  rw [scanTail_skip, List.length_cons, Nat.add_right_comm]
  simp [Nat.add_assoc]

def statementTokens (row : Nat) (s : List Char) : List Token :=
  [⟨.name, "gettext", row, 0⟩, ⟨.operator, "(", row, 7⟩,
    ⟨.string, String.ofList (quote s), row, 8⟩,
    ⟨.operator, ")", row, 8 + (quote s).length⟩, ⟨.newline, "\n", row, 9 + (quote s).length⟩]

theorem lexeme?_quote (s rest : List Char) (hrest : rest.head? ≠ some '\'') :
    lexeme? (quote s ++ rest) = some (.token .string (quote s).length) := by
  have hbody := standsFor_quoteBody s
  have hcut : quote s ++ rest = '\'' :: (quoteBody s ++ '\'' :: rest) := by simp [quote]
  have hstring : stringLexeme? ('\'' :: (quoteBody s ++ '\'' :: rest)) =
      some (.token .string (quote s).length) := by
    have hmark : stringMark? ('\'' :: (quoteBody s ++ '\'' :: rest)) = some [] := rfl
    unfold stringLexeme?
    simp only [hmark, List.length_nil, List.drop_zero]
    rw [hbody.take_two rest hrest, hbody.stringTail?]
    simp [quote]
    omega
  rw [hcut]
  change (stringLexeme? ('\'' :: (quoteBody s ++ '\'' :: rest))).or _ = _
  rw [hstring]
  rfl

theorem scanTail_statement (row : Nat) (s : List Char) :
    scanTail row 0 0 0 (statement s) = { tokens := statementTokens row s, depth := 0 } := by
  have hname : scanTail row 0 0 0 (statement s) =
      (scanTail row 0 7 0 ('(' :: ([] ++ (quote s ++ [')', '\n'])))).cons
        ⟨.name, "gettext", row, 0⟩ :=
    scanTail_token 'g' ['e', 't', 't', 'e', 'x', 't'] (by decide) rfl
  have hopen : scanTail row 0 7 0 ('(' :: ([] ++ (quote s ++ [')', '\n']))) =
      (scanTail row 0 8 1 (quote s ++ [')', '\n'])).cons ⟨.operator, "(", row, 7⟩ :=
    scanTail_token '(' [] (by decide) rfl
  have hquote : scanTail row 0 8 1 (quote s ++ [')', '\n']) =
      (scanTail row 0 (8 + (quote s).length) 1 (')' :: ([] ++ ['\n']))).cons
        ⟨.string, String.ofList (quote s), row, 8⟩ := by
    exact scanTail_token '\'' (quoteBody s ++ ['\'']) (by decide)
      (lexeme?_quote s [')', '\n'] (by decide))
  have hclose : scanTail row 0 (8 + (quote s).length) 1 (')' :: ([] ++ ['\n'])) =
      (scanTail row 0 (8 + (quote s).length + 1) 0 ['\n']).cons
        ⟨.operator, ")", row, 8 + (quote s).length⟩ :=
    scanTail_token ')' [] (by decide) rfl
  have hend : scanTail row 0 (8 + (quote s).length + 1) 0 ['\n'] =
      { tokens := [⟨.newline, "\n", row, 8 + (quote s).length + 1⟩], depth := 0 } := rfl
  rw [hname, hopen, hquote, hclose, hend, Nat.add_right_comm]
  rfl

theorem line_statement (row : Nat) (s : List Char) :
    Scanner.line { row } (statement s) =
      .next (statementTokens (row + 1) s) { row := row + 1 } := by
  have hfresh : Scanner.line { row } (statement s) =
      .next (scanTail (row + 1) 0 0 0 (statement s)).tokens
        { ({ row } : Scanner).afterLine (row + 1) (scanTail (row + 1) 0 0 0 (statement s)) with
          indents := [0] } := rfl
  rw [hfresh, scanTail_statement]
  rfl

/-- The tokens of statements after this row, and of the end of the source. -/
def programTokens (row : Nat) : List String → List Token
  | [] => [⟨.finish, "", row + 1, 0⟩]
  | s :: texts => statementTokens (row + 1) s.toList ++ programTokens (row + 1) texts

theorem finish_of_line (row : Nat) {last : List Char}
    (hlast : last = [] ∨ last.getLast? = some '\n') :
    Scanner.finish { row } last = ⟨[⟨.finish, "", row + 1, 0⟩], none⟩ := by
  change (⟨finalTokens (row + 1) last [0], none⟩ : Scan) = _
  unfold finalTokens
  rcases hlast with rfl | hlast
  · rfl
  · rw [hlast]
    rfl

theorem lines_statements (row : Nat) {last : List Char} (texts : List String)
    (hlast : last = [] ∨ last.getLast? = some '\n') :
    Scanner.lines { row } last (texts.map fun s => .ok (statement s.toList)) =
      ⟨programTokens row texts, none⟩ := by
  induction texts generalizing row last with
  | nil => exact finish_of_line row hlast
  | cons s texts ih =>
    have hend : (statement s.toList).getLast? = some '\n' := by
      rw [statement, List.getLast?_append]
      rfl
    rw [List.map_cons, Scanner.lines, line_statement]
    change Scan.prepend _ (Scanner.lines { row := row + 1 } _ _) = _
    rw [ih (row + 1) (.inr hend)]
    rfl

/-- Statements are scanned one by one, and nothing is wrong with them. -/
theorem scan_program (texts : List String) :
    scan (textLines (program texts)) = ⟨programTokens 0 texts, none⟩ := by
  rw [textLines_program]
  exact lines_statements 0 texts (.inl rfl)

/-! ## Messages -/

def plainReading (file : String) (firstLine : Int) : Reading :=
  { options := {}, keywords := .builtin, file, firstLine }

theorem literalValue_quote (s : String) :
    Reader.literalValue (String.ofList (quote s.toList)) = .ok (.text s) := by
  unfold Reader.literalValue
  rw [String.toList_ofList, evaluate_quote, String.ofList_toList]

def literalCall (row : Nat) (s : String) : OpenCall :=
  { keyword := some { function := "gettext" }
    row
    arguments := [⟨none, .text s, row⟩]
    inArgument := true
    inString := true }

theorem closeCall_literalCall (file : String) (firstLine : Int) (ms : List Message) (row : Nat)
    (s : String) (phase : Phase) :
    ({ phase, messages := ms } : Reader).closeCall (plainReading file firstLine)
        { literalCall row s with inString := false } =
      .ok { messages := ms ++ [markedMessage file (firstLine + row) s] } := by
  have hpick : Keyword.pick { function := "gettext" } [⟨none, .text s, row⟩] =
      .ok { text := some s } := rfl
  unfold Reader.closeCall literalCall
  simp only [hpick]
  simp [Reader.addMessage, Reader.wantsDomain, Reader.remarkFor, plainReading,
    Message.withFormatFlags, Catalog.distinct, markedMessage]

theorem run_statementTokens (file : String) (firstLine : Int) (ms : List Message) (row : Nat)
    (s : String) (rest : List Token) :
    Reader.run (plainReading file firstLine) { messages := ms }
        (statementTokens row s.toList ++ rest) =
      Reader.run (plainReading file firstLine)
        { messages := ms ++ [markedMessage file (firstLine + row) s] } rest := by
  let g := plainReading file firstLine
  let named : Reader :=
    { phase := .keyword (some { function := "gettext" }) row, messages := ms }
  let opened : Reader :=
    { phase := .call { keyword := some { function := "gettext" }, row }, messages := ms }
  let filled : Reader := { phase := .call (literalCall row s), messages := ms }
  let done : Reader := { messages := ms ++ [markedMessage file (firstLine + row) s] }
  have hname : Reader.step g { messages := ms } ⟨.name, "gettext", row, 0⟩ = .ok named := rfl
  have hopen : named.step g ⟨.operator, "(", row, 7⟩ = .ok opened := rfl
  have hliteral : opened.step g ⟨.string, String.ofList (quote s.toList), row, 8⟩ = .ok filled := by
    simp only [opened, Reader.step, Reader.dispatch, Reader.handle, Reader.inCall,
      Reader.stringInCall, literalValue_quote]
    rfl
  have hclose (column : Nat) : filled.step g ⟨.operator, ")", row, column⟩ = .ok done :=
    closeCall_literalCall file firstLine ms row s _
  have hend (column : Nat) : done.step g ⟨.newline, "\n", row, column⟩ = .ok done := rfl
  change Reader.run g _ _ = Reader.run g done rest
  simp only [statementTokens, List.cons_append, List.nil_append, Reader.run, hname, hopen, hliteral,
    hclose, hend]

/-- A reader makes one message of each statement. -/
theorem run_programTokens (file : String) (firstLine : Int) (ms : List Message) (row : Nat)
    (texts : List String) :
    Reader.run (plainReading file firstLine) { messages := ms } (programTokens row texts) =
      ({ messages := ms ++
          texts.mapIdx fun i s => markedMessage file (firstLine + (row + i + 1 : Nat)) s },
              none) := by
  induction texts generalizing ms row with
  | nil => simp [programTokens, Reader.run, Reader.step, Reader.dispatch, Reader.handle]
  | cons s texts ih =>
    have hrows (i : Nat) : row + 1 + i + 1 = row + (i + 1) + 1 := by omega
    rw [programTokens, run_statementTokens, ih, List.mapIdx_cons, List.append_assoc]
    simp only [hrows, List.singleton_append, Nat.add_zero]

theorem extract_of_run {file : String} {firstLine : Int} {lines : List Line} {tokens : List Token}
    {ms : List Message} (printed : Transcript) (hscan : scan lines = ⟨tokens, none⟩)
    (hrun : Reader.run (plainReading file firstLine) {} tokens = ({ messages := ms }, none)) :
    (ExceptT.run (extract {} file firstLine lines)).run { printed } = (.ok ms, { printed }) := by
  unfold extract
  rw [hscan]
  -- The session has the built-in keywords before and after an empty list of keywords is added.
  change (ExceptT.run (conclude file firstLine none
    (Reader.run (plainReading file firstLine) {} tokens))).run { printed } = _
  rw [hrun]
  rfl

/-- A source that marks texts with `gettext`, one on each line, gives these texts in order and
nothing else: no context, plural or comment, and each on its own line. -/
theorem extractText_program (file : String) (firstLine : Int) (texts : List String)
    (printed : Transcript) :
    (ExceptT.run (extractText {} file firstLine (program texts))).run { printed } =
      (.ok (texts.mapIdx fun i s => markedMessage file (firstLine + (i + 1 : Nat)) s),
        { printed }) := by
  have hrun := run_programTokens file firstLine [] 0 texts
  simp only [Nat.zero_add, List.nil_append] at hrun
  exact extract_of_run printed (scan_program texts) hrun

end Harvest.Source
