import Harvest.Proofs.Source.Displaced

/-!
# The tokens of lines that follow others

Lines give the same tokens wherever they stand in a source, except for the tokens that say how
blocks open and close: these depend on the blocks that are open before. Once a statement has been
scanned, the innermost block is the one of that statement, whatever there was before; from there on
a line opens or closes a block in both sources or in neither, though it may close more blocks in one
of them than in the other.
-/

namespace Harvest.Source

/-! ## Blocks -/

theorem dedentTo_spec {column n : Nat} {blocks left : List Nat} (hsorted : blocks.Pairwise (· > ·))
    (hmem : column ∈ blocks) (h : dedentTo column blocks = some (n, left)) :
    left.head? = some column ∧ left.Pairwise (· > ·) ∧ (n = 0 ↔ blocks.head? = some column) := by
  induction blocks generalizing n with
  | nil => cases hmem
  | cons top outer ih =>
    obtain ⟨habove, houter⟩ := List.pairwise_cons.mp hsorted
    rw [dedentTo] at h
    by_cases hlt : column < top
    · rw [if_pos hlt] at h
      split at h
      · rename_i hcontains
        obtain ⟨⟨m, left'⟩, hrest, heq⟩ := Option.map_eq_some_iff.mp h
        cases heq
        obtain ⟨hhead, hleft, -⟩ := ih houter (by simpa using hcontains) hrest
        refine ⟨hhead, hleft, ?_⟩
        simp only [Nat.add_eq_zero_iff, List.head?_cons, Option.some.injEq]
        omega
      · cases h
    · rw [if_neg hlt] at h
      cases h
      have htop : top = column := by
        rcases List.mem_cons.mp hmem with rfl | hmem
        · rfl
        · have := habove column hmem
          omega
      rw [htop]
      exact ⟨rfl, htop ▸ hsorted, by simp⟩

/-- The tokens with which a line at this column opens a block by the token `mark`, or
closes blocks. -/
inductive BlockMarks (mark : Token) (top column : Nat) (marks : List Token) : Prop
  | opens (hlt : top < column) (h : marks = [mark])
  | stays (heq : column = top) (h : marks = [])
  | closes (hlt : column < top) (hne : marks ≠ []) (h : ∀ t ∈ marks, t.kind = .dedent)

/-- A line that starts a statement opens or closes blocks so that the innermost is at its column. -/
theorem freshLine_statement {s : Scanner} {line : List Char} {c : Char} {cs : List Char} {top : Nat}
    (hsorted : s.indents.Pairwise (· > ·)) (htop : s.indents.head? = some top)
    (hline : line.drop (line.takeWhile isInlineBlank).length = c :: cs)
    (hc : ¬(c = '#' || c = '\r' || c = '\n') = true) :
    let column := (line.takeWhile isInlineBlank).length
    let indent := indentColumn (line.takeWhile isInlineBlank)
    let tail := scanTail (s.row + 1) 0 column s.depth (c :: cs)
    let mark : Token := ⟨.indent, String.ofList (line.takeWhile isInlineBlank), s.row + 1, 0⟩
    s.freshLine line = .fault [] .badDedent ∨
      ∃ marks indents, s.freshLine line =
        .next (marks ++ tail.tokens) { s.afterLine (s.row + 1) tail with indents } ∧
        BlockMarks mark top indent marks ∧ indents.Pairwise (· > ·) ∧
            indents.head? = some indent := by
  intro column indent tail mark
  obtain ⟨outer, hindents⟩ : ∃ outer, s.indents = top :: outer := by
    cases hindents : s.indents with
    | nil =>
      rw [hindents] at htop
      cases htop
    | cons first outer =>
      rw [hindents] at htop
      cases htop
      exact ⟨outer, rfl⟩
  rw [hindents] at hsorted
  unfold Scanner.freshLine
  simp only [hline, if_neg hc, hindents]
  by_cases hlt : top < indent
  · rw [if_pos hlt]
    refine .inr ⟨_, _, rfl, .opens hlt rfl, ?_, rfl⟩
    refine List.pairwise_cons.mpr ⟨fun b hb => ?_, hsorted⟩
    rcases List.mem_cons.mp hb with rfl | hb
    · exact hlt
    · have := (List.pairwise_cons.mp hsorted).1 b hb
      omega
  · rw [if_neg hlt]
    split
    · rename_i n left hleft
      -- A line that closes blocks comes back to one that is open.
      have hmem : indent ∈ top :: outer := by
        by_cases hbelow : indent < top
        · rw [dedentTo, if_pos hbelow] at hleft
          split at hleft
          · rename_i hcontains
            exact List.mem_cons_of_mem _ (by simpa using hcontains)
          · cases hleft
        · have heq : indent = top := by omega
          exact heq ▸ List.mem_cons_self
      obtain ⟨hhead, hsorted', hzero⟩ := dedentTo_spec hsorted hmem hleft
      refine .inr ⟨_, _, rfl, ?_, hsorted', hhead⟩
      by_cases hn : n = 0
      · have heq : top = indent := by simpa using hzero.mp hn
        exact .stays heq.symm (by rw [hn]; rfl)
      · have hne : ¬top = indent := fun heq => hn (hzero.mpr (congrArg some heq))
        refine .closes (by omega) (by simp [hn]) fun t ht => ?_
        rw [(List.mem_replicate.mp ht).2]
    · exact .inl rfl

/-! ## Lines further down -/

def OpenString.shift (o : OpenString) (k : Nat) : OpenString := { o with row := o.row + k }

def LineTail.shift (tail : LineTail) (k : Nat) : LineTail :=
  { tail with tokens := tail.tokens.map (·.shift k), pending := tail.pending.map (·.shift k) }

theorem scanTail_shift (k row skip column : Nat) (depth : Int) (cs : List Char) :
    scanTail (row + k) skip column depth cs = (scanTail row skip column depth cs).shift k := by
  induction cs generalizing skip column depth with
  | nil => cases skip <;> rfl
  | cons c cs ih =>
    cases skip with
    | succ skip => exact ih skip (column + 1) depth
    | zero =>
      rw [scanTail, scanTail]
      cases isInlineBlank c with
      | true =>
        rw [if_pos rfl, if_pos rfl]
        cases hrest : cs.dropWhile isInlineBlank with
        | nil => rfl
        | cons d rest =>
          dsimp only
          cases (lexeme? (d :: rest)).isSome with
          | true => exact ih 0 (column + 1) depth
          | false => exact congrArg (LineTail.cons _) (ih 0 (column + 1) depth)
      | false =>
        rw [if_neg Bool.false_ne_true, if_neg Bool.false_ne_true]
        cases lexeme? (c :: cs) with
        | none => exact congrArg (LineTail.cons _) (ih 0 (column + 1) depth)
        | some lexeme =>
          cases lexeme with
          | continuation => rfl
          | openString closing => rfl
          | lineEnd length => exact congrArg (LineTail.cons _) (ih (length - 1) (column + 1) depth)
          | token kind length => exact congrArg (LineTail.cons _) (ih (length - 1) (column + 1) _)

/-- The second scanner is as far as the first, `k` rows further down. Before the first statement it
may be inside other blocks; after that both are in a block at the same column. -/
structure Scanner.Abreast (k : Nat) (started : Bool) (s s' : Scanner) : Prop where
  row : s'.row = s.row + k
  depth : s'.depth = s.depth
  continued : s'.continued = s.continued
  pending : s'.pending = s.pending.map (·.shift k)
  needsMark : s'.needsMark = s.needsMark
  sorted : s.indents.Pairwise (· > ·)
  sorted' : s'.indents.Pairwise (· > ·)
  blocks : ∃ top top', s.indents.head? = some top ∧ s'.indents.head? = some top' ∧
    (started = true → top' = top)
  fresh : started = false → s.pending = none ∧ s.depth = 0 ∧ s.continued = false

/-- The second tokens are the first ones `k` rows further down, but for tokens that open and close
blocks. Before the first statement there may be any of these; after that both close blocks or
neither does. -/
inductive Moved (k : Nat) : Bool → List Token → List Token → Prop
  | token (t : Token) {ts us : List Token} (h : Moved k true ts us) :
      Moved k true (t :: ts) (t.shift k :: us)
  | gap (t : Token) (ht : t.isGap = true) {ts us : List Token} (h : Moved k false ts us) :
      Moved k false (t :: ts) (t.shift k :: us)
  | start {l m : List Token} (hl : ∀ t ∈ l, t.isGap = true) (hm : ∀ t ∈ m, t.isGap = true)
      {ts us : List Token} (h : Moved k true ts us) : Moved k false (l ++ ts) (m ++ us)
  | dedents {l m : List Token} (hl : l ≠ []) (hl' : ∀ t ∈ l, t.kind = .dedent) (hm : m ≠ [])
      (hm' : ∀ t ∈ m, t.kind = .dedent) {ts us : List Token} (h : Moved k true ts us) :
      Moved k true (l ++ ts) (m ++ us)
  | finish {started : Bool} {l m : List Token} (hl : ∀ t ∈ l, t.kind = .dedent)
      (hm : ∀ t ∈ m, t.kind = .dedent)
      {t : Token} (ht : t.kind = .finish) : Moved k started (l ++ [t]) (m ++ [t.shift k])

variable {k : Nat} {started : Bool} {s s' : Scanner}

theorem Moved.append {ts us : List Token} (h : Moved k true ts us) (l : List Token) :
    Moved k true (l ++ ts) (l.map (·.shift k) ++ us) := by
  induction l with
  | nil => exact h
  | cons t l ih => exact .token t ih

theorem Moved.cons_gap {ts us : List Token} (h : Moved k started ts us) {t : Token}
    (ht : t.isGap = true) :
    Moved k started (t :: ts) (t.shift k :: us) := by
  cases started with
  | false => exact .gap t ht h
  | true => exact .token t h

theorem Scanner.Abreast.afterLine (h : s.Abreast k started s') (tail : LineTail)
    {indents indents' : List Nat}
    {top : Nat} (hsorted : indents.Pairwise (· > ·)) (hsorted' : indents'.Pairwise (· > ·))
    (htop : indents.head? = some top) (htop' : indents'.head? = some top) :
    Scanner.Abreast k true { s.afterLine (s.row + 1) tail with indents }
      { s'.afterLine (s'.row + 1) (tail.shift k) with indents := indents' } := by
  have hclosing : ((tail.shift k).pending.map fun o => !o.closing.triple) =
      tail.pending.map fun o => !o.closing.triple := by
    unfold LineTail.shift
    rw [Option.map_map]
    rfl
  refine ⟨?_, rfl, rfl, rfl, ?_, hsorted, hsorted', ⟨top, top, htop, htop', fun _ => rfl⟩, nofun⟩
  · change s'.row + 1 = s.row + 1 + k
    rw [h.row]
    omega
  · change (s'.needsMark || _) = (s.needsMark || _)
    rw [h.needsMark, hclosing]

/-- What a line gives in both sources, unless it closes a block in one of them that is not there:
tokens that go before any that are moved. -/
def LinesMove (k : Nat) (started : Bool) (x y : LineResult) : Prop :=
  (∃ fault, x = .fault [] fault) ∨ (∃ fault, y = .fault [] fault) ∨
    ∃ tokens s tokens' s' started', x = .next tokens s ∧ y = .next tokens' s' ∧
      Scanner.Abreast k started' s s' ∧
      ∀ ts us, Moved k started' ts us → Moved k started (tokens ++ ts) (tokens' ++ us)

theorem LinesMove.next {tokens tokens' : List Token} {r r' : Scanner} {started' : Bool}
    (hscanners : Scanner.Abreast k started' r r')
    (hmoved : ∀ ts us, Moved k started' ts us → Moved k started (tokens ++ ts) (tokens' ++ us)) :
    LinesMove k started (.next tokens r) (.next tokens' r') :=
  .inr (.inr ⟨_, _, _, _, started', rfl, rfl, hscanners, hmoved⟩)

theorem stringLine_move (h : s.Abreast k true s') (opened : OpenString) (line : List Char) :
    LinesMove k true (s.stringLine opened line) (s'.stringLine (opened.shift k) line) := by
  have hrow : s'.row + 1 = s.row + 1 + k := by
    rw [h.row]
    omega
  obtain ⟨top, top', htop, htop', heq⟩ := h.blocks
  rw [heq rfl] at htop'
  have hclosing : (opened.shift k).closing = opened.closing := rfl
  unfold Scanner.stringLine
  dsimp only
  rw [hclosing, h.needsMark, h.depth, hrow]
  cases opened.closing.length? line with
  | some length =>
    dsimp only
    rw [scanTail_shift k (s.row + 1)]
    have hclear :
        Scanner.Abreast k true { s with needsMark := false } { s' with needsMark := false } :=
      ⟨h.row, h.depth, h.continued, h.pending, rfl, h.sorted, h.sorted', h.blocks, nofun⟩
    have hafter :=
      hclear.afterLine (scanTail (s.row + 1) 0 length s.depth (line.drop length)) h.sorted
      h.sorted' htop htop'
    refine LinesMove.next (?_ : Scanner.Abreast k true _ _) fun ts us hmoved => ?_
    · rw [hrow] at hafter
      exact hafter
    · exact .token _ (hmoved.append _)
  | none =>
    dsimp only
    split
    · refine LinesMove.next (?_ : Scanner.Abreast k true _ _) fun ts us hmoved => .token _ hmoved
      exact ⟨rfl, rfl, h.continued, rfl, rfl, h.sorted, h.sorted',
        ⟨top, top, htop, htop', fun _ => rfl⟩, nofun⟩
    · refine LinesMove.next (?_ : Scanner.Abreast k true _ _) fun ts us hmoved => hmoved
      exact ⟨rfl, rfl, h.continued, rfl, rfl, h.sorted, h.sorted',
        ⟨top, top, htop, htop', fun _ => rfl⟩, nofun⟩

theorem drop_blanks_ne_nil {line : List Char} (hend : line.getLast? = some '\n') :
    line.drop (line.takeWhile isInlineBlank).length ≠ [] := by
  intro hnil
  have hlength : line.length ≤ (line.takeWhile isInlineBlank).length := List.drop_eq_nil_iff.mp hnil
  have hall : line.takeWhile isInlineBlank = line :=
    (List.takeWhile_prefix isInlineBlank).eq_of_length_le hlength
  have hblank : line.all isInlineBlank = true := hall ▸ List.all_takeWhile
  have hfeed := List.all_eq_true.mp hblank '\n' (List.mem_of_getLast? hend)
  exact absurd hfeed (by decide)

theorem BlockMarks.isGap {mark : Token} {top column : Nat} {marks : List Token}
    (h : BlockMarks mark top column marks) (hmark : mark.kind = .indent) :
    ∀ t ∈ marks, t.isGap = true := by
  intro t ht
  cases h with
  | opens hlt hmarks =>
    rw [hmarks, List.mem_singleton] at ht
    simp [Token.isGap, ht, hmark]
  | stays heq hmarks =>
    rw [hmarks] at ht
    cases ht
  | closes hlt hne hall => simp [Token.isGap, hall t ht]

theorem freshLine_move (h : s.Abreast k started s') {line : List Char}
    (hend : line.getLast? = some '\n') :
    LinesMove k started (s.freshLine line) (s'.freshLine line) := by
  have hrow : s'.row + 1 = s.row + 1 + k := by
    rw [h.row]
    omega
  obtain ⟨top, top', htop, htop', heq⟩ := h.blocks
  cases hline : line.drop (line.takeWhile isInlineBlank).length with
  | nil => exact absurd hline (drop_blanks_ne_nil hend)
  | cons c cs =>
    by_cases hc : (c = '#' || c = '\r' || c = '\n') = true
    · -- Nothing but a comment: no block is opened or closed.
      unfold Scanner.freshLine
      simp only [hline, if_pos hc, hrow]
      refine LinesMove.next (?_ : Scanner.Abreast k started _ _) fun ts us hmoved => ?_
      · exact ⟨rfl, h.depth, h.continued, h.pending, h.needsMark, h.sorted, h.sorted',
          h.blocks, h.fresh⟩
      · by_cases hnote : c = '#'
        · simp only [if_pos hnote]
          exact (hmoved.cons_gap rfl).cons_gap rfl
        · simp only [if_neg hnote]
          exact hmoved.cons_gap rfl
    · have hfirst := freshLine_statement h.sorted htop hline hc
      have hsecond := freshLine_statement h.sorted' htop' hline hc
      rcases hfirst with hfault | ⟨marks, indents, hfirst, hmarks, hsorted, hhead⟩
      · exact .inl ⟨_, hfault⟩
      rcases hsecond with hfault' | ⟨marks', indents', hsecond, hmarks', hsorted', hhead'⟩
      · exact .inr (.inl ⟨_, hfault'⟩)
      have hafter :=
        h.afterLine (scanTail (s.row + 1) 0 (line.takeWhile isInlineBlank).length s.depth (c :: cs))
        hsorted hsorted' hhead hhead'
      rw [hfirst, hsecond, h.depth, hrow, scanTail_shift k (s.row + 1)]
      rw [hrow] at hafter
      refine .next hafter fun ts us hmoved => ?_
      rw [List.append_assoc, List.append_assoc]
      have htail := hmoved.append
        (scanTail (s.row + 1) 0 (line.takeWhile isInlineBlank).length s.depth (c :: cs)).tokens
      -- Both scanners stand at one column once a statement has been seen, so their marks agree from
      -- there on.
      cases started with
      | false => exact .start (hmarks.isGap rfl) (hmarks'.isGap rfl) htail
      | true =>
        rw [heq rfl] at hmarks'
        cases hmarks with
        | opens hlt hmarks =>
          cases hmarks' with
          | opens _ hmarks' =>
            rw [hmarks, hmarks', hrow]
            exact .token _ htail
          | stays => omega
          | closes => omega
        | stays hcolumn hmarks =>
          cases hmarks' with
          | opens => omega
          | stays _ hmarks' =>
            rw [hmarks, hmarks']
            exact htail
          | closes => omega
        | closes hlt hne hall =>
          cases hmarks' with
          | opens => omega
          | stays => omega
          | closes _ hne' hall' => exact .dedents hne hall hne' hall' htail

theorem line_move (h : s.Abreast k started s') {line : List Char}
    (hend : line.getLast? = some '\n') :
    LinesMove k started (s.line line) (s'.line line) := by
  have hpending' := h.pending
  unfold Scanner.line
  cases hpending : s.pending with
  | some opened =>
    rw [hpending, Option.map_some] at hpending'
    rw [hpending']
    cases started with
    | false => exact absurd (h.fresh rfl).1 (by rw [hpending]; nofun)
    | true => exact stringLine_move h opened line
  | none =>
    rw [hpending, Option.map_none] at hpending'
    rw [hpending', h.depth, h.continued]
    by_cases hfresh : (s.depth = 0 && !s.continued) = true
    · simp only [if_pos hfresh]
      exact freshLine_move h hend
    · have hrow : s'.row + 1 = s.row + 1 + k := by
        rw [h.row]
        omega
      simp only [if_neg hfresh]
      cases started with
      | false =>
        obtain ⟨-, hdepth, hcontinued⟩ := h.fresh rfl
        simp [hdepth, hcontinued] at hfresh
      | true =>
        obtain ⟨top, top', htop, htop', heq⟩ := h.blocks
        rw [heq rfl] at htop'
        have hafter := h.afterLine (scanTail (s.row + 1) 0 0 s.depth line) h.sorted
          h.sorted' htop htop'
        rw [hrow] at hafter
        rw [hrow, scanTail_shift k (s.row + 1)]
        exact .next hafter fun ts us hmoved => hmoved.append _

/-- A line end is never left out after a line that has one. -/
theorem finalTokens_of_ended {row : Nat} {last : List Char}
    (hlast : last = [] ∨ last.getLast? = some '\n')
    (blocks : List Nat) : finalTokens row last blocks =
      List.replicate (blocks.length - 1) ⟨.dedent, "", row, 0⟩ ++ [⟨.finish, "", row, 0⟩] := by
  unfold finalTokens
  rcases hlast with rfl | hlast
  · rfl
  · simp [hlast]

theorem finish_fault_eq_none {last : List Char} (h : (s.finish last).fault = none) :
    s.pending = none ∧ s.depth = 0 ∧ s.continued = false := by
  unfold Scanner.finish at h
  split at h
  · cases h
  · split at h
    · rename_i hpending hrest
      simp only [Bool.and_eq_true, decide_eq_true_eq, Bool.not_eq_true'] at hrest
      exact ⟨hpending, hrest⟩
    · cases h

theorem finish_of_complete (hpending : s.pending = none) (hdepth : s.depth = 0)
    (hcontinued : s.continued = false) (last : List Char) :
    s.finish last = ⟨finalTokens (s.row + 1) last s.indents, none⟩ := by
  unfold Scanner.finish
  rw [hpending, hdepth, hcontinued]
  rfl

theorem lines_of_next {line : List Char} {tokens : List Token}
    (hnext : s.line line = .next tokens s') (last : List Char) (rest : List Line) :
    s.lines last (.ok line :: rest) = (s'.lines line rest).prepend tokens := by
  rw [Scanner.lines, hnext]

theorem lines_of_fault {line : List Char} {tokens : List Token} {fault : ScanFault}
    (hfault : s.line line = .fault tokens fault) (last : List Char) (rest : List Line) :
    s.lines last (.ok line :: rest) = ⟨tokens, some fault⟩ := by
  rw [Scanner.lines, hfault]

/-- Lines with line ends that can be scanned in both places give the same tokens but for those of
blocks. -/
theorem lines_move {lines : List (List Char)} (hends : ∀ line ∈ lines, line.getLast? = some '\n')
    {last last' : List Char} (hlast : last = [] ∨ last.getLast? = some '\n')
    (hlast' : last' = [] ∨ last'.getLast? = some '\n') (h : s.Abreast k started s')
    (hscan : (s.lines last (lines.map .ok)).fault = none)
    (hscan' : (s'.lines last' (lines.map .ok)).fault = none) :
    Moved k started (s.lines last (lines.map .ok)).tokens
      (s'.lines last' (lines.map .ok)).tokens := by
  induction lines generalizing s s' started last last' with
  | nil =>
    change Moved k started (s.finish last).tokens (s'.finish last').tokens
    obtain ⟨hpending, hdepth, hcontinued⟩ := finish_fault_eq_none hscan
    obtain ⟨hpending', hdepth', hcontinued'⟩ := finish_fault_eq_none hscan'
    have hrow : s'.row + 1 = s.row + 1 + k := by
      rw [h.row]
      omega
    rw [finish_of_complete hpending hdepth hcontinued,
      finish_of_complete hpending' hdepth' hcontinued',
      finalTokens_of_ended hlast, finalTokens_of_ended hlast', hrow]
    have hdedents (n row : Nat) : ∀ t ∈ List.replicate n (⟨.dedent, "", row, 0⟩ : Token),
        t.kind = .dedent := by
      intro t ht
      rw [(List.mem_replicate.mp ht).2]
    exact .finish (hdedents _ _) (hdedents _ _) rfl
  | cons line lines ih =>
    rw [List.forall_mem_cons] at hends
    rw [List.map_cons] at hscan hscan' ⊢
    -- Neither line is a fault, so both scanners go on abreast.
    rcases line_move h hends.1 with ⟨fault, hfault⟩ | ⟨fault, hfault⟩ |
      ⟨tokens, r, tokens', r', started', hnext, hnext', habreast, hmoved⟩
    · rw [lines_of_fault hfault] at hscan
      cases hscan
    · rw [lines_of_fault hfault] at hscan'
      cases hscan'
    · rw [lines_of_next hnext] at hscan ⊢
      rw [lines_of_next hnext'] at hscan' ⊢
      exact hmoved _ _ (ih hends.2 (.inr hends.1) (.inr hends.1) habreast hscan hscan')

end Harvest.Source
