import Harvest.Proofs.Source.CallSites

/-!
# Tokens come in the order of their rows

A line gives tokens of its own row, and before them at most a string that has been opened on an
earlier row. No token has been given since that row, so the tokens of a source never go back to an
earlier one.
-/

namespace Harvest.Source

/-- The rows of these tokens go from `lo` to `hi` and never back. -/
structure Climbs (lo : Nat) (ts : List Token) (hi : Nat) : Prop where
  bounds : lo ≤ hi
  within : ∀ t ∈ ts, lo ≤ t.row ∧ t.row ≤ hi
  rising : ts.Pairwise (·.row ≤ ·.row)

namespace Climbs

variable {lo mid hi : Nat} {ts us : List Token}

theorem nil (h : lo ≤ hi) : Climbs lo [] hi := ⟨h, nofun, .nil⟩

theorem append (ht : Climbs lo ts mid) (hu : Climbs mid us hi) : Climbs lo (ts ++ us) hi := by
  have hlo := ht.bounds
  have hhi := hu.bounds
  refine ⟨by omega, ?_, List.pairwise_append.mpr ⟨ht.rising, hu.rising, ?_⟩⟩
  · intro t hmem
    rcases List.mem_append.mp hmem with hmem | hmem
    · have hrow := ht.within t hmem
      omega
    · have hrow := hu.within t hmem
      omega
  · intro t htmem u humem
    have hbelow := (ht.within t htmem).2
    have habove := (hu.within u humem).1
    omega

theorem of_row {row : Nat} (h : ∀ t ∈ ts, t.row = row) (hlo : lo ≤ row) : Climbs lo ts row := by
  refine ⟨hlo, fun t ht => ?_, ?_⟩
  · have hrow := h t ht
    omega
  · refine List.pairwise_of_forall_mem_list fun t ht u hu => ?_
    have hrows : t.row = u.row := (h t ht).trans (h u hu).symm
    omega

theorem cons {t : Token} (hlo : lo ≤ t.row) (hmid : t.row ≤ mid) (hu : Climbs mid us hi) :
    Climbs lo (t :: us) hi := by
  have hhi := hu.bounds
  have hone : Climbs lo [t] mid := by
    refine ⟨by omega, fun u hmem => ?_, List.pairwise_singleton _ _⟩
    rw [List.mem_singleton.mp hmem]
    exact ⟨hlo, hmid⟩
  exact hone.append hu

end Climbs

/-! ## Lines -/

def Scanner.floor (s : Scanner) : Nat := (s.pending.map (·.row)).getD s.row

/-- An open string has been opened on a row that has been scanned. -/
def Scanner.Opened (s : Scanner) : Prop := ∀ o ∈ s.pending, o.row ≤ s.row

theorem row_of_pending_scanTail {row skip column : Nat} {depth : Int}
    {cs : List Char} {o : OpenString}
    (h : (scanTail row skip column depth cs).pending = some o) : o.row = row := by
  fun_induction scanTail row skip column depth cs with
  | case1 | case3 | case7 => cases h
  | case8 =>
    cases h
    rfl
  | case2 _ _ _ _ _ ih | case4 _ _ _ _ _ _ _ ih | case5 _ _ _ _ _ _ _ _ ih
  | case6 _ _ _ _ _ _ _ ih | case9 _ _ _ _ _ _ _ _ ih | case10 _ _ _ _ _ _ _ _ _ _ ih => exact ih h

theorem floor_afterLine (s : Scanner) (row skip column : Nat) (depth : Int) (cs : List Char) :
    (s.afterLine row (scanTail row skip column depth cs)).floor = row ∧
      (s.afterLine row (scanTail row skip column depth cs)).Opened := by
  unfold Scanner.floor Scanner.Opened Scanner.afterLine
  dsimp only
  cases hpending : (scanTail row skip column depth cs).pending with
  | none => exact ⟨rfl, nofun⟩
  | some o =>
    have hrow := row_of_pending_scanTail hpending
    refine ⟨hrow, ?_⟩
    rintro _ ⟨⟩
    exact Nat.le_of_eq hrow

/-- What a line gives lies between what lies behind before it and after it. -/
def LineResult.Climbs (lo : Nat) : LineResult → Prop
  | .next tokens s => Source.Climbs lo tokens s.floor ∧ s.Opened
  | .blankEnd => True
  | .fault tokens _ => tokens = []

variable {s : Scanner} {line : List Char}

theorem stringLine_climbs {opened : OpenString} (h : opened.row ≤ s.row) :
    (s.stringLine opened line).Climbs opened.row := by
  unfold Scanner.stringLine
  dsimp only
  split
  · rename_i length _
    obtain ⟨hfloor, hopened⟩ :=
      floor_afterLine { s with needsMark := false } (s.row + 1) 0 length s.depth (line.drop length)
    refine ⟨?_, hopened⟩
    rw [hfloor]
    exact .cons (Nat.le_refl _) h (.of_row (fun t ht => row_of_mem_scanTail ht) (by omega))
  · split
    · refine ⟨.cons (Nat.le_refl _) h (.nil ?_), nofun⟩
      exact Nat.le_succ s.row
    · refine ⟨.nil (Nat.le_refl _), ?_⟩
      rintro _ ⟨⟩
      exact Nat.le_succ_of_le h

theorem freshLine_climbs (h : s.pending = none) : (s.freshLine line).Climbs s.row := by
  have hopen {marks : List Token} (hmarks : ∀ t ∈ marks, t.row = s.row + 1) (column : Nat)
      (cs : List Char) (indents : List Nat) :
      (LineResult.next (marks ++ (scanTail (s.row + 1) 0 column s.depth cs).tokens)
        { s.afterLine (s.row + 1) (scanTail (s.row + 1) 0 column s.depth cs) with indents }).Climbs
          s.row := by
    obtain ⟨hfloor, hopened⟩ := floor_afterLine s (s.row + 1) 0 column s.depth cs
    refine ⟨?_, hopened⟩
    -- Indentation says nothing about rows.
    rw [show Scanner.floor { s.afterLine _ _ with indents } = s.row + 1 from hfloor]
    refine .of_row (fun t ht => ?_) (by omega)
    rcases List.mem_append.mp ht with ht | ht
    · exact hmarks t ht
    · exact row_of_mem_scanTail ht
  unfold Scanner.freshLine
  dsimp only
  split
  · trivial
  · split
    · refine ⟨?_, ?_⟩
      · have hfloor : ({ s with row := s.row + 1 } : Scanner).floor = s.row + 1 := by
          simp [Scanner.floor, h]
        rw [hfloor]
        refine .of_row (fun t ht => ?_) (by omega)
        rcases List.mem_append.mp ht with ht | ht
        · split at ht
          · rw [List.mem_singleton.mp ht]
          · cases ht
        · rw [List.mem_singleton.mp ht]
      · intro o ho
        rw [h] at ho
        cases ho
    · split
      · exact hopen (fun t ht => absurd ht List.not_mem_nil) _ _ _
      · split
        · exact hopen (fun t ht => by rw [List.mem_singleton.mp ht]) _ _ _
        · split
          · exact hopen (fun t ht => by rw [List.eq_of_mem_replicate ht]) _ _ _
          · rfl

theorem line_climbs (h : s.Opened) : (s.line line).Climbs s.floor := by
  unfold Scanner.line Scanner.floor
  cases hpending : s.pending with
  | some opened => exact stringLine_climbs (h opened hpending)
  | none =>
    dsimp only
    split
    · exact freshLine_climbs hpending
    · obtain ⟨hfloor, hopened⟩ := floor_afterLine s (s.row + 1) 0 0 s.depth line
      refine ⟨?_, hopened⟩
      rw [hfloor]
      exact .of_row (fun t ht => row_of_mem_scanTail ht) (Nat.le_succ _)

/-! ## Sources -/

theorem finalTokens_climb (row : Nat) (last : List Char) (indents : List Nat) :
    Climbs row (finalTokens (row + 1) last indents) (row + 1) := by
  have hend : Climbs (row + 1) (List.replicate (indents.length - 1) ⟨.dedent, "", row + 1, 0⟩ ++
      [⟨.finish, "", row + 1, 0⟩]) (row + 1) := by
    refine .of_row (fun t ht => ?_) (Nat.le_refl _)
    rcases List.mem_append.mp ht with ht | ht
    · rw [List.eq_of_mem_replicate ht]
    · rw [List.mem_singleton.mp ht]
  unfold finalTokens
  rw [List.append_assoc]
  split
  · split
    · exact (Climbs.nil (Nat.le_succ row)).append hend
    · exact .cons (Nat.le_refl row) (Nat.le_succ row) hend
  · exact (Climbs.nil (Nat.le_succ row)).append hend

theorem lines_climb {last : List Char} {lines : List Line} (h : s.Opened) :
    ∃ hi, Climbs s.floor (s.lines last lines).tokens hi := by
  fun_induction Scanner.lines s last lines with
  | case1 s last =>
    unfold Scanner.finish
    split
    · exact ⟨_, .nil (Nat.le_refl _)⟩
    · rename_i hpending
      split
      · have hfloor : s.floor = s.row := by simp [Scanner.floor, hpending]
        rw [hfloor]
        exact ⟨_, finalTokens_climb s.row last s.indents⟩
      · exact ⟨_, .nil (Nat.le_refl _)⟩
  | case2 => exact ⟨_, .nil (Nat.le_refl _)⟩
  | case3 s last line rest tokens s' hline ih =>
    have hclimbs : (s.line line).Climbs s.floor := line_climbs h
    rw [hline] at hclimbs
    obtain ⟨hi, hrest⟩ := ih hclimbs.2
    exact ⟨hi, hclimbs.1.append hrest⟩
  | case4 s last line rest hline =>
    -- Only a line that is not inside a string may be blank to its end.
    have hpending : s.pending = none := by
      cases hpending : s.pending with
      | none => rfl
      | some opened =>
        simp only [Scanner.line, hpending, Scanner.stringLine] at hline
        split at hline
        · cases hline
        · split at hline <;> cases hline
    have hfloor : s.floor = s.row := by simp [Scanner.floor, hpending]
    rw [hfloor]
    exact ⟨_, finalTokens_climb s.row last s.indents⟩
  | case5 s last line rest tokens fault hline =>
    have hclimbs : (s.line line).Climbs s.floor := line_climbs h
    rw [hline] at hclimbs
    rw [show tokens = [] from hclimbs]
    exact ⟨_, .nil (Nat.le_refl _)⟩

/-- The rows of the tokens of a source never go back. -/
theorem scan_rising (lines : List Line) : (scan lines).tokens.Pairwise (·.row ≤ ·.row) := by
  have hstart : Scanner.Opened {} := nofun
  obtain ⟨hi, hclimbs⟩ := lines_climb hstart
  exact hclimbs.rising

end Harvest.Source
