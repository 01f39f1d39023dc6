import Harvest.Proofs.Source.ReaderSteps

/-!
# Where the messages of a source are

A message is on the row of the name of a marked call, counted from the first line of the source.
While a call is read its row stays the one that was noted at its name, so this holds of every
message that a reader has found, whatever it reads and wherever it stops.
-/

namespace Harvest.Source

/-! ## Rows -/

theorem LineTail.mem_cons {t u : Token} {tail : LineTail} :
    t ∈ (tail.cons u).tokens ↔ t = u ∨ t ∈ tail.tokens := List.mem_cons

theorem row_of_mem_scanTail {row skip column : Nat} {depth : Int} {cs : List Char} {t : Token}
    (ht : t ∈ (scanTail row skip column depth cs).tokens) : t.row = row := by
  fun_induction scanTail row skip column depth cs with
  | case1 | case3 | case7 | case8 => cases ht
  | case2 _ _ _ _ _ ih | case4 _ _ _ _ _ _ _ ih => exact ih ht
  | case5 _ _ _ _ _ _ _ _ ih | case6 _ _ _ _ _ _ _ ih | case9 _ _ _ _ _ _ _ _ ih
  | case10 _ _ _ _ _ _ _ _ _ _ ih =>
    rcases LineTail.mem_cons.mp ht with rfl | ht
    · rfl
    · exact ih ht

def LineResult.tokens : LineResult → List Token
  | .next tokens _ => tokens
  | .blankEnd => []
  | .fault tokens _ => tokens

theorem row_of_mem_stringLine {s : Scanner} {opened : OpenString} {line : List Char} {t : Token}
    (ht : t ∈ (s.stringLine opened line).tokens) (hname : t.kind = .name) : t.row = s.row + 1 := by
  unfold Scanner.stringLine at ht
  dsimp only at ht
  split at ht
  · rcases List.mem_cons.mp ht with rfl | ht
    · cases hname
    · exact row_of_mem_scanTail ht
  · split at ht
    · rw [List.mem_singleton.mp ht] at hname
      cases hname
    · cases ht

theorem row_of_mem_freshLine {s : Scanner} {line : List Char} {t : Token}
    (ht : t ∈ (s.freshLine line).tokens) (hname : t.kind = .name) : t.row = s.row + 1 := by
  -- Before the tokens of the line itself stand only marks of its indentation.
  have hopen {marks : List Token} {column : Nat} {cs : List Char}
    (hmarks : ∀ u ∈ marks, u.kind ≠ .name)
      (ht : t ∈ marks ++ (scanTail (s.row + 1) 0 column s.depth cs).tokens) :
          t.row = s.row + 1 := by
    rcases List.mem_append.mp ht with ht | ht
    · exact absurd hname (hmarks t ht)
    · exact row_of_mem_scanTail ht
  unfold Scanner.freshLine at ht
  dsimp only at ht
  split at ht
  · cases ht
  · split at ht
    · rcases List.mem_append.mp ht with ht | ht
      · split at ht
        · rw [List.mem_singleton.mp ht] at hname
          cases hname
        · cases ht
      · rw [List.mem_singleton.mp ht] at hname
        cases hname
    · split at ht
      · exact hopen (by simp) ht
      · split at ht
        · exact hopen (by simp) ht
        · split at ht
          · refine hopen ?_ ht
            intro u hu
            rw [List.eq_of_mem_replicate hu]
            simp
          · cases ht

theorem row_of_mem_line {s : Scanner} {line : List Char} {t : Token}
    (ht : t ∈ (s.line line).tokens) (hname : t.kind = .name) : t.row = s.row + 1 := by
  unfold Scanner.line at ht
  split at ht
  · exact row_of_mem_stringLine ht hname
  · split at ht
    · exact row_of_mem_freshLine ht hname
    · exact row_of_mem_scanTail ht

theorem not_name_of_mem_finalTokens {row : Nat} {last : List Char} {indents : List Nat} {t : Token}
    (ht : t ∈ finalTokens row last indents) : t.kind ≠ .name := by
  unfold finalTokens at ht
  simp only [List.mem_append, List.mem_replicate, List.mem_singleton] at ht
  rcases ht with (ht | ⟨-, rfl⟩) | rfl
  · split at ht
    · split at ht
      · cases ht
      · rw [List.mem_singleton.mp ht]
        simp
    · cases ht
  · simp
  · simp

theorem row_pos_of_mem_lines {s : Scanner} {last : List Char} {lines : List Line} {t : Token}
    (ht : t ∈ (s.lines last lines).tokens) (hname : t.kind = .name) : 0 < t.row := by
  fun_induction Scanner.lines s last lines with
  | case1 s last =>
    unfold Scanner.finish at ht
    split at ht
    · cases ht
    · split at ht
      · exact absurd hname (not_name_of_mem_finalTokens ht)
      · cases ht
  | case2 => cases ht
  | case3 s last line rest tokens s' hline ih =>
    rcases List.mem_append.mp ht with ht | ht
    · have hrow : t.row = s.row + 1 := row_of_mem_line (by rwa [hline]) hname
      omega
    · exact ih ht
  | case4 => exact absurd hname (not_name_of_mem_finalTokens ht)
  | case5 s last line rest tokens fault hline =>
    have hrow : t.row = s.row + 1 := row_of_mem_line (by rwa [hline]) hname
    omega

/-! ## Calls -/

/-- The tokens end with a marking name on this row, apart from comments and layout. -/
def NameAt (keywords : KeywordTable) (tokens : List Token) (row : Nat) : Prop :=
  ∃ earlier name gap, tokens = earlier ++ name :: gap ∧ name.Marks keywords ∧ name.row = row ∧
    ∀ t ∈ gap, t.isGap

/-- Among the tokens is a marked call whose name stands on this row. -/
def CallAt (keywords : KeywordTable) (tokens : List Token) (row : Nat) : Prop :=
  ∃ opening bracket rest, tokens = opening ++ bracket :: rest ∧ NameAt keywords opening row ∧
    bracket.isOperator "("

variable {keywords : KeywordTable} {tokens : List Token} {row : Nat}

theorem NameAt.concat_gap {t : Token} (h : NameAt keywords tokens row) (ht : t.isGap) :
    NameAt keywords (tokens ++ [t]) row := by
  obtain ⟨earlier, name, gap, rfl, hname, hrow, hgap⟩ := h
  refine ⟨earlier, name, gap ++ [t], by simp, hname, hrow, ?_⟩
  intro u hu
  rcases List.mem_append.mp hu with hu | hu
  · exact hgap u hu
  · rwa [List.mem_singleton.mp hu]

theorem NameAt.concat_bracket {t : Token} (h : NameAt keywords tokens row)
    (ht : t.isOperator "(") : CallAt keywords (tokens ++ [t]) row :=
  ⟨tokens, t, [], rfl, h, ht⟩

theorem CallAt.append (h : CallAt keywords tokens row) (more : List Token) :
    CallAt keywords (tokens ++ more) row := by
  obtain ⟨opening, bracket, rest, rfl, hname, hbracket⟩ := h
  exact ⟨opening, bracket, rest ++ more, by simp, hname, hbracket⟩

theorem CallAt.exists_name (h : CallAt keywords tokens row) :
    ∃ t ∈ tokens, t.kind = .name ∧ t.row = row := by
  obtain ⟨opening, bracket, rest, rfl, ⟨earlier, name, gap, rfl, hname, hrow, -⟩, -⟩ := h
  exact ⟨name, by simp, hname.1, hrow⟩

theorem CallAt.row_pos {lines : List Line} (h : CallAt keywords (scan lines).tokens row) :
    0 < row := by
  obtain ⟨t, ht, hkind, rfl⟩ := h.exists_name
  exact row_pos_of_mem_lines ht hkind

/-! ## Readers -/

namespace Reader

variable {g : Reading} {r r' : Reader} {t : Token}

/-- What is being read, and what has been found, comes from calls among the tokens read so far. -/
structure Sited (g : Reading) (seen : List Token) (r : Reader) : Prop where
  name : ∀ keyword row, r.phase = .keyword keyword row → NameAt g.keywords seen row
  call : ∀ row, r.phase.callRow? = some row → CallAt g.keywords seen row
  messages : ∀ place ∈ r.places, ∃ row : Nat, CallAt g.keywords seen row ∧
    place = ⟨g.file, g.firstLine + row⟩

theorem Sited.places_append {seen : List Token} (h : r.Sited g seen) (more : List Token) :
    ∀ place ∈ r.places, ∃ row : Nat, CallAt g.keywords (seen ++ more) row ∧
      place = ⟨g.file, g.firstLine + row⟩ := by
  intro place hplace
  obtain ⟨row, hcall, hrow⟩ := h.messages place hplace
  exact ⟨row, hcall.append more, hrow⟩

theorem Sited.outside {seen : List Token} (hhead : r.phase.head? = none)
    (hplaces : ∀ place ∈ r.places, ∃ row : Nat,
      CallAt g.keywords seen row ∧ place = ⟨g.file, g.firstLine + row⟩) : r.Sited g seen := by
  refine ⟨fun keyword row hphase => ?_, fun row hrow => ?_, hplaces⟩
  · rw [hphase] at hhead
    cases hhead
  · obtain ⟨keyword, hcall⟩ := row?_eq_some_iff.mp (row?_of_callRow? hrow)
    cases hhead.symm.trans hcall

theorem Sited.follow {seen : List Token} {row : Nat} (h : r.Sited g seen)
    (hrow : r.phase.callRow? = some row) (hstep : r.step g t = .ok r') :
    r'.Sited g (seen ++ [t]) := by
  have hcall : CallAt g.keywords (seen ++ [t]) row := (h.call row hrow).append [t]
  rcases step_places hstep with ⟨hplaces, -, hgoes⟩ | ⟨k, hk, hphase, hplaces⟩
  · rcases hgoes row hrow with hphase | hphase
    · refine ⟨?_, ?_, hplaces ▸ h.places_append [t]⟩
      · intro keyword start hkeyword
        rw [hkeyword] at hphase
        cases hphase
      · intro start hstart
        rw [hphase] at hstart
        cases hstart
        exact hcall
    · exact .outside (by rw [hphase]; rfl) (hplaces ▸ h.places_append [t])
  · refine .outside (by rw [hphase]; rfl) fun place hplace => ?_
    rw [hplaces] at hplace
    rcases List.mem_append.mp hplace with hplace | hplace
    · exact h.places_append [t] place hplace
    · cases hk.symm.trans (row?_of_callRow? hrow)
      exact ⟨row, hcall, List.mem_singleton.mp hplace⟩

theorem Sited.gap {seen : List Token} (h : r.Sited g seen) (hnone : r.phase.callRow? = none)
    (ht : t.isGap) (hphase : r'.phase = r.phase) (hplaces : r'.places = r.places) :
    r'.Sited g (seen ++ [t]) := by
  refine ⟨?_, ?_, hplaces ▸ h.places_append [t]⟩
  · intro keyword row hkeyword
    exact (h.name keyword row (hphase.symm.trans hkeyword)).concat_gap ht
  · intro row hrow
    rw [hphase, hnone] at hrow
    cases hrow

theorem Sited.handle {seen : List Token} (h : r.Sited g seen) (hnone : r.phase.callRow? = none)
    (hhandle : r.handle g t = .ok r') : r'.Sited g (seen ++ [t]) := by
  have hplaces := h.places_append [t]
  unfold Reader.handle at hhandle
  split at hhandle
  · rename_i hphase
    split at hhandle
    · rename_i hmarks
      cases hhandle
      refine ⟨?_, by rintro _ ⟨⟩, hplaces⟩
      intro keyword row hkeyword
      cases hkeyword
      refine ⟨seen, t, [], rfl, ?_, rfl, fun u hu => absurd hu List.not_mem_nil⟩
      simpa [Token.Marks] using hmarks
    · split at hhandle
      · cases hhandle
        exact .outside rfl hplaces
      · cases hhandle
        exact .outside (by rw [hphase]; rfl) hplaces
  · cases hhandle
    exact .outside rfl hplaces
  · rename_i keyword row hphase
    split at hhandle
    · rename_i hbracket
      cases hhandle
      refine ⟨by rintro _ _ ⟨⟩, ?_, hplaces⟩
      intro start hstart
      cases hstart
      exact (h.name keyword row hphase).concat_bracket hbracket
    · cases hhandle
      exact .outside rfl hplaces
  all_goals
    rename_i hphase
    rw [hphase] at hnone
    cases hnone

/-- One token keeps every message, found or being read, at a call among the tokens. -/
theorem Sited.step {seen : List Token} (h : r.Sited g seen) (hstep : r.step g t = .ok r') :
    r'.Sited g (seen ++ [t]) := by
  cases hrow : r.phase.callRow? with
  | some row => exact h.follow hrow hstep
  | none =>
    have hdispatch : r.dispatch g t = .ok r' := by
      unfold Reader.step at hstep
      split at hstep
      · rename_i hphase
        rw [hphase] at hrow
        cases hrow
      · rename_i hphase
        rw [hphase] at hrow
        cases hrow
      · exact hstep
    unfold dispatch at hdispatch
    split at hdispatch
    · rename_i hkind
      cases hdispatch
      obtain ⟨hphase, hplaces⟩ := comment_keeps g r t
      exact h.gap hrow (by simp [Token.isGap, hkind]) hphase hplaces
    iterate 4
      · rename_i hkind
        cases hdispatch
        exact h.gap hrow (by simp [Token.isGap, hkind]) rfl rfl
    · exact h.handle hrow hdispatch

/-- Whatever a reader goes through, each message is on the row of a call. -/
theorem Sited.run {seen : List Token} (h : r.Sited g seen) (tokens : List Token) :
    ∀ place ∈ (r.run g tokens).1.places, ∃ row : Nat,
      CallAt g.keywords (seen ++ tokens) row ∧ place = ⟨g.file, g.firstLine + row⟩ := by
  induction tokens generalizing r seen with
  | nil => exact h.places_append []
  | cons t ts ih =>
    rw [Reader.run]
    split
    · rename_i hstep
      rw [List.append_cons]
      exact ih (h.step hstep)
    · exact h.places_append (t :: ts)

end Reader

/-- The messages of a text when these keywords are known, and the source is understood. -/
def messagesWith (options : Options) (keywords : KeywordTable) (file : String) (firstLine : Int)
    (s : List Char) : List Message :=
  (Reader.run { options, keywords, file, firstLine } {} (scan (textLines s)).tokens).1.messages

theorem location_of_mem_messagesWith {options : Options} {file : String} {firstLine : Int}
    {s : List Char} {m : Message} (hm : m ∈ messagesWith options keywords file firstLine s) :
    ∃ row : Nat, 0 < row ∧ CallAt keywords (scan (textLines s)).tokens row ∧
      m.location = ⟨file, firstLine + row⟩ := by
  have hstart : Reader.Sited { options, keywords, file, firstLine } [] {} :=
    .outside rfl fun place hplace => absurd hplace List.not_mem_nil
  obtain ⟨row, hcall, hrow⟩ :=
    hstart.run (scan (textLines s)).tokens m.location (List.mem_map_of_mem hm)
  exact ⟨row, hcall.row_pos, hcall, hrow⟩

end Harvest.Source
