import Harvest.Message.Remark
import Harvest.Proofs.Text.Words

/-!
# Flags in remarks

Flags are written in square brackets in front of a remark, with commas between them. Main statement:
flags and text are read as they were written.
-/

namespace Harvest.Remark

open Text

/-- A flag that can be written: it stands on one line without blanks around it, and has no sign that
would end it. -/
structure Writable (flag : String) : Prop where
  comma : ',' ∉ flag.toList
  bracket : ']' ∉ flag.toList
  newline : '\n' ∉ flag.toList
  trimmed : trim flag.toList = flag.toList

def written (flags : List String) (text : String) : String :=
  "[" ++ ", ".intercalate flags ++ "] " ++ text

theorem closing?_append {s : List Char} (h : ']' ∉ s) (rest : List Char) :
    closing? (s ++ ']' :: rest) = if allBlank s then some rest else none := by
  induction s with
  | nil => rfl
  | cons c s ih =>
    rw [List.mem_cons, not_or] at h
    by_cases hc : isBlank c = true
    · have hskip : closing? (c :: s ++ ']' :: rest) =
        closing? (s ++ ']' :: rest) := by simp [closing?, trimLeft, hc]
      rw [hskip, ih h.2]
      simp [allBlank, hc]
    · have hstop : trimLeft (c :: s ++ ']' :: rest) =
        c :: (s ++ ']' :: rest) := by simp [trimLeft, hc]
      rw [closing?, hstop]
      split
      · next heq => exact absurd (List.cons.inj heq).1 (Ne.symm h.1)
      · simp [allBlank, hc]

theorem bracketed?_of_some {c : Char} {s after : List Char} (h : closing? (c :: s) = some after) :
    bracketed? (c :: s) = some ([], after) := by
  dsimp only [bracketed?]
  rw [h]

theorem bracketed?_of_none {c : Char} {s : List Char}
    (h : closing? (c :: s) = none) (hc : c ≠ '\n') :
    bracketed? (c :: s) = (bracketed? s).map fun p => (c :: p.1, p.2) := by
  dsimp only [bracketed?]
  rw [h]
  exact if_neg hc

/-- A text in brackets ends at the first closing one, and loses the blanks before it. -/
theorem bracketed?_append {s : List Char} (hbracket : ']' ∉ s) (hnewline : '\n' ∉ s)
    (rest : List Char) :
    bracketed? (s ++ ']' :: rest) = some (trimRight s, rest) := by
  induction s with
  | nil =>
    rw [List.nil_append, bracketed?_of_some (closing?_append (s := []) hbracket rest)]
    rfl
  | cons c s ih =>
    have hclosing := closing?_append hbracket rest
    rw [List.mem_cons, not_or] at hbracket hnewline
    rw [List.cons_append, show allBlank (c :: s) = (isBlank c && allBlank s) from rfl] at hclosing
    rw [List.cons_append, trimRight_cons]
    -- The text ends where only blanks stand before the bracket.
    by_cases hblank : (isBlank c && allBlank s) = true
    · rw [if_pos hblank] at hclosing
      rw [bracketed?_of_some hclosing, if_pos hblank]
    · rw [if_neg hblank] at hclosing
      rw [bracketed?_of_none hclosing (Ne.symm hnewline.1), ih hbracket.2 hnewline.2, if_neg hblank]
      rfl

/-- Blanks before the first flag and behind the last make no difference. -/
theorem splitOn_trimRight_join (lead : List Char) (hlead : allBlank lead = true)
    {flags : List (List Char)}
    (hne : flags ≠ []) (hcomma : ∀ f ∈ flags, ',' ∉ f) (htrim : ∀ f ∈ flags, trim f = f) :
    ((trimRight (lead ++ join [',', ' '] flags)).splitOn ',').map trim = flags := by
  induction flags generalizing lead with
  | nil => exact absurd rfl hne
  | cons f flags ih =>
    rw [List.forall_mem_cons] at hcomma htrim
    have hfree : ',' ∉ lead ++ f := by
      rw [List.mem_append, not_or]
      exact ⟨fun h => absurd (List.all_eq_true.mp hlead _ h) (by decide), hcomma.1⟩
    have hfirst : trim (lead ++ f) = f := trim_append_of_allBlank hlead htrim.1
    cases flags with
    | nil =>
      rw [join, List.intercalate_singleton, trimRight_append, trimRight_of_trim htrim.1]
      split
      · -- An empty flag leaves no more than blanks between the brackets.
        next hblank =>
        have hempty : f = [] := trimRight_of_trim htrim.1 ▸ (trimRight_eq_nil_iff f).mpr hblank
        rw [hempty, (trimRight_eq_nil_iff lead).mpr hlead]
        rfl
      · rw [List.splitOn_eq_singleton hfree, List.map_singleton, hfirst]
    | cons g flags =>
      have hjoin : lead ++ join [',', ' '] (f :: g :: flags) =
          (lead ++ f) ++ ',' :: ([' '] ++ join [',', ' '] (g :: flags)) := by
        simp [join, List.intercalate_cons_cons]
      have hrest : allBlank (',' :: ([' '] ++ join [',', ' '] (g :: flags))) = false := rfl
      have hcons : trimRight (',' :: ([' '] ++ join [',', ' '] (g :: flags))) =
          ',' :: trimRight ([' '] ++ join [',', ' '] (g :: flags)) := by
        rw [trimRight_cons]
        rfl
      rw [hjoin, trimRight_append, hrest, if_neg Bool.false_ne_true, hcons,
        List.splitOn_append_cons_self, List.splitOn_eq_singleton hfree,
        List.map_append, ih [' '] rfl (List.cons_ne_nil g flags) hcomma.2 htrim.2,
          List.map_singleton, hfirst]
      rfl

/-- Before the first flag there are no blanks, even if it is empty. -/
theorem trimLeft_join {flags : List (List Char)} (htrim : ∀ f ∈ flags, trim f = f)
    (rest : List Char) :
    trimLeft (join [',', ' '] flags ++ ']' :: rest) = join [',', ' '] flags ++ ']' :: rest := by
  cases flags with
  | nil => rfl
  | cons f flags =>
    have hleft := trimLeft_of_trim (htrim f List.mem_cons_self)
    rw [join_cons]
    cases f with
    | nil => cases flags <;> rfl
    | cons c f =>
      have hc : isBlank c = false := by
        have := List.dropWhile_eq_self_iff.mp hleft (Nat.succ_pos _)
        simpa using this
      exact trimLeft_of_startsBlank hc

/-- Flags and text are read from a remark as they were written. -/
theorem ofComment_written {flags : List String} {text : String} (hne : flags ≠ [])
    (hflags : ∀ f ∈ flags, Writable f)
    (hnewline : '\n' ∉ text.toList) (hstart : trimLeft text.toList = text.toList) :
    ofComment (written flags text) = ⟨flags, text⟩ := by
  have hparts {p : List Char → Prop} (h : ∀ f ∈ flags, p f.toList) :
      ∀ f ∈ flags.map String.toList, p f :=
    List.forall_mem_map.mpr h
  have htrim := hparts (p := fun f => trim f = f) fun f hf => (hflags f hf).trimmed
  have hwritten : (written flags text).toList =
      '[' :: (join [',', ' '] (flags.map String.toList) ++ ']' :: ' ' :: text.toList) := by
    simp [written, String.toList_intercalate, join]
  have hinside {c : Char} (hc : c ∉ [',', ' ']) (h : ∀ f ∈ flags, c ∉ f.toList) :
      c ∉ join [',', ' '] (flags.map String.toList) := by
    intro hmem
    rcases mem_of_mem_join hmem with hsep | ⟨f, hf, hcf⟩
    · exact hc hsep
    · exact hparts (p := fun f => c ∉ f) h f hf hcf
  have hclosed := bracketed?_append (hinside (by decide) fun f hf => (hflags f hf).bracket)
    (hinside (by decide) fun f hf => (hflags f hf).newline) (' ' :: text.toList)
  have hread : ((trimRight (join [',', ' '] (flags.map String.toList))).splitOn ',').map trim =
      flags.map String.toList :=
    splitOn_trimRight_join [] rfl (by simpa using hne)
      (hparts fun f hf => (hflags f hf).comma) htrim
  have hrest : trimLeft (' ' :: text.toList) = text.toList := hstart
  have hline : text.toList.takeWhile (· != '\n') = text.toList :=
    List.takeWhile_eq_self_iff.mpr fun c hc => by simpa using ne_of_mem_of_not_mem hc hnewline
  have hback : (((trimRight (join [',', ' '] (flags.map String.toList))).splitOn ',').map fun f =>
    String.ofList (trim f)) =
      flags := by
    calc
      _ = (((trimRight (join [',', ' '] (flags.map String.toList))).splitOn ',').map trim).map
        String.ofList := by simp
      _ = flags := by simp [hread]
  simp only [ofComment, hwritten, trimLeft_join htrim, hclosed, hrest, hline,
    String.ofList_toList, hback]

theorem ofComment_written_brackets :
    (∀ f ∈ ["", "no wrap", "[x", ""], Writable f) ∧
      ofComment (written ["", "no wrap", "[x", ""] "See [1], or ask. ") =
        ⟨["", "no wrap", "[x", ""], "See [1], or ask. "⟩ := by
  have hflags : ∀ f ∈ ["", "no wrap", "[x", ""], Writable f := by
    simp only [List.forall_mem_cons]
    exact ⟨⟨by decide, by decide, by decide, by decide⟩,
      ⟨by decide, by decide, by decide, by decide⟩,
      ⟨by decide, by decide, by decide, by decide⟩,
        ⟨by decide, by decide, by decide, by decide⟩, nofun⟩
  exact ⟨hflags, ofComment_written (by decide) hflags (by decide) (by decide)⟩

end Harvest.Remark
