import Mathlib.Data.List.Chain
import Harvest.Proofs.Text.Words
import Harvest.Text.Fill

/-!
# What filling keeps

Lines are filled with chunks of a text. Without trimming, the lines put together are the text. With
trimming, blanks are lost where lines end, so the words of the text stay if no word is cut at a
hyphen.
-/

namespace Harvest.Text

/-! ## Chunks -/

def isBreak (c : Char) : Bool := isFillBlank c || c == '-'

/-- Two parts of a text meet at a character of the class `p`. -/
def MeetAt (p : Char → Bool) (s t : List Char) : Prop :=
  (∃ c ∈ s.getLast?, p c = true) ∨ ∃ c ∈ t.head?, p c = true

theorem MeetAt.cons {p : Char → Bool} {s t : List Char} (h : MeetAt p s t) (c : Char) :
    MeetAt p (c :: s) t := by
  rcases h with ⟨d, hd, hp⟩ | hhead
  · have hlast : s.getLast? = some d := hd
    exact .inl ⟨d, by simp [List.getLast?_cons, hlast], hp⟩
  · exact .inr hhead

theorem MeetAt.of_append {p : Char → Bool} {front s t : List Char} (h : MeetAt p (front ++ s) t)
    (hne : s ≠ []) : MeetAt p s t := by
  rcases h with ⟨c, hc, hp⟩ | hhead
  · rw [List.getLast?_append_of_ne_nil _ hne] at hc
    exact .inl ⟨c, hc, hp⟩
  · exact .inr hhead

theorem MeetAt.append {p : Char → Bool} {s t : List Char} (h : MeetAt p s t) (u : List Char) :
    MeetAt p s (t ++ u) := by
  rcases h with hlast | ⟨c, hc, hp⟩
  · exact .inl hlast
  · have hhead : t.head? = some c := hc
    exact .inr ⟨c, by simp [hhead], hp⟩

theorem startsDash_head {c : Char} {cs : List Char} (h : startsDash (c :: cs) = true) :
    c = '-' := by
  by_contra hc
  simp [startsDash, hc] at h

theorem isBreak_of_isFillBlank {c : Char} (hc : isFillBlank c = true) : isBreak c = true := by
  simp [isBreak, hc]

theorem wordRestSize_spec (before cs : List Char) :
    cs.drop (wordRestSize before cs) = [] ∨
      MeetAt isBreak (cs.take (wordRestSize before cs)) (cs.drop (wordRestSize before cs)) := by
  induction cs generalizing before with
  | nil => exact .inl rfl
  | cons c cs ih =>
    rw [wordRestSize]
    split
    case isTrue h =>
      have hc : c = '-' := by simp_all
      exact .inr (.inl ⟨c, by simp, by simp [isBreak, hc]⟩)
    case isFalse =>
      split
      case isTrue h => exact .inr (.inr ⟨c, rfl, isBreak_of_isFillBlank h⟩)
      case isFalse =>
        split
        case isTrue h =>
          have hc : c = '-' := startsDash_head (Bool.and_eq_true_iff.mp h).2
          exact .inr (.inr ⟨c, rfl, by simp [isBreak, hc]⟩)
        case isFalse =>
          rcases ih (c :: before) with hend | hmeet
          · exact .inl hend
          · exact .inr (hmeet.cons c)

theorem chunkExtra_spec (before : List Char) (c : Char) (cs : List Char) :
    cs.drop (chunkExtra before c cs) = [] ∨
      MeetAt isBreak (c :: cs.take (chunkExtra before c cs))
        (cs.drop (chunkExtra before c cs)) := by
  have hrun (p : Char → Bool) (hc : p c = true) (hp : ∀ d, p d = true → isBreak d = true) :
      ∃ d ∈ (c :: cs.take (cs.takeWhile p).length).getLast?, isBreak d = true := by
    have htake : cs.take (cs.takeWhile p).length = cs.takeWhile p :=
      List.prefix_iff_eq_take.mp (List.takeWhile_prefix p) |>.symm
    obtain ⟨d, hd⟩ : ∃ d, (c :: cs.takeWhile p).getLast? = some d := ⟨_, List.getLast?_cons⟩
    have hmem := List.mem_of_getLast? hd
    refine ⟨d, by rw [htake, hd]; rfl, hp d ?_⟩
    rcases List.mem_cons.mp hmem with rfl | hmem
    · exact hc
    · exact List.mem_takeWhile_imp hmem
  unfold chunkExtra
  split
  case isTrue h => exact .inr (.inl (hrun isFillBlank h fun _ => isBreak_of_isFillBlank))
  case isFalse =>
    split
    case isTrue h =>
      have hc : c = '-' := startsDash_head (Bool.and_eq_true_iff.mp h).2
      exact .inr (.inl (hrun (· == '-') (by simp [hc]) fun d hd => by simp_all [isBreak]))
    case isFalse =>
      rcases wordRestSize_spec (c :: before) cs with hend | hmeet
      · exact .inl hend
      · exact .inr (hmeet.cons c)

theorem flatten_chunks (s : List Char) : (chunks s).flatten = s := by
  have hfrom (before s : List Char) : (chunksFrom before s).flatten = s := by
    fun_induction chunksFrom before s with
    | case1 => rfl
    | case2 before c cs n ih => simp [ih]
  exact hfrom [] s

theorem ne_nil_of_mem_chunks {s chunk : List Char} (h : chunk ∈ chunks s) : chunk ≠ [] := by
  have hfrom (before s : List Char) : ∀ chunk ∈ chunksFrom before s, chunk ≠ [] := by
    fun_induction chunksFrom before s with
    | case1 => simp
    | case2 before c cs n ih => simpa using ih
  exact hfrom [] s chunk h

theorem isChain_chunks (s : List Char) : (chunks s).IsChain (MeetAt isBreak) := by
  have hhead (before s : List Char) : ∀ chunk ∈ (chunksFrom before s).head?,
      chunk.head? = s.head? := by
    intro chunk hchunk
    cases s with
    | nil => simp [chunksFrom] at hchunk
    | cons c cs =>
      rw [chunksFrom] at hchunk
      obtain rfl : c :: cs.take (chunkExtra before c cs) = chunk := by simpa using hchunk
      rfl
  have hfrom (before s : List Char) : (chunksFrom before s).IsChain (MeetAt isBreak) := by
    fun_induction chunksFrom before s with
    | case1 => exact .nil
    | case2 before c cs n ih =>
      refine List.isChain_cons.mpr ⟨fun chunk hchunk => ?_, ih⟩
      rcases chunkExtra_spec before c cs with hend | hlast | hnext
      · rw [show n = chunkExtra before c cs from rfl, hend] at hchunk
        simp [chunksFrom] at hchunk
      · exact .inl hlast
      · refine .inr ?_
        rw [hhead _ _ chunk hchunk]
        exact hnext
  exact hfrom [] s

/-! ## Lines -/

theorem fitting_append (space : Int) (chunks : List (List Char)) :
    (fitting space chunks).1 ++ (fitting space chunks).2 = chunks := by
  fun_induction fitting space chunks with
  | case1 => rfl
  | case2 space chunk rest _ line left h ih => simpa [h] using ih
  | case3 => rfl

theorem nextLine_spec {f : Filling} (hcut : f.cutting = false) (space : Int)
    (chunks : List (List Char)) :
    (nextLine f space chunks).1 ++ (nextLine f space chunks).2 = chunks ∧
      (chunks ≠ [] → (nextLine f space chunks).1 ≠ []) := by
  have happend := fitting_append space chunks
  have hplace (line : List (List Char)) (chunk : List Char) (rest : List (List Char)) :
      (placeLong f space line chunk rest).1 ++ (placeLong f space line chunk rest).2 =
          line ++ chunk :: rest ∧
        (placeLong f space line chunk rest).1 ≠ [] := by
    cases line <;> simp [placeLong, hcut]
  unfold nextLine
  split
  case h_1 line chunk rest hfit =>
    rw [hfit] at happend
    split
    case isTrue =>
      exact ⟨(hplace line chunk rest).1.trans happend, fun _ => (hplace line chunk rest).2⟩
    case isFalse hfits =>
      refine ⟨happend, fun _ hline => ?_⟩
      -- The first chunk that is left over is the very first one, and it did not fit.
      obtain rfl : line = [] := hline
      obtain rfl : chunk :: rest = chunks := happend
      rw [fitting] at hfit
      split at hfit <;> simp_all
  case h_2 line hfit =>
    rw [hfit, List.append_nil] at happend
    subst happend
    exact ⟨List.append_nil _, id⟩

def inked (chunks : List (List Char)) : List (List Char) :=
  chunks.filter fun chunk => !allBlank chunk

theorem inked_append (a b : List (List Char)) : inked (a ++ b) = inked a ++ inked b :=
  List.filter_append ..

theorem inked_cons_of_allBlank {chunk : List Char} (h : allBlank chunk = true)
    (chunks : List (List Char)) : inked (chunk :: chunks) = inked chunks := by
  simp [inked, h]

theorem endLine_spec (f : Filling) (line : List (List Char)) :
    endLine f line <+: line ∧ inked (endLine f line) = inked line ∧
      (f.trimmed = false → endLine f line = line) := by
  unfold endLine
  split
  case isTrue h =>
    obtain ⟨htrimmed, hlast⟩ := Bool.and_eq_true_iff.mp h
    cases hline : line.getLast? with
    | none => simp [hline] at hlast
    | some chunk =>
      obtain ⟨front, rfl⟩ := List.getLast?_eq_some_iff.mp hline
      have hblank : allBlank chunk = true := by simpa [hline] using hlast
      refine ⟨List.dropLast_prefix _, ?_, fun h => by simp [htrimmed] at h⟩
      rw [List.dropLast_concat, inked_append, inked_cons_of_allBlank hblank]
      simp [inked]
  case isFalse => exact ⟨List.prefix_refl _, rfl, fun _ => rfl⟩

/-- Groups of chunks that make lines. Trimming leaves out blank chunks, and none other. -/
structure Fills (trimmed : Bool) (chunks : List (List Char)) (groups : List (List (List Char))) :
    Prop where
  part : ∀ group ∈ groups, group <:+: chunks
  ink : inked groups.flatten = inked chunks
  all : trimmed = false → groups.flatten = chunks
  head : ∀ chunk ∈ chunks.head?, allBlank chunk = false →
    ∃ rest, groups.head? = some (chunk :: rest)

theorem Fills.nil (trimmed : Bool) : Fills trimmed [] [] := ⟨by simp, rfl, fun _ => rfl, by simp⟩

theorem Fills.addLine {trimmed : Bool} {skipped line kept left : List (List Char)}
    {groups : List (List (List Char))} (hskipped : ∀ chunk ∈ skipped, allBlank chunk = true)
    (hkept : kept <+: line) (hink : inked kept = inked line)
    (hall : trimmed = false → skipped = [] ∧ kept = line) (hleft : Fills trimmed left groups) :
    Fills trimmed (skipped ++ (line ++ left))
      (if kept.isEmpty then groups else kept :: groups) := by
  have hgroups : (if kept.isEmpty then groups else kept :: groups).flatten = kept ++
      groups.flatten := by
    cases kept <;> rfl
  have hmem : ∀ group ∈ (if kept.isEmpty then groups else kept :: groups),
      group = kept ∨ group ∈ groups := by
    cases kept <;> simp +contextual
  constructor
  case part =>
    intro group hgroup
    rcases hmem group hgroup with rfl | hgroup
    · exact hkept.isInfix.trans ⟨skipped, left, by simp⟩
    · exact (hleft.part group hgroup).trans ⟨skipped ++ line, [], by simp⟩
  case ink =>
    have hblank : inked skipped = [] := List.filter_eq_nil_iff.mpr fun chunk h => by
      simp [hskipped chunk h]
    rw [hgroups, inked_append, inked_append, inked_append, hblank, hink, hleft.ink]
    rfl
  case all =>
    intro htrimmed
    obtain ⟨rfl, rfl⟩ := hall htrimmed
    rw [hgroups, hleft.all htrimmed]
    rfl
  case head =>
    intro chunk hchunk hblank
    -- A first chunk that is not blank is not skipped, and comes first in what is kept.
    cases skipped with
    | cons skipped more =>
      obtain rfl : skipped = chunk := by simpa using hchunk
      simp [hskipped skipped] at hblank
    | nil =>
      cases line with
      | nil =>
        obtain rfl : kept = [] := List.prefix_nil.mp hkept
        exact hleft.head chunk hchunk hblank
      | cons first line =>
        obtain rfl : first = chunk := by simpa using hchunk
        cases kept with
        | nil => simp [inked, hblank] at hink
        | cons other kept =>
          obtain ⟨rfl, _⟩ := List.cons_prefix_cons.mp hkept
          exact ⟨kept, rfl⟩

/-- Enough fuel is given if it is as much as there are chunks, because each line takes one. -/
theorem exists_fills {f : Filling} {lead : List Char} (hfirst : f.first = lead)
    (hother : f.other = lead) (hcut : f.cutting = false) (fuel : Nat) (started : Bool)
    (chunks : List (List Char)) (hfuel : chunks.length ≤ fuel) :
    ∃ groups, fillFrom f fuel started chunks = groups.map (fun group => lead ++ group.flatten) ∧
      Fills f.trimmed chunks groups := by
  induction fuel generalizing started chunks with
  | zero =>
    obtain rfl : chunks = [] := List.length_eq_zero_iff.mp (Nat.le_zero.mp hfuel)
    exact ⟨[], rfl, by simp, rfl, fun _ => rfl, by simp⟩
  | succ fuel ih =>
    cases chunks with
    | nil => exact ⟨[], by simp [fillFrom], by simp, rfl, fun _ => rfl, by simp⟩
    | cons chunk rest =>
      -- A blank chunk at the start of a line that is not the first one is skipped.
      obtain ⟨skipped, taken, htaken, hchunks, hblank, hall⟩ :
          ∃ skipped taken,
            (if f.trimmed && started && allBlank chunk then rest else chunk :: rest) =
              taken ∧ chunk :: rest = skipped ++ taken ∧
            (∀ chunk ∈ skipped, allBlank chunk = true) ∧ (f.trimmed = false → skipped = []) := by
        by_cases h : (f.trimmed && started && allBlank chunk) = true
        · refine ⟨[chunk], rest, by simp [h], rfl, ?_, ?_⟩ <;> simp_all
        · exact ⟨[], chunk :: rest, by simp [h], rfl, by simp, fun _ => rfl⟩
      obtain ⟨hline, htakes⟩ := nextLine_spec hcut (f.width - (lead.length : Int)) taken
      obtain ⟨hkept, hink, huntrimmed⟩ :=
        endLine_spec f (nextLine f (f.width - (lead.length : Int)) taken).1
      rw [fillFrom, hfirst, hother, ite_self]
      dsimp only
      rw [htaken]
      generalize nextLine f (f.width - (lead.length : Int)) taken = next at *
      have hleft : next.2.length ≤ fuel := by
        have hlength := congrArg List.length hline
        have htotal := congrArg List.length hchunks
        rw [List.length_append] at hlength htotal
        cases taken with
        | nil => simp_all
        | cons first taken =>
          have hpos := List.length_pos_of_ne_nil (htakes (List.cons_ne_nil _ _))
          omega
      obtain ⟨groups, hgroups, hfills⟩ :=
        ih (if (endLine f next.1).isEmpty then started else true) next.2 hleft
      refine ⟨_, ?_, hchunks ▸ hline ▸ hfills.addLine hblank hkept hink fun h =>
        ⟨hall h, huntrimmed h⟩⟩
      split
      · simp_all
      · simp_all

theorem length_le_length_flatten {chunks : List (List Char)} (hne : ∀ chunk ∈ chunks, chunk ≠ []) :
    chunks.length ≤ chunks.flatten.length := by
  induction chunks with
  | nil => exact Nat.le_refl _
  | cons chunk chunks ih =>
    rw [List.forall_mem_cons] at hne
    have hpos := List.length_pos_of_ne_nil hne.1
    have hrest := ih hne.2
    rw [List.flatten_cons, List.length_append, List.length_cons]
    omega

/-- The lines of a text are groups of its chunks. -/
theorem lines_eq_map {f : Filling} {lead : List Char} (hfirst : f.first = lead)
    (hother : f.other = lead) (hcut : f.cutting = false) (s : List Char) :
    ∃ groups, f.lines s = groups.map (fun group => lead ++ group.flatten) ∧
      Fills f.trimmed (chunks (plainBlanks s)) groups := by
  refine exists_fills hfirst hother hcut _ false _ ?_
  have hlength := length_le_length_flatten fun chunk => ne_nil_of_mem_chunks (s := plainBlanks s)
  omega

/-! ## Words -/

theorem isBlank_of_isFillBlank {c : Char} (hc : isFillBlank c = true) : isBlank c = true := by
  have h : c = ' ' ∨ c = '\t' ∨ c = '\n' ∨ c = '\x0b' ∨ c = '\x0c' ∨ c = '\r' := by
    simpa [isFillBlank, or_assoc] using hc
  rcases h with rfl | rfl | rfl | rfl | rfl | rfl <;> decide

/-- The text with plain blanks, after `column` characters of its line. -/
def plainBlanksFrom (column : Nat) (s : List Char) : List Char :=
  mapClass isFillBlank ' ' (expandTabsFrom column s)

theorem plainBlanksFrom_cons (column : Nat) (c : Char) (cs : List Char) :
    ∃ next more, (c ≠ '\t' → more = 0) ∧
      plainBlanksFrom column (c :: cs) =
        (if isFillBlank c then ' ' else c) ::
        (List.replicate more ' ' ++ plainBlanksFrom next cs) := by
  unfold plainBlanksFrom
  rw [expandTabsFrom]
  by_cases htab : c = '\t'
  · subst htab
    obtain ⟨more, hmore⟩ : ∃ more, 8 - column % 8 = more + 1 := ⟨7 - column % 8, by omega⟩
    refine ⟨column + (8 - column % 8), more, by simp, ?_⟩
    rw [hmore]
    simp [mapClass, isFillBlank, List.replicate_succ]
  · by_cases hend : c = '\n' ∨ c = '\r'
    · exact ⟨0, 0, fun _ => rfl, by simp [htab, hend, mapClass]⟩
    · exact ⟨column + 1, 0, fun _ => rfl, by simp [htab, hend, mapClass]⟩

theorem mem_plainBlanks {s : List Char} {c : Char} (h : c ∈ plainBlanks s) :
    c = ' ' ∨ (c ∈ s ∧ isFillBlank c = false) := by
  have hfrom (column : Nat) (s : List Char) (h : c ∈ plainBlanksFrom column s) :
      c = ' ' ∨ (c ∈ s ∧ isFillBlank c = false) := by
    induction s generalizing column with
    | nil => simp [plainBlanksFrom, expandTabsFrom, mapClass] at h
    | cons d ds ih =>
      obtain ⟨next, more, -, heq⟩ := plainBlanksFrom_cons column d ds
      rw [heq, List.mem_cons, List.mem_append] at h
      rcases h with h | h | h
      · by_cases hd : isFillBlank d = true
        · exact .inl (by simpa [hd] using h)
        · simp_all
      · exact .inl (List.eq_of_mem_replicate h)
      · exact (ih next h).imp id fun ⟨hmem, hc⟩ => ⟨List.mem_cons_of_mem _ hmem, hc⟩
  exact hfrom 0 s h

theorem plainBlanks_of_forall {s : List Char} (h : ∀ c ∈ s, isFillBlank c = true → c = ' ') :
    plainBlanks s = s := by
  have hfrom (column : Nat) : plainBlanksFrom column s = s := by
    induction s generalizing column with
    | nil => rfl
    | cons c cs ih =>
      rw [List.forall_mem_cons] at h
      obtain ⟨next, more, hmore, heq⟩ := plainBlanksFrom_cons column c cs
      have htab : c ≠ '\t' := by
        rintro rfl
        exact absurd (h.1 (by decide)) (by decide)
      rw [heq, hmore htab, ih h.2 next]
      by_cases hc : isFillBlank c = true
      · simp [h.1 hc]
      · simp [hc]
  exact hfrom 0

theorem words_plainBlanks (s : List Char) : words (plainBlanks s) = words s := by
  have hspace : isBlank ' ' = true := by decide
  have hblanks (more : Nat) (t : List Char) :
      wordsFrom [] (List.replicate more ' ' ++ t) = wordsFrom [] t := by
    induction more with
    | zero => rfl
    | succ more ih => simpa [List.replicate_succ, wordsFrom, hspace] using ih
  have hfrom (word : List Char) (column : Nat) (s : List Char) :
      wordsFrom word (plainBlanksFrom column s) = wordsFrom word s := by
    induction s generalizing word column with
    | nil => rfl
    | cons c cs ih =>
      obtain ⟨next, more, hmore, heq⟩ := plainBlanksFrom_cons column c cs
      rw [heq]
      by_cases hc : isFillBlank c = true
      · simp [wordsFrom, hc, hspace, isBlank_of_isFillBlank hc, hblanks, ih]
      · have htab : c ≠ '\t' := by
          rintro rfl
          exact hc (by decide)
        simp [wordsFrom, hc, hmore htab, ih]
  exact hfrom [] 0 s

theorem words_flatten {parts : List (List Char)} (hne : ∀ part ∈ parts, part ≠ [])
    (hmeet : parts.IsChain (MeetAt isBlank)) : words parts.flatten = parts.flatMap words := by
  induction parts with
  | nil => rfl
  | cons part parts ih =>
    rw [List.forall_mem_cons] at hne
    obtain ⟨hnext, hmeet⟩ := List.isChain_cons.mp hmeet
    have hrest := ih hne.2 hmeet
    rw [List.flatten_cons, List.flatMap_cons, ← hrest]
    cases parts with
    | nil => simp [words, wordsFrom]
    | cons next parts => exact words_append ((hnext next rfl).append parts.flatten)

theorem flatMap_words_inked (chunks : List (List Char)) :
    (inked chunks).flatMap words = chunks.flatMap words := by
  induction chunks with
  | nil => rfl
  | cons chunk chunks ih =>
    cases h : allBlank chunk with
    | true => rw [inked_cons_of_allBlank h, ih, List.flatMap_cons, words_eq_nil_iff.mpr h]; rfl
    | false =>
      have hcons : inked (chunk :: chunks) = chunk :: inked chunks := by simp [inked, h]
      rw [hcons, List.flatMap_cons, List.flatMap_cons, ih]

theorem head?_plainBlanks {s : List Char} (hs : startsBlank s = false) :
    (plainBlanks s).head? = s.head? := by
  cases s with
  | nil => rfl
  | cons c cs =>
    have hc : isBlank c = false := by simpa [startsBlank] using hs
    have hfill : isFillBlank c = false :=
      Bool.eq_false_iff.mpr fun h => by simp [isBlank_of_isFillBlank h] at hc
    obtain ⟨next, more, -, heq⟩ := plainBlanksFrom_cons 0 c cs
    have heq : plainBlanks (c :: cs) = _ := heq
    simp [heq, hfill]

theorem mem_of_mem_chunks {s chunk : List Char} (h : chunk ∈ chunks (plainBlanks s)) {c : Char}
    (hc : c ∈ chunk) : c = ' ' ∨ (c ∈ s ∧ isFillBlank c = false) :=
  mem_plainBlanks (flatten_chunks (plainBlanks s) ▸ List.mem_flatten.mpr ⟨chunk, h, hc⟩)

theorem Fills.mem_of_mem_flatten {trimmed : Bool} {s : List Char} {groups : List (List (List Char))}
    (h : Fills trimmed (chunks (plainBlanks s)) groups) {group : List (List Char)}
    (hgroup : group ∈ groups) {c : Char} (hc : c ∈ group.flatten) :
    c = ' ' ∨ (c ∈ s ∧ isFillBlank c = false) := by
  obtain ⟨chunk, hchunk, hc⟩ := List.mem_flatten.mp hc
  exact mem_of_mem_chunks ((h.part group hgroup).subset hchunk) hc

/-- What the lines of a text hold after their lead, if no word has a hyphen. -/
structure Contents (s : List Char) (contents : List (List Char)) : Prop where
  words_eq : contents.flatMap words = words s
  plain : ∀ content ∈ contents, ∀ c ∈ content, c = ' ' ∨ (c ∈ s ∧ isFillBlank c = false)
  head : s ≠ [] → startsBlank s = false → ∃ content ∈ contents.head?, content.head? = s.head?

/-- Where lead is the same for all lines, they hold the words of the text after it. -/
theorem exists_contents {f : Filling} {lead : List Char} (hfirst : f.first = lead)
    (hother : f.other = lead) (hcut : f.cutting = false) {s : List Char} (hs : '-' ∉ s) :
    ∃ contents, f.lines s = contents.map (lead ++ ·) ∧ Contents s contents := by
  obtain ⟨groups, hlines, hfills⟩ := lines_eq_map hfirst hother hcut s
  have hflatten := flatten_chunks (plainBlanks s)
  -- Without hyphens, chunks meet at blanks only, so each word is in one chunk.
  have hbreak {chunk : List Char} (h : chunk ∈ chunks (plainBlanks s)) {c : Char} (hc : c ∈ chunk)
      (hbreak : isBreak c = true) : isBlank c = true := by
    rcases mem_of_mem_chunks h hc with rfl | ⟨hcs, hfill⟩
    · decide
    · have hhyphen : c = '-' := by simpa [isBreak, hfill] using hbreak
      exact absurd (hhyphen ▸ hcs) hs
  have hmeet : (chunks (plainBlanks s)).IsChain (MeetAt isBlank) := by
    refine (isChain_chunks (plainBlanks s)).imp_of_mem_imp fun chunk next hchunk hnext h => ?_
    exact h.imp (fun ⟨c, hc, h⟩ => ⟨c, hc, hbreak hchunk (List.mem_of_getLast? hc) h⟩)
      fun ⟨c, hc, h⟩ => ⟨c, hc, hbreak hnext (List.mem_of_head? hc) h⟩
  have hgroup {group : List (List Char)} (h : group ∈ groups) :
      words group.flatten = group.flatMap words := by
    have hpart := hfills.part group h
    refine words_flatten (fun chunk hchunk => ne_nil_of_mem_chunks (hpart.subset hchunk)) ?_
    obtain ⟨front, back, hsplit⟩ := hpart
    rw [← hsplit] at hmeet
    exact hmeet.left_of_append.right_of_append
  refine ⟨groups.map List.flatten, by simp [hlines], ?_, ?_, ?_⟩
  · calc
      (groups.map List.flatten).flatMap words = groups.flatMap fun group => words group.flatten :=
        List.flatMap_map ..
      _ = groups.flatMap (List.flatMap words) := by
        rw [List.flatMap_def, List.flatMap_def, List.map_congr_left fun group h => hgroup h]
      _ = groups.flatten.flatMap words := by
        rw [List.flatten_eq_flatMap, List.flatMap_assoc]
        rfl
      _ = (chunks (plainBlanks s)).flatMap words := by
        rw [← flatMap_words_inked, hfills.ink, flatMap_words_inked]
      _ = words s := by
        rw [← words_flatten (fun _ => ne_nil_of_mem_chunks) hmeet, hflatten, words_plainBlanks]
  · intro content hcontent c hc
    obtain ⟨group, hgroup, rfl⟩ := List.mem_map.mp hcontent
    exact hfills.mem_of_mem_flatten hgroup hc
  · intro hne hstart
    have hhead := head?_plainBlanks hstart
    obtain ⟨c, cs, rfl⟩ := List.exists_cons_of_ne_nil hne
    cases hchunks : chunks (plainBlanks (c :: cs)) with
    | nil =>
      rw [← hflatten, hchunks] at hhead
      simp at hhead
    | cons chunk rest =>
      rw [← hflatten, hchunks] at hhead
      obtain ⟨d, ds, rfl⟩ := List.exists_cons_of_ne_nil
        (ne_nil_of_mem_chunks (hchunks ▸ List.mem_cons_self) : chunk ≠ [])
      obtain rfl : d = c := by simpa using hhead
      have hblank : allBlank (d :: ds) = false := by
        have hd : isBlank d = false := by simpa [startsBlank] using hstart
        simp [allBlank, hd]
      obtain ⟨more, hmore⟩ := hfills.head (d :: ds) (by rw [hchunks]; rfl) hblank
      exact ⟨((d :: ds) :: more).flatten, by simp [hmore], rfl⟩

end Harvest.Text
