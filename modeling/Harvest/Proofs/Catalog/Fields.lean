import Harvest.Catalog.Render
import Harvest.Proofs.Text.Fill
import Harvest.Proofs.Text.Lines
import Mathlib.Data.Set.List

/-!
# Fields in writing

A text is written between quotes in parts, one for each line. The parts make up the text again: a
line ends next to a blank or a hyphen, and so never between a backslash and what it stands before.
-/

namespace Harvest.Catalog

open Text

/-! ## Texts between quotes -/

theorem escape_cons (c : Char) (cs : List Char) :
    escape (c :: cs) = escapeChar c ++ escape cs := rfl

theorem escape_append (s t : List Char) : escape (s ++ t) = escape s ++ escape t :=
  List.flatMap_append

theorem escapeChar_cases (c : Char) :
    (escapeChar c = [c] ∧ c ≠ '\\' ∧ c ≠ '"' ∧ c ≠ '\t' ∧ c ≠ '\r' ∧ c ≠ '\n') ∨
      ∃ d, escapeChar c = ['\\', d] ∧ escaped? d = some c ∧ d ∈ ['\\', 't', 'r', 'n', '"'] := by
  unfold escapeChar
  split_ifs with hbackslash htab hreturn hfeed hquote
  · exact .inr ⟨_, rfl, by subst hbackslash; decide, by decide⟩
  · exact .inr ⟨_, rfl, by subst htab; decide, by decide⟩
  · exact .inr ⟨_, rfl, by subst hreturn; decide, by decide⟩
  · exact .inr ⟨_, rfl, by subst hfeed; decide, by decide⟩
  · exact .inr ⟨_, rfl, by subst hquote; decide, by decide⟩
  · exact .inl ⟨rfl, hbackslash, hquote, htab, hreturn, hfeed⟩

theorem unescape_cons_of_ne {c : Char} (hc : c ≠ '\\') (cs : List Char) :
    unescape (c :: cs) = c :: unescape cs := by
  rw [unescape.eq_2]
  rintro - - rfl
  exact absurd rfl hc

theorem unescape_escape (s : List Char) : unescape (escape s) = s := by
  induction s with
  | nil => rfl
  | cons c cs ih =>
    rw [escape_cons]
    rcases escapeChar_cases c with ⟨hplain, hbackslash, -⟩ | ⟨d, hescaped, hd, -⟩
    · rw [hplain, List.singleton_append, unescape_cons_of_ne hbackslash, ih]
    · rw [hescaped]
      simp [unescape, hd, ih]

theorem escape_injective {s t : List Char} (h : escape s = escape t) : s = t := by
  rw [← unescape_escape s, h, unescape_escape]

theorem mem_escape {s : List Char} {c : Char} (h : c ∈ escape s) :
    c ∈ s ∧ c ≠ '\t' ∧ c ≠ '\r' ∧ c ≠ '\n' ∨ c ∈ ['\\', 't', 'r', 'n', '"'] := by
  obtain ⟨x, hx, hc⟩ := List.mem_flatMap.mp h
  rcases escapeChar_cases x with ⟨hplain, -, -, htab, hreturn, hfeed⟩ | ⟨d, hescaped, -, hd⟩
  · rw [hplain, List.mem_singleton] at hc
    subst hc
    exact .inl ⟨hx, htab, hreturn, hfeed⟩
  · rw [hescaped] at hc
    rcases List.mem_cons.mp hc with rfl | hc
    · exact .inr (by decide)
    · rw [List.mem_singleton] at hc
      subst hc
      exact .inr hd

/-! ## Parts -/

/-- What is written is cut between characters where it is cut next to a blank or a hyphen. -/
theorem escape_eq_append {s p q : List Char} (h : escape s = p ++ q)
    (hmeet : p = [] ∨ MeetAt isBreak p q) :
    ∃ front back, s = front ++ back ∧ p = escape front ∧ q = escape back := by
  induction s generalizing p with
  | nil =>
    obtain ⟨rfl, rfl⟩ := List.append_eq_nil_iff.mp h.symm
    exact ⟨[], [], rfl, rfl, rfl⟩
  | cons c cs ih =>
    rcases hmeet with rfl | hmeet
    · exact ⟨[], c :: cs, rfl, rfl, h.symm⟩
    rw [escape_cons] at h
    rcases List.append_eq_append_iff.mp h with ⟨rest, rfl, hrest⟩ | ⟨rest, hchar, rfl⟩
    · -- The cut comes after this character.
      have hmeet : rest = [] ∨ MeetAt isBreak rest q := by
        by_cases hempty : rest = []
        · exact .inl hempty
        · exact .inr (hmeet.of_append hempty)
      obtain ⟨front, back, rfl, rfl, rfl⟩ := ih hrest hmeet
      exact ⟨c :: front, back, rfl, rfl, rfl⟩
    · -- The cut comes before the end of this character, or at its end.
      have hwhole (h : rest = []) : ∃ front back, c :: cs = front ++ back ∧ p = escape front ∧
          rest ++ escape cs = escape back :=
        ⟨[c], cs, rfl, by simp [escape, hchar, h], by simp [h]⟩
      cases p with
      | nil => exact ⟨[], c :: cs, rfl, rfl, by simp [escape_cons, hchar]⟩
      | cons x p =>
        rcases escapeChar_cases c with ⟨hplain, -⟩ | ⟨d, hescaped, -, hd⟩
        · obtain ⟨-, hrest⟩ := List.cons.inj (hplain.symm.trans hchar)
          exact hwhole (List.append_eq_nil_iff.mp hrest.symm).2
        · obtain ⟨rfl, hd'⟩ := List.cons.inj (hescaped.symm.trans hchar)
          rcases List.append_eq_singleton_iff.mp hd'.symm with ⟨rfl, rfl⟩ | ⟨rfl, rfl⟩
          · -- No line ends after a backslash, or before what may follow it.
            have hbreak : ['\\', 't', 'r', 'n', '"'].all (!isBreak ·) = true := by decide
            rcases hmeet with ⟨e, he, h⟩ | ⟨e, he, h⟩
            · obtain rfl : '\\' = e := by simpa using he
              exact absurd h (by decide)
            · obtain rfl : d = e := by simpa using he
              have hd := List.all_eq_true.mp hbreak d hd
              simp [h] at hd
          · exact hwhole rfl

/-- Chunks never break an escape, so each of them is the escape of a part. -/
theorem exists_escape_of_mem {chunks : List (List Char)} {s : List Char}
    (hne : ∀ chunk ∈ chunks, chunk ≠ []) (hmeet : chunks.IsChain (MeetAt isBreak))
    (h : escape s = chunks.flatten) : ∀ chunk ∈ chunks, ∃ part, chunk = escape part := by
  induction chunks generalizing s with
  | nil => simp
  | cons chunk chunks ih =>
    rw [List.forall_mem_cons] at hne ⊢
    obtain ⟨hnext, hmeet⟩ := List.isChain_cons.mp hmeet
    cases chunks with
    | nil => exact ⟨⟨s, by simpa using h.symm⟩, by simp⟩
    | cons next chunks =>
      have hcut : MeetAt isBreak chunk (next :: chunks).flatten :=
        (hnext next rfl).append chunks.flatten
      obtain ⟨front, back, -, hfront, hback⟩ := escape_eq_append h (.inr hcut)
      exact ⟨⟨front, hfront⟩, ih hne.2 hmeet hback.symm⟩

theorem escape_flatten (parts : List (List Char)) :
    escape parts.flatten = (parts.map escape).flatten := by
  induction parts with
  | nil => rfl
  | cons part parts ih =>
    rw [List.flatten_cons, escape_append, ih, List.map_cons, List.flatten_cons]

theorem exists_map_escape {written : List (List Char)}
    (h : ∀ s ∈ written, ∃ part, s = escape part) :
    ∃ parts : List (List Char), written = parts.map escape := by
  have hrange : written ∈ Set.range (List.map escape) := by
    rw [Set.range_list_map]
    exact fun s hs => (h s hs).imp fun _ => Eq.symm
  exact hrange.imp fun _ => Eq.symm

theorem flatten_map_unescape_lines {f : Filling} (hfirst : f.first = []) (hother : f.other = [])
    (hcut : f.cutting = false) (htrimmed : f.trimmed = false) {s : List Char}
    (hs : ∀ c ∈ s, isFillBlank c = true → c = ' ' ∨ c = '\t' ∨ c = '\r' ∨ c = '\n') :
    ((f.lines (escape s)).map unescape).flatten = s := by
  have hplain : plainBlanks (escape s) = escape s := by
    refine plainBlanks_of_forall fun c hc hblank => ?_
    rcases mem_escape hc with ⟨hmem, htab, hreturn, hfeed⟩ | hmem
    · simpa [htab, hreturn, hfeed] using hs c hmem hblank
    · have hink : ['\\', 't', 'r', 'n', '"'].all (!isFillBlank ·) = true := by decide
      have hc := List.all_eq_true.mp hink c hmem
      simp [hblank] at hc
  obtain ⟨groups, hlines, hfills⟩ := lines_eq_map hfirst hother hcut (escape s)
  rw [hplain] at hfills
  have hflatten := flatten_chunks (escape s)
  have hchunks := exists_escape_of_mem (fun _ => ne_nil_of_mem_chunks) (isChain_chunks (escape s))
    hflatten.symm
  have hwritten : ∀ line ∈ groups.map List.flatten, ∃ part, line = escape part := by
    intro line hline
    obtain ⟨group, hgroup, rfl⟩ := List.mem_map.mp hline
    obtain ⟨parts, rfl⟩ := exists_map_escape fun chunk hchunk =>
      hchunks chunk ((hfills.part group hgroup).subset hchunk)
    exact ⟨parts.flatten, (escape_flatten parts).symm⟩
  obtain ⟨parts, hparts⟩ := exists_map_escape hwritten
  have hread : (f.lines (escape s)).map unescape = parts := by
    have hlines : f.lines (escape s) = parts.map escape := by simpa [hlines] using hparts
    rw [hlines, List.map_map]
    exact (List.map_congr_left fun part _ => unescape_escape part).trans (List.map_id _)
  refine escape_injective ?_
  rw [hread, escape_flatten, ← hparts, ← List.flatten_flatten, hfills.all htrimmed, hflatten]

/-- A field can be written in lines that are wide enough for the quotes. -/
theorem exists_fieldLines {width : Int} (hwidth : width ≤ 0 ∨ 2 < width)
    (lead label value : String) :
    ∃ written, fieldLines width lead label value = .ok written := by
  have hparts : ∃ parts, fieldParts width label value.toList = .ok parts := by
    unfold fieldParts
    split
    · exact ⟨_, rfl⟩
    · dsimp only
      split
      · next hlong =>
        have hpositive : width > 0 := of_decide_eq_true (Bool.and_eq_true_iff.mp hlong).1
        rw [if_neg (by omega)]
        exact ⟨_, rfl⟩
      · exact ⟨_, rfl⟩
  obtain ⟨parts, hparts⟩ := hparts
  unfold fieldLines
  rw [hparts]
  cases parts <;> exact ⟨_, rfl⟩

/-- A text that ends in neither a vertical tab nor a form feed, which do not survive filling. -/
def EndsPlain (s : List Char) : Prop := s.getLast? ≠ some '\x0b' ∧ s.getLast? ≠ some '\x0c'

instance (s : List Char) : Decidable (EndsPlain s) := inferInstanceAs (Decidable (_ ∧ _))

theorem eq_of_isFillBlank {value : List Char} (hone : (brokenLines value).length ≤ 1)
    (hvalue : EndsPlain value) {c : Char} (hc : c ∈ value) (hblank : isFillBlank c = true) :
    c = ' ' ∨ c = '\t' ∨ c = '\r' ∨ c = '\n' := by
  -- A vertical tab or a form feed ends a line, so it could only be the last character.
  have hlast (hend : isLineEnd c = true) (hne : c ≠ '\r') : value.getLast? = some c :=
    getLast?_of_isLineEnd hone hc hend hne
  have hcases : c = ' ' ∨ c = '\t' ∨ c = '\n' ∨ c = '\x0b' ∨ c = '\x0c' ∨ c = '\r' := by
    simpa [isFillBlank, or_assoc] using hblank
  rcases hcases with rfl | rfl | rfl | rfl | rfl | rfl
  · exact .inl rfl
  · exact .inr (.inl rfl)
  · exact .inr (.inr (.inr rfl))
  · exact absurd (hlast (by decide) (by decide)) hvalue.1
  · exact absurd (hlast (by decide) (by decide)) hvalue.2
  · exact .inr (.inr (.inl rfl))

theorem flatten_fieldParts {width : Int} {label : String} {value : List Char}
    {parts : List (List Char)} (h : fieldParts width label value = .ok parts)
    (hvalue : EndsPlain value) : parts ≠ [] ∧ parts.flatten = value := by
  unfold fieldParts at h
  split at h
  case h_1 first second rest hlines =>
    obtain rfl := Except.ok.inj h
    refine ⟨List.cons_ne_nil _ _, ?_⟩
    rw [List.flatten_cons, List.nil_append, ← hlines, flatten_fullLines]
  case h_2 hlines =>
    dsimp only at h
    split_ifs at h
    · obtain rfl := Except.ok.inj h
      refine ⟨List.cons_ne_nil _ _, ?_⟩
      rw [List.flatten_cons, List.nil_append]
      have hone : (brokenLines value).length ≤ 1 := by
        match hbroken : brokenLines value with
        | [] => simp
        | [broken] => simp
        | first :: second :: rest =>
          have hfull : fullLines value =
              (first.1 ++ first.2) :: (second.1 ++ second.2) :: rest.map fun l => l.1 ++ l.2 := by
            simp [fullLines, hbroken]
          exact (hlines _ _ _ hfull).elim
      exact flatten_map_unescape_lines rfl rfl rfl rfl fun _ hc hblank =>
        eq_of_isFillBlank hone hvalue hc hblank
    · obtain rfl := Except.ok.inj h
      exact ⟨List.cons_ne_nil _ _, by simp⟩

def quoted (part : List Char) : List Char := '"' :: (escape part ++ ['"'])

/-- A field is written as parts in quotes, which make up its value. -/
theorem fieldLines_eq {width : Int} {label value : String} {written : List String}
    (h : fieldLines width "" label value = .ok written) (hvalue : EndsPlain value.toList) :
    ∃ part parts, (part :: parts).flatten = value.toList ∧
      written.map String.toList = (label.toList ++ ' ' :: quoted part) :: parts.map quoted := by
  unfold fieldLines at h
  cases hparts : fieldParts width label value.toList with
  | error fault =>
    rw [hparts] at h
    cases h
  | ok parts =>
    obtain ⟨hne, hflatten⟩ := flatten_fieldParts hparts hvalue
    rw [hparts] at h
    cases parts with
    | nil => exact absurd rfl hne
    | cons part parts =>
      obtain rfl := Except.ok.inj h
      refine ⟨part, parts, hflatten, ?_⟩
      simp [quoted, Function.comp_def]

theorem fieldLines_of_fullLines {width : Int} {label value : String} {written : List String}
    (h : fieldLines width "" label value = .ok written)
    (hlines : 1 < (fullLines value.toList).length) :
    written.map String.toList =
      (label.toList ++ ' ' :: quoted []) :: (fullLines value.toList).map quoted := by
  match hfull : fullLines value.toList, hlines with
  | first :: second :: rest, _ =>
    have hparts : fieldParts width label value.toList = .ok ([] :: first :: second :: rest) := by
      unfold fieldParts
      rw [hfull]
    unfold fieldLines at h
    rw [hparts] at h
    obtain rfl := Except.ok.inj h
    simp [quoted, Function.comp_def]

end Harvest.Catalog
