import Mathlib.Data.Prod.Lex
import Mathlib.Data.String.Basic
import Harvest.Proofs.Catalog.Merge
import Harvest.Proofs.Outcomes
import Harvest.Proofs.Text.Decimal

/-!
# Entries in the order of their places

Entries are sorted by all their places, each a file and a line that is read back as a number from
its written form. Main statement: the entries for any messages can be sorted so, which keeps all of
them and puts them in the order of their first places; and without lines each file of an entry is
left once.
-/

namespace Harvest

def Location.le (a b : Location) : Prop := a.file < b.file ∨ a.file = b.file ∧ a.line ≤ b.line

theorem Location.le_iff {a b : Location} :
    a.le b ↔ toLex (a.file, a.line) ≤ toLex (b.file, b.line) := by
  rw [Prod.Lex.toLex_le_toLex]
  rfl

namespace Catalog

/-- Does the entry occur here, where its lines are read as numbers? -/
def Entry.IsAt (e : Entry) (l : Location) : Prop :=
  ∃ o ∈ e.occurrences, o.file = l.file ∧ Text.integer? o.line = .ok l.line

def Entry.IsFirst (e : Entry) (l : Location) : Prop := e.IsAt l ∧ ∀ l', e.IsAt l' → l.le l'

/-- `sorted` has the same entries by their first places, where entries with the same places keep
their order. -/
structure PlaceSorted (entries sorted : List Entry) : Prop where
  perm : sorted.Perm entries
  stable : ∀ a b, a.places = b.places → [a, b].Sublist entries → [a, b].Sublist sorted
  first : ∀ e ∈ sorted, e.occurrences ≠ [] → ∃ l, e.IsFirst l
  rising : sorted.Pairwise fun a b => ∀ l l', a.IsFirst l → b.IsFirst l' → l.le l'

/-- `stripped` is the entry without lines: each file is left once, in the order of first appearance,
and stripping it again changes nothing. -/
structure Stripped (e stripped : Entry) : Prop where
  lines : ∀ o ∈ stripped.occurrences, o.line = ""
  files : ∀ file, file ∈ stripped.occurrences.map (·.file) ↔ file ∈ e.occurrences.map (·.file)
  order : (stripped.occurrences.map (·.file)).Pairwise fun f f' =>
    (e.occurrences.map (·.file)).idxOf f < (e.occurrences.map (·.file)).idxOf f'
  rest : { stripped with occurrences := e.occurrences } = e
  again : stripped.stripLines = stripped

theorem stripped_stripLines (e : Entry) : Stripped e e.stripLines := by
  have hfiles : e.stripLines.occurrences.map (·.file) = (e.occurrences.map (·.file)).eraseDups := by
    rw [Entry.stripLines, List.map_map, ← distinct_eq]
    exact List.map_id _
  refine ⟨?_, ?_, ?_, rfl, ?_⟩
  · intro o ho
    obtain ⟨file, -, rfl⟩ := List.mem_map.mp ho
    rfl
  · intro file
    rw [hfiles, List.mem_eraseDups]
  · rw [hfiles]
    exact eraseDups_pairwise_idxOf _
  · rw [Entry.stripLines, hfiles, distinct_eq,
      eraseDups_of_nodup (nodup_eraseDups _), ← distinct_eq]
    rfl

/-! ## Places -/

structure Keyed (e : Entry) (places : List (String × Int)) : Prop where
  places_eq : e.places = .ok places
  ne_nil : e.occurrences ≠ [] → places ≠ []
  mem_iff : ∀ l : Location, (l.file, l.line) ∈ places ↔ e.IsAt l
  rising : places.Pairwise fun a b => toLex a ≤ toLex b

variable {e : Entry} {places : List (String × Int)}

theorem placeLe_iff (a b : String × Int) :
    (a.1 < b.1 || (a.1 = b.1 && a.2 ≤ b.2)) = true ↔ toLex a ≤ toLex b := by
  rw [Prod.Lex.toLex_le_toLex, Bool.or_eq_true, Bool.and_eq_true, decide_eq_true_iff,
    decide_eq_true_iff,
    decide_eq_true_iff]

theorem exists_keyed (h : ∀ o ∈ e.occurrences, ∃ n, Text.integer? o.line = .ok n) :
    ∃ places, Keyed e places := by
  choose! number hnumber using h
  refine ⟨(e.occurrences.map fun o => (o.file, number o)).mergeSort fun a b =>
    a.1 < b.1 || (a.1 = b.1 && a.2 ≤ b.2), ?_, ?_, ?_, ?_⟩
  · rw [Entry.places, mapM_eq_ok_map (g := fun o => (o.file, number o))
      fun o ho => by rw [hnumber o ho]; rfl]
    rfl
  · intro hne
    rwa [← List.length_pos_iff, List.length_mergeSort, List.length_map, List.length_pos_iff]
  · intro l
    rw [List.mem_mergeSort, List.mem_map]
    refine exists_congr fun o => and_congr_right fun ho => ?_
    rw [Prod.mk.injEq, hnumber o ho, Except.ok.injEq]
  · refine (List.pairwise_mergeSort ?_ ?_ _).imp fun {a b} hab => (placeLe_iff a b).mp hab
    · intro a b c hab hbc
      rw [placeLe_iff] at hab hbc ⊢
      exact hab.trans hbc
    · intro a b
      rw [Bool.or_eq_true, placeLe_iff, placeLe_iff]
      exact le_total _ _

theorem Keyed.isFirst {place : String × Int} (h : Keyed e (place :: places)) :
    e.IsFirst ⟨place.1, place.2⟩ := by
  refine ⟨(h.mem_iff _).mp List.mem_cons_self, fun l hl => Location.le_iff.mpr ?_⟩
  rcases List.mem_cons.mp ((h.mem_iff l).mpr hl) with heq | hmem
  · exact le_of_eq (congrArg toLex heq.symm)
  · exact (List.pairwise_cons.mp h.rising).1 _ hmem

/-! ## The order of entries -/

theorem placesLe_cons_cons {a b : String × Int} {as bs : List (String × Int)} :
    placesLe (a :: as) (b :: bs) = true ↔ toLex a < toLex b ∨ a = b ∧ placesLe as bs = true := by
  rw [placesLe, Prod.Lex.toLex_lt_toLex]
  split
  · next heq => simp [heq]
  · next hne => simp [hne]

theorem placesLe_trans (as bs cs : List (String × Int)) (hab : placesLe as bs = true)
    (hbc : placesLe bs cs = true) :
    placesLe as cs = true := by
  induction as generalizing bs cs with
  | nil => rw [placesLe]
  | cons a as ih =>
    cases bs with
    | nil => cases hab
    | cons b bs =>
      cases cs with
      | nil => cases hbc
      | cons c cs =>
        rw [placesLe_cons_cons] at hab hbc ⊢
        rcases hab with hab | ⟨rfl, hab⟩
        · rcases hbc with hbc | ⟨rfl, -⟩
          · exact .inl (hab.trans hbc)
          · exact .inl hab
        · exact hbc.imp_right fun ⟨heq, hbc⟩ => ⟨heq, ih bs cs hab hbc⟩

theorem placesLe_total (as bs : List (String × Int)) :
    (placesLe as bs || placesLe bs as) = true := by
  induction as generalizing bs with
  | nil => rw [placesLe]; rfl
  | cons a as ih =>
    cases bs with
    | nil => rfl
    | cons b bs =>
      have ih := ih bs
      rw [Bool.or_eq_true] at ih ⊢
      rw [placesLe_cons_cons, placesLe_cons_cons]
      rcases lt_trichotomy (toLex a) (toLex b) with hlt | heq | hgt
      · exact .inl (.inl hlt)
      · obtain rfl := toLex.injective heq
        exact ih.imp (fun h => .inr ⟨rfl, h⟩) fun h => .inr ⟨rfl, h⟩
      · exact .inr (.inl hgt)

/-- The whole lists are compared, so the first places are in order too. -/
theorem Keyed.first_le {a b : Entry} {as bs : List (String × Int)}
    (ha : Keyed a as) (hb : Keyed b bs)
    (h : placesLe as bs = true) {l l' : Location} (hl : a.IsFirst l) (hl' : b.IsFirst l') :
    l.le l' := by
  have hmem := (ha.mem_iff l).mpr hl.1
  have hmem' := (hb.mem_iff l').mpr hl'.1
  cases as with
  | nil => cases hmem
  | cons x as =>
    cases bs with
    | nil => cases hmem'
    | cons y bs =>
      rw [Location.le_iff]
      calc
        toLex (l.file, l.line) ≤ toLex x := Location.le_iff.mp (hl.2 _ ha.isFirst.1)
        _ ≤ toLex y := by
          rcases placesLe_cons_cons.mp h with hlt | ⟨rfl, -⟩
          · exact hlt.le
          · exact le_refl _
        _ ≤ toLex (l'.file, l'.line) := Location.le_iff.mp (hb.isFirst.2 l' hl'.1)

/-- Sorting by places is a stable sort once all lines are known as numbers. -/
theorem sortByPlace_eq {entries : List Entry} {key : Entry → List (String × Int)}
    (h : ∀ e ∈ entries, e.places = .ok (key e)) :
    sortByPlace id entries = .ok (entries.mergeSort fun a b => placesLe (key a) (key b)) := by
  rw [sortByPlace, mapM_eq_ok_map (g := fun e => (key e, e)) fun e he => by rw [id, h e he]; rfl]
  refine congrArg Except.ok ?_
  rw [← List.map_mergeSort (f := fun e => (key e, e)) fun a _ b _ => rfl, List.map_map]
  exact List.map_id _

/-- Entries can be sorted by their places if every line can be read as a number. -/
theorem exists_sortByPlace {entries : List Entry}
    (h : ∀ e ∈ entries, ∀ o ∈ e.occurrences, ∃ n, Text.integer? o.line = .ok n) :
    ∃ sorted, sortByPlace id entries = .ok sorted ∧ PlaceSorted entries sorted := by
  have hkeyed (e : Entry) (he : e ∈ entries) := exists_keyed (h e he)
  choose! key hkey using hkeyed
  have htrans (a b c : Entry) := placesLe_trans (key a) (key b) (key c)
  have htotal (a b : Entry) := placesLe_total (key a) (key b)
  refine ⟨_, sortByPlace_eq fun e he => (hkey e he).places_eq, List.mergeSort_perm _ _, ?_, ?_, ?_⟩
  · intro a b hsame hpair
    have hab : key a = key b := by
      have ha := (hkey a (hpair.subset (by simp))).places_eq
      have hb := (hkey b (hpair.subset (by simp))).places_eq
      exact Except.ok.inj (ha.symm.trans (hsame.trans hb))
    refine List.pair_sublist_mergeSort htrans htotal ?_ hpair
    simpa [hab] using htotal b b
  · intro e he hne
    have hkeyed := hkey e (List.mem_mergeSort.mp he)
    obtain ⟨place, places, hplaces⟩ := List.exists_cons_of_ne_nil (hkeyed.ne_nil hne)
    rw [hplaces] at hkeyed
    exact ⟨_, hkeyed.isFirst⟩
  · refine (List.pairwise_mergeSort htrans htotal entries).imp_of_mem fun ha hb hab l l' => ?_
    exact (hkey _ (List.mem_mergeSort.mp ha)).first_le (hkey _ (List.mem_mergeSort.mp hb)) hab

/-- The entries for messages can be sorted by place, and then stripped of lines. A line number with
more digits could be neither written nor read. -/
theorem sortByPlace_addMessages {located : Bool} {ms : List Message}
    (hshort : located = true → ∀ m ∈ ms,
      (Nat.toDigits 10 m.location.line.natAbs).length ≤ Text.maxDigits) :
    ∃ sorted, sortByPlace id (addMessages located [] ms) = .ok sorted ∧
      PlaceSorted (addMessages located [] ms) sorted ∧ ∀ e ∈ sorted, Stripped e e.stripLines := by
  have hnumbers : ∀ e ∈ addMessages located [] ms, ∀ o ∈ e.occurrences, ∃ n,
      Text.integer? o.line = .ok n := by
    intro e he o ho
    rw [addMessages_eq_merged] at he
    obtain ⟨key, -, rfl⟩ := List.mem_map.mp he
    cases located with
    | false => cases ho
    | true =>
      obtain ⟨m, hm, rfl⟩ := List.mem_map.mp ho
      exact ⟨m.location.line, Text.integer?_toString _ (hshort rfl m (List.mem_filter.mp hm).1)⟩
  obtain ⟨sorted, hsorted, hplaces⟩ := exists_sortByPlace hnumbers
  exact ⟨sorted, hsorted, hplaces, fun e _ => stripped_stripLines e⟩

/-- The first text occurs before the second only by its last place, and line 9 comes before
line 10. -/
def scattered : List Message :=
  [{ text := some "a", location := ⟨"b.py", 10⟩ }, { text := some "b", location := ⟨"b.py", 9⟩ },
    { text := some "a", location := ⟨"a.py", 120⟩ }, { text := some "c", location := ⟨"b.py", 9⟩ }]

theorem sortByPlace_scattered :
    (∀ m ∈ scattered, (Nat.toDigits 10 m.location.line.natAbs).length ≤ Text.maxDigits) ∧
      ∃ sorted, sortByPlace id (addMessages true [] scattered) = .ok sorted ∧
        PlaceSorted (addMessages true [] scattered) sorted ∧
          ∀ e ∈ sorted, Stripped e e.stripLines := by
  have hshort : ∀ m ∈ scattered,
    (Nat.toDigits 10 m.location.line.natAbs).length ≤ Text.maxDigits := by decide
  exact ⟨hshort, sortByPlace_addMessages fun _ => hshort⟩

end Catalog

end Harvest
