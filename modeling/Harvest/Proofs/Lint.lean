import Harvest.Lint
import Harvest.Proofs.Catalog.Merge
import Harvest.Proofs.Outcomes

/-!
# What is said about a catalog

A message is reported if it is there more than once, and a translation if more than one entry has
it. An entry that is there twice with its translation counts twice, so its translation is reported
although no other message shares it.
-/

namespace Harvest.Lint

open Catalog (Entry Key distinct_eq)

/-! ## Printing -/

def said (s : Session) (lines : List String) : Session :=
  { s with
    printed := { s.printed with
      out := s.printed.out ++ String.join (lines.map (· ++ "\n")) } }

theorem run_forM_say (lines : List String) (s : Session) :
    (ExceptT.run (lines.forM Job.say)).run s = (.ok (), said s lines) := by
  induction lines generalizing s with
  | nil => simp [said, String.join]; rfl
  | cons line lines ih =>
    refine (ih _).trans ?_
    simp [said, String.append_assoc]

/-! ## Messages that are there more than once -/

variable {entries : List Entry} {translation : String} {key : Key} {keys : List Key} {n : Nat}

/-- The keys that are reported are those that more than one entry has, with their number. -/
theorem mem_repeated_iff :
    (key, n) ∈ repeated entries ↔ 2 ≤ n ∧ (entries.map Entry.key).count key = n := by
  rw [repeated, counts, distinct_eq, List.mem_filter, List.mem_map, bne_iff_ne]
  constructor
  · rintro ⟨⟨_, hmem, ⟨⟩⟩, hn⟩
    have hpos := List.count_pos_iff.mpr (List.mem_eraseDups.mp hmem)
    omega
  · rintro ⟨hn, rfl⟩
    have hmem := List.count_pos_iff.mp (by omega : 0 < (entries.map Entry.key).count key)
    exact ⟨⟨key, List.mem_eraseDups.mpr hmem, rfl⟩, by omega⟩

/-- Repeated keys are reported in the order in which they first appear. -/
theorem repeated_pairwise (entries : List Entry) :
    ((repeated entries).map Prod.fst).Pairwise fun a b =>
      (entries.map Entry.key).idxOf a < (entries.map Entry.key).idxOf b := by
  have hkeys : (repeated entries).map Prod.fst =
      (entries.map Entry.key).eraseDups.filter fun key =>
          (entries.map Entry.key).count key != 1 := by
    rw [repeated, counts, distinct_eq, List.filter_map, List.map_map]
    exact List.map_id' _
  rw [hkeys]
  exact (eraseDups_pairwise_idxOf _).filter _

/-! ## Translations -/

def Uses (entries : List Entry) (translation : String) (key : Key) : Prop :=
  ∃ e ∈ entries, e.translation = translation ∧ e.key = key

theorem mem_usersOf_iff : key ∈ usersOf entries translation ↔ Uses entries translation key := by
  simp [usersOf, Uses, and_assoc]

/-- The translations that are reported are those that more than one entry has, with all of these. -/
theorem mem_shared_iff : (translation, keys) ∈ shared entries ↔
    translation ≠ "" ∧ keys = usersOf entries translation ∧ 2 ≤ keys.length := by
  have hused : translation ∈ (entries.map (·.translation)).filter (!·.isEmpty) ↔
      translation ≠ "" ∧ 0 < (usersOf entries translation).length := by
    simp [usersOf, List.length_pos_iff, and_comm]
  rw [shared, users, distinct_eq, List.mem_filter, List.mem_map, bne_iff_ne]
  constructor
  · rintro ⟨⟨_, hmem, ⟨⟩⟩, hlength⟩
    obtain ⟨hne, hpos⟩ := hused.mp (List.mem_eraseDups.mp hmem)
    have hlength : (usersOf entries translation).length ≠ 1 := hlength
    exact ⟨hne, rfl, by omega⟩
  · rintro ⟨hne, rfl, hlength⟩
    have hone : (usersOf entries translation).length ≠ 1 := by omega
    exact ⟨⟨translation, List.mem_eraseDups.mpr (hused.mpr ⟨hne, by omega⟩), rfl⟩, hone⟩

theorem shared_nodup (entries : List Entry) : ((shared entries).map Prod.fst).Nodup := by
  rw [shared, users, distinct_eq, List.filter_map, List.map_map]
  refine (List.Nodup.filter _ (nodup_eraseDups _)).map ?_
  exact fun a b h => h

/-- A translation is reported just if two messages share it, and then with each of them once. -/
def ReportsUsers (entries : List Entry) (translation : String) : Prop :=
  ((∃ keys, (translation, keys) ∈ shared entries) ↔
      ∃ a b, a ≠ b ∧ Uses entries translation a ∧ Uses entries translation b) ∧
    ∀ keys, (translation, keys) ∈ shared entries → keys.Nodup ∧ ∀ key, key ∈ keys ↔
      Uses entries translation key

/-- A list that does not have two items has none twice, and one without repetitions has two items if
it has two different ones. -/
theorem two_le_length_iff {α : Type} {xs : List α} :
    (xs.length < 2 → xs.Nodup) ∧ (xs.Nodup → (2 ≤ xs.length ↔ ∃ a b, a ≠ b ∧ a ∈ xs ∧ b ∈ xs)) := by
  rcases xs with _ | ⟨x, _ | ⟨y, xs⟩⟩
  · simp
  · simp
  · refine ⟨fun h => absurd h (by simp), fun hnodup =>
      ⟨fun _ => ⟨x, y, ?_, by simp, by simp⟩, fun _ => by simp⟩⟩
    exact fun h => (List.nodup_cons.mp hnodup).1 (h ▸ List.mem_cons_self)

/-- The report on a translation is right just if no key uses it twice. -/
theorem reportsUsers_iff (htranslation : translation ≠ "") :
    ReportsUsers entries translation ↔ (usersOf entries translation).Nodup := by
  have hreported : (∃ keys, (translation, keys) ∈ shared entries) ↔
      2 ≤ (usersOf entries translation).length := by
    simp [mem_shared_iff, htranslation]
  simp only [ReportsUsers, hreported, ← mem_usersOf_iff]
  constructor
  · rintro ⟨-, hkeys⟩
    by_cases hlength : 2 ≤ (usersOf entries translation).length
    · exact (hkeys _ (mem_shared_iff.mpr ⟨htranslation, rfl, hlength⟩)).1
    · exact two_le_length_iff.1 (by omega)
  · intro hnodup
    refine ⟨two_le_length_iff.2 hnodup, fun keys hkeys => ?_⟩
    obtain ⟨-, rfl, -⟩ := mem_shared_iff.mp hkeys
    exact ⟨hnodup, fun key => Iff.rfl⟩

/-- A check says which messages are there more than once and which translations more than one entry
has. The latter is right for a translation just if no message is there twice with it. -/
theorem check_report {tree : Files.Directory} {path : String}
    (h : entriesAt tree path = .ok entries) (leader : String) (s : Session) :
    (ExceptT.run (check tree leader path)).run s =
        (.ok (), said s
        ((repeated entries).flatMap (fun block => repeatedReport leader block.1 block.2) ++
          (shared entries).flatMap fun block => sharedReport leader block.1 block.2)) ∧
      (∀ key n, (key, n) ∈ repeated entries ↔ 2 ≤ n ∧ (entries.map Entry.key).count key = n) ∧
      (((repeated entries).map Prod.fst).Pairwise fun a b =>
        (entries.map Entry.key).idxOf a < (entries.map Entry.key).idxOf b) ∧
      (∀ translation keys, (translation, keys) ∈ shared entries ↔
        translation ≠ "" ∧ keys = usersOf entries translation ∧ 2 ≤ keys.length) ∧
      ((shared entries).map Prod.fst).Nodup ∧
      ∀ translation, translation ≠ "" →
        (ReportsUsers entries translation ↔ (usersOf entries translation).Nodup) := by
  refine ⟨?_, fun key n => mem_repeated_iff, repeated_pairwise entries,
    fun translation keys => mem_shared_iff,
    shared_nodup entries, fun translation => reportsUsers_iff⟩
  rw [check, h]
  exact run_forM_say _ s

def twice : List Entry :=
    [{ text := some "a", translation := "x" }, { text := some "a", translation := "x" }]

def twiceFile : Files.Directory :=
  .file "nl.po" (Text.encodeUtf8 "msgid \"a\"\nmsgstr \"x\"\n\nmsgid \"a\"\nmsgstr \"x\"\n".toList)
    .nil

theorem check_report_twice :
    entriesAt twiceFile "nl.po" = .ok twice ∧
      (ExceptT.run (check twiceFile "" "nl.po")).run {} =
        (.ok (), said {} (repeatedReport "" (some "a", none) 2 ++
          sharedReport "" "x" [(some "a", none), (some "a", none)])) := by
  have hentries : entriesAt twiceFile "nl.po" = .ok twice :=
    toOption_eq_some_iff.mp (by decide +kernel)
  have hrepeated : repeated twice = [((some "a", none), 2)] := by decide
  have hshared : shared twice = [("x", [(some "a", none), (some "a", none)])] := by decide
  refine ⟨hentries, (check_report hentries "" {}).1.trans ?_⟩
  rw [hrepeated, hshared]
  rfl

/-- Its translation is reported, although no other message shares it. -/
theorem reportsUsers_twice : ¬ ReportsUsers twice "x" := by
  rw [reportsUsers_iff (by decide)]
  decide

end Harvest.Lint
