import Harvest.Keyword
import Mathlib.Data.List.Induction

/-!
# Keywords that are added again

The keywords of a session are changed by every extraction, since each adds those that the user
names. To add them once more changes nothing: a keyword that is there already is replaced in its
place by the one that won the first time, and a specification that removes all keywords removes the
same ones.
-/

namespace Harvest.KeywordTable

/-! ## One keyword -/

theorem insert_of_mem {table : KeywordTable} {k : Keyword} (hk : k.function ∈ table.names) :
    table.insert k =
      ⟨table.entries.map fun entry => if entry.1 == k.function then
        (k.function, k) else entry⟩ := by
  obtain ⟨entry, hentry, hname⟩ := List.mem_map.mp hk
  have hany : table.entries.any (·.1 == k.function) = true :=
    List.any_eq_true.mpr ⟨entry, hentry, beq_iff_eq.mpr hname⟩
  rw [insert, if_pos hany]

theorem insert_of_notMem {table : KeywordTable} {k : Keyword} (hk : k.function ∉ table.names) :
    table.insert k = ⟨table.entries ++ [(k.function, k)]⟩ := by
  have hany : ¬ table.entries.any (·.1 == k.function) = true := by
    intro h
    obtain ⟨entry, hentry, hname⟩ := List.any_eq_true.mp h
    exact hk (List.mem_map.mpr ⟨entry, hentry, beq_iff_eq.mp hname⟩)
  rw [insert, if_neg hany]

theorem names_insert_of_mem {table : KeywordTable} {k : Keyword} (hk : k.function ∈ table.names) :
    (table.insert k).names = table.names := by
  rw [insert_of_mem hk, names, names, List.map_map]
  apply List.map_congr_left
  intro entry _
  rw [Function.comp_apply]
  split
  · next h => exact (beq_iff_eq.mp h).symm
  · rfl

theorem names_insert_of_notMem {table : KeywordTable} {k : Keyword}
    (hk : k.function ∉ table.names) :
    (table.insert k).names = table.names ++ [k.function] := by
  rw [insert_of_notMem hk, names, List.map_append]
  rfl

theorem mem_names_insert {table : KeywordTable} {k : Keyword} {name : String} :
    name ∈ (table.insert k).names ↔ name ∈ table.names ∨ name = k.function := by
  by_cases hk : k.function ∈ table.names
  · rw [names_insert_of_mem hk]
    constructor
    · exact .inl
    · rintro (h | rfl)
      · exact h
      · exact hk
  · rw [names_insert_of_notMem hk, List.mem_append, List.mem_singleton]

theorem mem_entries_insert {table : KeywordTable} {k : Keyword} {entry : String × Keyword}
    (h : entry ∈ (table.insert k).entries) :
    entry = (k.function, k) ∨ (entry ∈ table.entries ∧ entry.1 ≠ k.function) := by
  by_cases hk : k.function ∈ table.names
  · rw [insert_of_mem hk] at h
    obtain ⟨old, hold, rfl⟩ := List.mem_map.mp h
    split
    · exact .inl rfl
    · next hname => exact .inr ⟨hold, fun h => hname (beq_iff_eq.mpr h)⟩
  · rw [insert_of_notMem hk] at h
    rcases List.mem_append.mp h with hold | hnew
    · exact .inr ⟨hold, fun h => hk (h ▸ List.mem_map_of_mem hold)⟩
    · exact .inl (List.mem_singleton.mp hnew)

theorem mem_entries_of_get? {table : KeywordTable} {name : String} {k : Keyword}
    (h : table.get? name = some k) : (name, k) ∈ table.entries := by
  obtain ⟨before, after, hentries, -⟩ := List.lookup_eq_some_iff.mp h
  rw [hentries]
  exact List.mem_append_right before List.mem_cons_self

/-! ## Keywords in turn -/

def insertAll (table : KeywordTable) (ks : List Keyword) : KeywordTable := ks.foldl insert table

def lastNamed? (ks : List Keyword) (name : String) : Option Keyword :=
  ks.reverse.find? (·.function == name)

theorem lastNamed?_concat (ks : List Keyword) (k : Keyword) (name : String) :
    lastNamed? (ks ++ [k]) name = if k.function == name then some k else lastNamed? ks name := by
  rw [lastNamed?, List.reverse_append, List.reverse_singleton,
    List.singleton_append, List.find?_cons]
  cases k.function == name <;> rfl

theorem insertAll_concat (table : KeywordTable) (ks : List Keyword) (k : Keyword) :
    table.insertAll (ks ++ [k]) = (table.insertAll ks).insert k := by
  rw [insertAll, List.foldl_append]
  rfl

theorem mem_names_insertAll {table : KeywordTable} {ks : List Keyword} {name : String} :
    name ∈ (table.insertAll ks).names ↔ name ∈ table.names ∨ ∃ k ∈ ks, name = k.function := by
  induction ks using List.reverseRecOn with
  | nil => simp [insertAll]
  | append_singleton ks k ih =>
    rw [insertAll_concat, mem_names_insert, ih]
    simp only [List.mem_append, List.mem_singleton, or_and_right, exists_or,
      exists_eq_left, or_assoc]

/-- Under each name stands the last keyword that was added under it. -/
theorem snd_of_mem_insertAll {table : KeywordTable} {ks : List Keyword} {entry : String × Keyword}
    {k : Keyword} (hentry : entry ∈ (table.insertAll ks).entries)
    (hk : lastNamed? ks entry.1 = some k) : entry.2 = k := by
  induction ks using List.reverseRecOn with
  | nil => cases hk
  | append_singleton ks last ih =>
    rw [insertAll_concat] at hentry
    rw [lastNamed?_concat] at hk
    rcases mem_entries_insert hentry with rfl | ⟨hold, hname⟩
    · rw [if_pos (beq_self_eq_true _)] at hk
      exact Option.some.inj hk
    · rw [if_neg fun h => hname (beq_iff_eq.mp h).symm] at hk
      exact ih hold hk

theorem insertAll_of_mem {table : KeywordTable} {ks : List Keyword}
    (hks : ∀ k ∈ ks, k.function ∈ table.names) :
    table.insertAll ks =
      ⟨table.entries.map fun entry => (entry.1, (lastNamed? ks entry.1).getD entry.2)⟩ := by
  induction ks using List.reverseRecOn with
  | nil =>
    change table = ⟨table.entries.map fun entry => (entry.1, entry.2)⟩
    rw [List.map_id'']
    exact fun _ => rfl
  | append_singleton ks k ih =>
    have hall := ih fun k hk => hks k (List.mem_append_left _ hk)
    have hk : k.function ∈ (table.insertAll ks).names :=
      mem_names_insertAll.mpr (.inl (hks k (List.mem_append_right _ (List.mem_singleton_self k))))
    rw [insertAll_concat, insert_of_mem hk, hall, List.map_map]
    congr 1
    apply List.map_congr_left
    intro entry _
    rw [Function.comp_apply, lastNamed?_concat]
    by_cases hname : entry.1 = k.function
    · rw [if_pos (beq_iff_eq.mpr hname), if_pos (beq_iff_eq.mpr hname.symm), hname]
      rfl
    · rw [if_neg fun h => hname (beq_iff_eq.mp h), if_neg fun h => hname (beq_iff_eq.mp h).symm]

theorem insertAll_insertAll (table : KeywordTable) (ks : List Keyword) :
    (table.insertAll ks).insertAll ks = table.insertAll ks := by
  have hkept (entry : String × Keyword) (hentry : entry ∈ (table.insertAll ks).entries) :
      (entry.1, (lastNamed? ks entry.1).getD entry.2) = entry := by
    cases hk : lastNamed? ks entry.1 with
    | none => rfl
    | some k =>
      rw [Option.getD_some, ← snd_of_mem_insertAll hentry hk]
  rw [insertAll_of_mem fun k hk => mem_names_insertAll.mpr (.inr ⟨k, hk, rfl⟩),
    List.map_congr_left hkept, List.map_id']

/-! ## Specifications -/

theorem addSpecs_fault (table other : KeywordTable) (specs : List String) :
    (table.addSpecs specs).2 = (other.addSpecs specs).2 := by
  induction specs generalizing table other with
  | nil => rfl
  | cons spec specs ih =>
    rw [addSpecs, addSpecs]
    cases Keyword.ofSpec spec with
    | error fault => rfl
    | ok k => exact ih _ _

/-- After a specification that removes all keywords it does not matter which there were. -/
theorem addSpecs_of_mem_empty {specs : List String} (hempty : "" ∈ specs) {table : KeywordTable}
    (h : (table.addSpecs specs).2 = none) (other : KeywordTable) :
    table.addSpecs specs = other.addSpecs specs := by
  induction specs generalizing table other with
  | nil => cases hempty
  | cons spec specs ih =>
    by_cases hspec : spec = ""
    · subst hspec
      rfl
    · have hrest : "" ∈ specs := (List.mem_cons.mp hempty).resolve_left (Ne.symm hspec)
      rw [addSpecs] at h ⊢
      rw [addSpecs]
      cases hk : Keyword.ofSpec spec with
      | error fault =>
        rw [hk] at h
        cases h
      | ok k =>
        rw [hk] at h
        exact ih hrest h _

theorem addSpecs_of_notMem_empty {specs : List String} (hempty : "" ∉ specs) {table : KeywordTable}
    (h : (table.addSpecs specs).2 = none) :
    ∃ ks, ∀ other : KeywordTable, other.addSpecs specs = (other.insertAll ks, none) := by
  induction specs generalizing table with
  | nil => exact ⟨[], fun _ => rfl⟩
  | cons spec specs ih =>
    have hspec : ¬ spec.isEmpty = true := by
      intro hspec
      exact hempty (String.isEmpty_iff.mp hspec ▸ List.mem_cons_self)
    rw [addSpecs] at h
    cases hk : Keyword.ofSpec spec with
    | error fault =>
      rw [hk] at h
      cases h
    | ok k =>
      rw [hk] at h
      obtain ⟨ks, hks⟩ := ih (fun hmem => hempty (List.mem_cons_of_mem _ hmem)) h
      refine ⟨k :: ks, fun other => ?_⟩
      rw [addSpecs, if_neg hspec, hk]
      exact hks _

/-- To add specifications that can be read once more changes nothing. -/
theorem addSpecs_addSpecs {table : KeywordTable} {specs : List String}
    (h : (table.addSpecs specs).2 = none) :
    (table.addSpecs specs).1.addSpecs specs = table.addSpecs specs := by
  by_cases hempty : "" ∈ specs
  · exact (addSpecs_of_mem_empty hempty h _).symm
  · obtain ⟨ks, hks⟩ := addSpecs_of_notMem_empty hempty h
    rw [hks table, hks, insertAll_insertAll]

/-! ## Tables that specifications make equal -/

/-- The specifications, if they can be read, make the same of both tables. -/
def Alike (specs : List String) (table other : KeywordTable) : Prop :=
  (table.addSpecs specs).2 = none → table.addSpecs specs = other.addSpecs specs

theorem Alike.refl (specs : List String) (table : KeywordTable) : table.Alike specs table :=
  fun _ => rfl

theorem Alike.addSpecs {specs : List String} {table other : KeywordTable}
    (h : table.Alike specs other) : table.Alike specs (other.addSpecs specs).1 := by
  intro hfault
  rw [← h hfault]
  exact (addSpecs_addSpecs hfault).symm

end Harvest.KeywordTable
