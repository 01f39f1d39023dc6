import Harvest.Catalog.Basic
import Harvest.Proofs.Assoc
import Mathlib.Data.List.Perm.Subperm
import Mathlib.Data.String.Basic

/-!
# When two catalogs count as the same

Whether a catalog takes the place of the one before it is decided in three layers: summaries of the
entries in use, by their keys; the content of two entries; and their comments. Put together, two
catalogs count as the same exactly if they are about the same texts and the last entries for each
text agree. What none of the layers looks at can change without being noticed: the flags of an
entry, and a plural that reads `0`.
-/

namespace Harvest.Catalog

open Text

/-! ## What is compared -/

def lastFor? (entries : List Entry) (key : Key) : Option Entry :=
  (live entries).reverse.find? (·.key = key)

def liveKeys (entries : List Entry) : List Key := (live entries).map Entry.key

/-- Two texts are the same up to the length and kind of their white space. -/
def SameUpToBlanks (a b : String) : Prop := collapse a.toList = collapse b.toList

/-- What the entries for one text must have in common to count as the same. -/
structure Entry.Agrees (a b : Entry) : Prop where
  occurrences : a.occurrences.Perm b.occurrences
  plural : orZero a.plural = orZero b.plural
  forms : a.forms = [] ∧ b.forms = []
  text : a.text.isSome
  translation : a.translation = b.translation
  comment : SameUpToBlanks a.comment b.comment
  translatorComment : SameUpToBlanks a.translatorComment b.translatorComment

/-- Nothing that is extracted for a text has changed. -/
structure Entry.Unchanged (a b : Entry) : Prop where
  plural : a.plural = b.plural
  flags : ∀ flag, flag ∈ a.flags ↔ flag ∈ b.flags
  occurrences : a.occurrences.Perm b.occurrences
  comment : SameUpToBlanks a.comment b.comment
  translatorComment : SameUpToBlanks a.translatorComment b.translatorComment

/-! ## Occurrences in order -/

namespace Occurrence

theorem le_iff {a b : Occurrence} :
    a.le b = true ↔ a.file < b.file ∨ a.file = b.file ∧ a.line ≤ b.line := by
  unfold le
  rw [Bool.or_eq_true, Bool.and_eq_true, decide_eq_true_iff, decide_eq_true_iff, decide_eq_true_iff]

theorem le_trans (a b c : Occurrence) (hab : a.le b = true) (hbc : b.le c = true) :
    a.le c = true := by
  rw [le_iff] at hab hbc ⊢
  rcases hab with hab | ⟨hfile, hab⟩
  · rcases hbc with hbc | ⟨hfile, hbc⟩
    · exact .inl (lt_trans hab hbc)
    · exact .inl (hfile ▸ hab)
  · rw [hfile]
    exact hbc.imp_right fun ⟨hfile, hbc⟩ => ⟨hfile, String.le_trans hab hbc⟩

theorem le_total (a b : Occurrence) : (a.le b || b.le a) = true := by
  rw [Bool.or_eq_true, le_iff, le_iff]
  rcases lt_trichotomy a.file b.file with h | h | h
  · exact .inl (.inl h)
  · exact (String.le_total a.line b.line).imp (fun hle => .inr ⟨h, hle⟩) fun hle =>
      .inr ⟨h.symm, hle⟩
  · exact .inr (.inl h)

theorem le_antisymm {a b : Occurrence} (hab : a.le b = true) (hba : b.le a = true) : a = b := by
  rw [le_iff] at hab hba
  rcases hab with hab | ⟨hfile, hab⟩
  · rcases hba with hba | ⟨hfile, -⟩
    · exact absurd hba (lt_asymm hab)
    · exact absurd hfile.symm (ne_of_lt hab)
  · rw [hfile] at hba
    have hba : b.line ≤ a.line := (hba.resolve_left (String.lt_irrefl _)).2
    exact congrArg₂ mk hfile (String.le_antisymm hab hba)

end Occurrence

theorem sortedOccurrences_eq_iff (a b : Entry) :
    sortedOccurrences a = sortedOccurrences b ↔ a.occurrences.Perm b.occurrences := by
  unfold sortedOccurrences
  have hperm (e : Entry) := List.mergeSort_perm e.occurrences Occurrence.le
  have hsorted (e : Entry) :=
    List.pairwise_mergeSort Occurrence.le_trans Occurrence.le_total e.occurrences
  constructor
  · intro h
    exact (hperm a).symm.trans (h ▸ hperm b)
  · intro h
    exact List.Perm.eq_of_pairwise (fun _ _ _ _ => Occurrence.le_antisymm) (hsorted a) (hsorted b)
      ((hperm a).trans (h.trans (hperm b).symm))

/-! ## Two entries -/

theorem sameText_iff (a b : String) : sameText a b = true ↔ SameUpToBlanks a b := beq_iff_eq

/-- The contents of two entries for one text are the same only if there are no plural forms. -/
theorem compareContent_eq_same_iff {a b : Entry} (hkey : a.key = b.key) (ha : a.obsolete = false)
    (hb : b.obsolete = false) :
    a.compareContent b = .same ↔
      a.occurrences.Perm b.occurrences ∧ orZero a.plural = orZero b.plural ∧
        (a.forms = [] ∧ b.forms = []) ∧ a.text.isSome ∧ a.translation = b.translation := by
  have htext : a.text = b.text := congrArg Prod.fst hkey
  have hcontext : a.context = b.context := congrArg Prod.snd hkey
  unfold Entry.compareContent
  rw [ha, hb, ← htext, ← hcontext, ← sortedOccurrences_eq_iff, if_neg (by simp)]
  -- The checks stand in the order in which they are made, and all of them must be passed.
  by_cases hoccurrences : sortedOccurrences a = sortedOccurrences b
  · rw [if_neg (by simp [hoccurrences]), if_neg (by simp)]
    by_cases hplural : orZero a.plural = orZero b.plural
    · rw [if_neg (by simp [hplural])]
      by_cases hforms : a.forms = [] ∧ b.forms = []
      · rw [if_neg (by simp [hforms])]
        cases a.text with
        | none => simp
        | some text =>
          by_cases htranslation : a.translation = b.translation
          · simp [hoccurrences, hplural, hforms, htranslation]
          · simp [htranslation]
      · have hsome : ¬ a.forms = [] ∨ ¬ b.forms = [] := Decidable.not_and_iff_not_or_not.mp hforms
        rw [if_pos (by simpa using hsome)]
        simp [hforms]
    · simp [hplural]
  · simp [hoccurrences]

/-- Entries in use for one text compare the same just if they agree. -/
theorem compare_eq_same_iff {a b : Entry} (hkey : a.key = b.key) (ha : a.obsolete = false)
    (hb : b.obsolete = false) : a.compare b = .same ↔ a.Agrees b := by
  have hcontent := compareContent_eq_same_iff hkey ha hb
  unfold Entry.compare
  constructor
  · intro hsame
    split at hsame
    · next h =>
      obtain ⟨hoccurrences, hplural, hforms, htext, htranslation⟩ := hcontent.mp h
      split at hsame
      · next hcomments =>
        rw [Bool.and_eq_true, sameText_iff, sameText_iff] at hcomments
        exact ⟨hoccurrences, hplural, hforms, htext, htranslation, hcomments.1, hcomments.2⟩
      · cases hsame
    · next h => exact absurd hsame h
  · intro h
    have hcomments : (sameText a.comment b.comment &&
        sameText a.translatorComment b.translatorComment) = true := by
      rw [Bool.and_eq_true, sameText_iff, sameText_iff]
      exact ⟨h.comment, h.translatorComment⟩
    rw [hcontent.mpr ⟨h.occurrences, h.plural, h.forms, h.text, h.translation⟩]
    exact if_pos hcomments

/-! ## Summaries -/

theorem summary_eq_latest (entries : List Entry) :
    summary entries = Assoc.latest ((live entries).map fun e => (e.key, e)) := by
  rw [← Assoc.foldl_bind, List.foldl_map]
  rfl

theorem nodup_keys_summary (entries : List Entry) : ((summary entries).map (·.1)).Nodup := by
  rw [summary_eq_latest]
  exact Assoc.nodup_keys_latest _

theorem mem_keys_summary {entries : List Entry} {key : Key} :
    key ∈ (summary entries).map (·.1) ↔ key ∈ liveKeys entries := by
  rw [summary_eq_latest, Assoc.mem_keys_latest, List.map_map]
  rfl

/-- A summary compares keys as pairs, and lists of bindings by their decidable equality. -/
theorem lookup_eq_latest (entries : List Entry) (key : Key) :
    (summary entries).lookup key = @List.lookup _ _ instBEqOfDecidableEq key
      (Assoc.latest ((live entries).map fun e => (e.key, e))) := by
  have hinst : (instBEqProd : BEq Key) = instBEqOfDecidableEq := lawful_beq_subsingleton _ _
  rw [summary_eq_latest, hinst]

theorem lookup_summary (entries : List Entry) (key : Key) :
    (summary entries).lookup key = lastFor? entries key :=
  (lookup_eq_latest entries key).trans (Assoc.lookup_latest_map Entry.key (live entries) key)

theorem mem_summary_iff {entries : List Entry} {key : Key} {e : Entry} :
    (key, e) ∈ summary entries ↔ lastFor? entries key = some e := by
  rw [← lookup_summary, lookup_eq_latest, summary_eq_latest]
  exact Assoc.mem_latest_iff

theorem key_of_lastFor? {entries : List Entry} {key : Key} {e : Entry}
    (h : lastFor? entries key = some e) : e.key = key ∧ e.obsolete = false := by
  have hkey := List.find?_some h
  have hmem := List.mem_reverse.mp (List.mem_of_find?_eq_some h)
  refine ⟨of_decide_eq_true hkey, ?_⟩
  have hlive := (List.mem_filter.mp hmem).2
  simpa using hlive

theorem isSome_lastFor?_iff {entries : List Entry} {key : Key} :
    (lastFor? entries key).isSome ↔ key ∈ liveKeys entries := by
  unfold lastFor? liveKeys
  rw [List.find?_isSome, List.mem_map]
  simp only [List.mem_reverse, decide_eq_true_iff]

/-! ## Catalogs -/

/-- Summaries are the same if each entry of the second has one in the first that compares the same.
-/
theorem compareSummaries_eq_same_iff (b a : List (Key × Entry)) :
    compareSummaries b a = .same ↔
      ∀ pair ∈ a, ∃ other, b.lookup pair.1 = some other ∧ pair.2.compare other = .same := by
  induction a with
  | nil => simp [compareSummaries]
  | cons pair rest ih =>
    obtain ⟨key, e⟩ := pair
    rw [List.forall_mem_cons, ← ih, compareSummaries]
    cases b.lookup key with
    | none => simp
    | some other =>
      cases hcompare : e.compare other with
      | same => simp [hcompare]
      | different => simp [hcompare]
      | impossible => simp [hcompare]

theorem liveKeys_iff_of_subset {a b : List Entry}
    (hlength : (summary a).length = (summary b).length)
    (hsubset : ∀ key ∈ liveKeys a, key ∈ liveKeys b) (key : Key) :
    key ∈ liveKeys a ↔ key ∈ liveKeys b := by
  have hsub : (summary a).map (·.1) ⊆ (summary b).map (·.1) := by
    intro key hkey
    exact mem_keys_summary.mpr (hsubset key (mem_keys_summary.mp hkey))
  have hperm := (List.subperm_of_subset (nodup_keys_summary a) hsub).perm_of_length_le
    (by rw [List.length_map, List.length_map, hlength])
  rw [← mem_keys_summary, ← mem_keys_summary]
  exact hperm.mem_iff

theorem length_summary_eq {a b : List Entry} (hkeys : ∀ key, key ∈ liveKeys a ↔ key ∈ liveKeys b) :
    (summary a).length = (summary b).length := by
  have hperm : ((summary a).map (·.1)).Perm ((summary b).map (·.1)) := by
    rw [List.perm_ext_iff_of_nodup (nodup_keys_summary a) (nodup_keys_summary b)]
    intro key
    rw [mem_keys_summary, mem_keys_summary, hkeys key]
  rw [← List.length_map (f := (·.1)), hperm.length_eq, List.length_map]

/-- Entries count as the same just if they are for the same texts, and those for one text agree. -/
theorem compareEntries_eq_same_iff_agrees (a b : List Entry) :
    compareEntries a b = .same ↔
      (∀ key, key ∈ liveKeys a ↔ key ∈ liveKeys b) ∧
        ∀ key x y, lastFor? a key = some x → lastFor? b key = some y → x.Agrees y := by
  -- The last entries for a text agree if they are compared as the same, since both are in use.
  have hcompare {key : Key} {x y : Entry} (hx : lastFor? a key = some x)
      (hy : lastFor? b key = some y) : x.compare y = .same ↔ x.Agrees y := by
    obtain ⟨hxkey, hxlive⟩ := key_of_lastFor? hx
    obtain ⟨hykey, hylive⟩ := key_of_lastFor? hy
    exact compare_eq_same_iff (hxkey.trans hykey.symm) hxlive hylive
  have hsummaries : compareSummaries (summary b) (summary a) = .same ↔
      ∀ key x, lastFor? a key = some x → ∃ y, lastFor? b key = some y ∧ x.Agrees y := by
    rw [compareSummaries_eq_same_iff]
    constructor
    · intro h key x hx
      obtain ⟨y, hy, hsame⟩ := h (key, x) (mem_summary_iff.mpr hx)
      rw [lookup_summary] at hy
      exact ⟨y, hy, (hcompare hx hy).mp hsame⟩
    · intro h ⟨key, x⟩ hpair
      have hx := mem_summary_iff.mp hpair
      obtain ⟨y, hy, hagrees⟩ := h key x hx
      exact ⟨y, (lookup_summary b key).trans hy, (hcompare hx hy).mpr hagrees⟩
  unfold compareEntries
  dsimp only
  constructor
  · intro hsame
    split at hsame
    · next hlength =>
      have h := hsummaries.mp hsame
      have hkeys := liveKeys_iff_of_subset hlength fun key hkey => by
        obtain ⟨x, hx⟩ := Option.isSome_iff_exists.mp (isSome_lastFor?_iff.mpr hkey)
        obtain ⟨y, hy, -⟩ := h key x hx
        exact isSome_lastFor?_iff.mp (Option.isSome_iff_exists.mpr ⟨y, hy⟩)
      refine ⟨hkeys, fun key x y hx hy => ?_⟩
      obtain ⟨y', hy', hagrees⟩ := h key x hx
      rw [hy] at hy'
      exact Option.some.inj hy' ▸ hagrees
    · cases hsame
  · intro ⟨hkeys, hagree⟩
    rw [if_pos (length_summary_eq hkeys), hsummaries]
    intro key x hx
    have hkey := (hkeys key).mp (isSome_lastFor?_iff.mp (Option.isSome_iff_exists.mpr ⟨x, hx⟩))
    obtain ⟨y, hy⟩ := Option.isSome_iff_exists.mp (isSome_lastFor?_iff.mpr hkey)
    exact ⟨y, hy, hagree key x y hx hy⟩

theorem orZero_of_ne {s : String} (h : s ≠ "") : orZero s = s :=
  if_neg fun hempty => h (String.isEmpty_iff.mp hempty)

theorem plural_eq_iff {a b : String} (h : orZero a = orZero b) : a = b ↔ (a = "" ↔ b = "") := by
  constructor
  · rintro rfl
    exact Iff.rfl
  · intro hempty
    by_cases ha : a = ""
    · rw [ha, hempty.mp ha]
    · rwa [orZero_of_ne ha, orZero_of_ne fun hb => ha (hempty.mpr hb)] at h

/-- What agrees may still differ in its flags, and in whether there is a plural. -/
theorem Entry.Agrees.unchanged_iff {a b : Entry} (h : a.Agrees b) :
    a.Unchanged b ↔
      (∀ flag, flag ∈ a.flags ↔ flag ∈ b.flags) ∧ (a.plural = "" ↔ b.plural = "") := by
  rw [← plural_eq_iff h.plural]
  constructor
  · exact fun hsame => ⟨hsame.flags, hsame.plural⟩
  · exact fun ⟨hflags, hplural⟩ => ⟨hplural, hflags, h.occurrences, h.comment, h.translatorComment⟩

/-- Two catalogs count as the same exactly if they have entries for the same texts and the last
entries for each text agree. Then something has nevertheless changed for a text exactly if the flags
are not the same or only one of the entries has a plural. -/
theorem compareEntries_eq_same_iff (a b : List Entry) :
    (compareEntries a b = .same ↔
      (∀ key, key ∈ liveKeys a ↔ key ∈ liveKeys b) ∧
        ∀ key x y, lastFor? a key = some x → lastFor? b key = some y → x.Agrees y) ∧
    (compareEntries a b = .same →
      ∀ key x y, lastFor? a key = some x → lastFor? b key = some y →
        (x.Unchanged y ↔
          (∀ flag, flag ∈ x.flags ↔ flag ∈ y.flags) ∧ (x.plural = "" ↔ y.plural = ""))) := by
  refine ⟨compareEntries_eq_same_iff_agrees a b, fun hsame key x y hx hy => ?_⟩
  have hagrees := ((compareEntries_eq_same_iff_agrees a b).mp hsame).2 key x y hx hy
  exact hagrees.unchanged_iff

/-- A flag that is lost is not noticed. -/
theorem compareEntries_lost_flag :
    let old : Entry := { text := some "text", flags := ["fuzzy"] }
    let new : Entry := { text := some "text" }
    compareEntries [new] [old] = .same ∧ lastFor? [new] (some "text", none) = some new ∧
      lastFor? [old] (some "text", none) = some old ∧ ¬ new.Unchanged old := by
  refine ⟨by with_unfolding_all rfl, by decide, by decide, fun h => ?_⟩
  exact absurd ((h.flags "fuzzy").mpr List.mem_cons_self) List.not_mem_nil

end Harvest.Catalog
