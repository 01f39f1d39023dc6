import Harvest.Proofs.Catalog.Merge

/-!
# Plurals of merged messages

An entry takes its plural from the message that makes it, and no later message adds one. So whether
the plural of a text reaches the catalog depends on the order in which the messages about the text
are found.
-/

namespace Harvest

def Message.hasPlural (m : Message) : Bool := !(m.plural.getD "").isEmpty

namespace Catalog

/-- The catalog of these messages has an entry with this key, a plural, and a form to be translated
for one and for more than one. -/
def KeepsPlural (located : Bool) (ms : List Message) (key : Key) : Prop :=
  ∃ e ∈ addMessages located [] ms, e.key = key ∧ e.plural ≠ "" ∧ e.forms = [(0, ""), (1, "")]

theorem firstPlural_ne_empty_iff {own : List Message} :
    firstPlural own ≠ "" ↔ ∃ m, own.head? = some m ∧ m.hasPlural := by
  unfold firstPlural Message.hasPlural
  cases own with
  | nil => simp
  | cons m rest => simp

/-- The plural of an entry is kept just if the first message for it has one. -/
theorem keepsPlural_iff {located : Bool} {ms : List Message} {key : Key} :
    KeepsPlural located ms key ↔ ∃ m, (about key ms).head? = some m ∧ m.hasPlural := by
  rw [← firstPlural_ne_empty_iff]
  unfold KeepsPlural
  rw [addMessages_eq_merged]
  constructor
  · rintro ⟨e, he, hkey, hplural, -⟩
    obtain ⟨other, -, rfl⟩ := List.mem_map.mp he
    have hother : other = key := hkey
    subst hother
    exact hplural
  · intro hplural
    -- A key with a plural is the key of some message, or nothing would have brought the plural.
    have hseen : key ∈ ms.map Message.key := by
      by_contra hnew
      rw [about_eq_nil_iff.mpr hnew] at hplural
      exact hplural rfl
    have hforms : ¬ (firstPlural (about key ms)).isEmpty = true := by
      rwa [String.isEmpty_iff]
    exact ⟨merged located ms key, List.mem_map_of_mem (List.mem_eraseDups.mpr hseen), rfl, hplural,
      if_neg hforms⟩

theorem about_perm (key : Key) {ns ms : List Message} (hperm : ns.Perm ms) :
    (about key ns).Perm (about key ms) := hperm.filter _

/-- Any message for a key can come first in some order of the messages. -/
theorem exists_perm_head? {key : Key} {ms : List Message} {m : Message} (hm : m ∈ about key ms) :
    ∃ ns, ns.Perm ms ∧ (about key ns).head? = some m := by
  obtain ⟨hmem, hkey⟩ := List.mem_filter.mp hm
  refine ⟨m :: ms.erase m, (List.perm_cons_erase hmem).symm, ?_⟩
  have hfirst : about key (m :: ms.erase m) = m :: about key (ms.erase m) := by
    simp [about, beq_iff_eq.mp hkey]
  rw [hfirst, List.head?_cons]

/-- The plural of a text is kept just if the first message about the text has one. It is kept in
every order of the messages just if there are some about the text and all of them have one, while
for some order of them it is enough that one has. -/
theorem addMessages_plural (located : Bool) (ms : List Message) (key : Key) :
    (KeepsPlural located ms key ↔ ∃ m, (about key ms).head? = some m ∧ m.hasPlural) ∧
      ((∀ ns, ns.Perm ms → KeepsPlural located ns key) ↔
        about key ms ≠ [] ∧ ∀ m ∈ about key ms, m.hasPlural) ∧
      ((∃ ns, ns.Perm ms ∧ KeepsPlural located ns key) ↔ ∃ m ∈ about key ms, m.hasPlural) := by
  have hmem {ns : List Message} (hperm : ns.Perm ms) {m : Message}
      (hm : (about key ns).head? = some m) : m ∈ about key ms :=
    (about_perm key hperm).mem_iff.mp (List.mem_of_mem_head? hm)
  refine ⟨keepsPlural_iff, ⟨?_, ?_⟩, ⟨?_, ?_⟩⟩
  · intro hkept
    refine ⟨?_, ?_⟩
    · obtain ⟨m, hm, -⟩ := keepsPlural_iff.mp (hkept ms (.refl ms))
      intro hnone
      rw [hnone] at hm
      cases hm
    · intro m hm
      obtain ⟨ns, hperm, hfirst⟩ := exists_perm_head? hm
      obtain ⟨n, hn, hplural⟩ := keepsPlural_iff.mp (hkept ns hperm)
      have hsame : m = n := Option.some.inj (hfirst.symm.trans hn)
      rwa [hsame]
  · rintro ⟨hsome, hall⟩ ns hperm
    have hne : about key ns ≠ [] := by
      intro hnone
      have hperm' := about_perm key hperm
      rw [hnone] at hperm'
      exact hsome hperm'.symm.eq_nil
    obtain ⟨m, hm⟩ := Option.isSome_iff_exists.mp (List.isSome_head?.mpr hne)
    exact keepsPlural_iff.mpr ⟨m, hm, hall m (hmem hperm hm)⟩
  · rintro ⟨ns, hperm, hkept⟩
    obtain ⟨m, hm, hplural⟩ := keepsPlural_iff.mp hkept
    exact ⟨m, hmem hperm hm, hplural⟩
  · rintro ⟨m, hm, hplural⟩
    obtain ⟨ns, hperm, hfirst⟩ := exists_perm_head? hm
    exact ⟨ns, hperm, keepsPlural_iff.mpr ⟨m, hfirst, hplural⟩⟩

def singularFirst : List Message :=
  [{ text := some "a", location := ⟨"a.py", 1⟩ },
    { text := some "a", plural := some "b", location := ⟨"a.py", 2⟩ }]

/-- The plural that the second message brings is lost. -/
theorem addMessages_lost_plural :
    (∃ m ∈ singularFirst, m.key = (some "a", none) ∧ m.hasPlural) ∧
      (addMessages true [] singularFirst).map (fun e => (e.key, e.plural, e.forms)) =
        [((some "a", none), "", [])] := by
  decide

end Catalog

end Harvest
