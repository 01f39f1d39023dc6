import Harvest.Catalog.Basic
import Harvest.Proofs.Distinct

/-!
# Merging messages into entries

Messages are added to a catalog one at a time, and entries that are there already change in place.
The catalog that results can be told from the messages alone: it has one entry for each text in a
context, in the order in which these first appear, and each entry gathers the particulars of its own
messages and of no other.
-/

namespace Harvest

def Message.key (m : Message) : Catalog.Key := (m.text, m.context)

namespace Catalog

/-- The messages that belong to the entry with this key, in order. -/
def about (key : Key) (ms : List Message) : List Message := ms.filter (·.key == key)

/-- The plural with which an entry for these messages is made: that of the first of them. -/
def firstPlural (own : List Message) : String := (own.head?.bind (·.plural)).getD ""

/-- The entry with this key that gathers the particulars of its messages. -/
def gather (located : Bool) (key : Key) (own : List Message) : Entry :=
  { text := key.1
    context := key.2
    plural := firstPlural own
    forms := if (firstPlural own).isEmpty then [] else [(0, ""), (1, "")]
    flags := (own.flatMap (·.flags)).eraseDups
    comments := (own.map (·.comment)).eraseDups
    translatorComments := (own.map (·.translatorComment)).eraseDups
    occurrences := if located then own.map fun m => .ofLocation m.location else [] }

def merged (located : Bool) (ms : List Message) (key : Key) : Entry :=
  gather located key (about key ms)

/-! ## The entry of a key -/

theorem about_append (key : Key) (ms ns : List Message) :
    about key (ms ++ ns) = about key ms ++ about key ns := List.filter_append ..

theorem about_singleton_self (m : Message) : about m.key [m] = [m] := by simp [about]

theorem about_singleton_of_ne {key : Key} {m : Message} (hne : m.key ≠ key) :
    about key [m] = [] := by simp [about, hne]

theorem about_eq_nil_iff {key : Key} {ms : List Message} :
    about key ms = [] ↔ key ∉ ms.map Message.key := by
  simp only [about, List.filter_eq_nil_iff, List.mem_map, beq_iff_eq, not_exists, not_and]

/-- One more message updates the entry. The plural is left alone, since it is that of the first. -/
theorem gather_append_singleton (located : Bool) (key : Key) {own : List Message} (m : Message)
    (hown : own ≠ []) :
    gather located key (own ++ [m]) = (gather located key own).update m located := by
  have hplural : firstPlural (own ++ [m]) = firstPlural own := by
    unfold firstPlural
    rw [List.head?_append_of_ne_nil _ hown]
  unfold gather Entry.update
  simp only [hplural, List.flatMap_append, List.flatMap_singleton, List.map_append, List.map_cons,
    List.map_nil, foldl_addNew_eraseDups, addNew_eraseDups]
  cases located <;> rfl

theorem gather_singleton (located : Bool) (m : Message) :
    gather located m.key [m] = (Entry.ofMessage m).update m located := by
  have hmade : Entry.ofMessage m =
      { text := m.text, context := m.context, plural := firstPlural [m]
        forms := if (firstPlural [m]).isEmpty then [] else [(0, ""), (1, "")] } := by
    unfold Entry.ofMessage firstPlural
    cases hplural : m.plural with
    | none => simp [hplural]
    | some plural => by_cases hempty : plural = "" <;> simp [hplural, hempty]
  have hflags : m.flags.foldl addNew [] = m.flags.eraseDups := foldl_addNew_eraseDups [] m.flags
  have hone (s : String) : addNew [] s = [s].eraseDups := addNew_eraseDups [] s
  rw [hmade]
  unfold gather Entry.update
  simp only [hflags, hone, List.flatMap_singleton, List.map_cons, List.map_nil, List.nil_append]
  rfl

theorem merged_append_of_ne (located : Bool) (ms : List Message) {m : Message} {key : Key}
    (hne : m.key ≠ key) : merged located (ms ++ [m]) key = merged located ms key := by
  unfold merged
  rw [about_append, about_singleton_of_ne hne, List.append_nil]

theorem merged_append_self (located : Bool) (ms : List Message) (m : Message)
    (hseen : m.key ∈ ms.map Message.key) :
    merged located (ms ++ [m]) m.key = (merged located ms m.key).update m located := by
  have hown : about m.key ms ≠ [] := fun h => about_eq_nil_iff.mp h hseen
  unfold merged
  rw [about_append, about_singleton_self, gather_append_singleton _ _ _ hown]

theorem merged_append_new (located : Bool) (ms : List Message) (m : Message)
    (hnew : m.key ∉ ms.map Message.key) :
    merged located (ms ++ [m]) m.key = (Entry.ofMessage m).update m located := by
  unfold merged
  rw [about_append, about_singleton_self, about_eq_nil_iff.mpr hnew, List.nil_append,
    gather_singleton]

/-! ## Finding the entry of a message -/

theorem position?_middle {before after : List Entry} {e : Entry} {key : Key}
    (hlive : e.obsolete = false) (hkey : e.key = key)
    (hbefore : ∀ x ∈ before, x.key ≠ key) (hafter : ∀ x ∈ after, x.key ≠ key) :
    position? (before ++ e :: after) key = some before.length := by
  let p := fun (x : Entry) => !x.obsolete && x.key == key
  have hself : p e = true := by simp [p, hlive, hkey]
  have hfirst : (before ++ e :: after).findIdx? p = some before.length := by
    rw [List.findIdx?_append, List.findIdx?_eq_none_iff.mpr, List.findIdx?_cons, if_pos hself]
    · simp
    · intro x hx
      simp [p, hbefore x hx]
  have hlast : (before ++ e :: after).reverse.findIdx? p = some after.length := by
    rw [List.reverse_append, List.reverse_cons, List.append_assoc, List.findIdx?_append,
      List.findIdx?_eq_none_iff.mpr, List.singleton_append, List.findIdx?_cons, if_pos hself]
    · simp
    · intro x hx
      simp [p, hafter x (List.mem_reverse.mp hx)]
  have hplace : (before ++ e :: after).length - 1 - after.length = before.length := by
    rw [List.length_append, List.length_cons]
    omega
  unfold position?
  simp only [show (fun (x : Entry) => !x.obsolete && x.key == key) = p from rfl, hfirst, hlast,
    Option.getD_some, hplace, ↓reduceIte]

theorem position?_eq_none {entries : List Entry} {key : Key}
    (hnew : ∀ x ∈ entries, x.key ≠ key) : position? entries key = none := by
  have hfirst : entries.findIdx? (fun x => !x.obsolete && x.key == key) = none := by
    rw [List.findIdx?_eq_none_iff]
    intro x hx
    simp [hnew x hx]
  unfold position?
  simp only [hfirst]

theorem addMessage_middle (located : Bool) {before after : List Entry} {e : Entry} {m : Message}
    (hlive : e.obsolete = false) (hkey : e.key = m.key)
    (hbefore : ∀ x ∈ before, x.key ≠ m.key) (hafter : ∀ x ∈ after, x.key ≠ m.key) :
    addMessage located (before ++ e :: after) m = before ++ e.update m located :: after := by
  have hmodify (f : Entry → Entry) :
      (before ++ e :: after).modify before.length f = before ++ f e :: after := by
    rw [List.modify_eq_take_cons_drop (by simp)]
    simp
  unfold addMessage
  rw [show (m.text, m.context) = m.key from rfl, position?_middle hlive hkey hbefore hafter]
  exact hmodify _

theorem addMessage_new (located : Bool) {entries : List Entry} {m : Message}
    (hnew : ∀ x ∈ entries, x.key ≠ m.key) :
    addMessage located entries m = entries ++ [(Entry.ofMessage m).update m located] := by
  unfold addMessage
  rw [show (m.text, m.context) = m.key from rfl, position?_eq_none hnew]

/-! ## The catalog of all messages -/

theorem key_ne_of_mem_map_merged (located : Bool) (ms : List Message) {keys : List Key} {key : Key}
    (hkeys : key ∉ keys) : ∀ x ∈ keys.map (merged located ms), x.key ≠ key := by
  intro x hx hxkey
  obtain ⟨other, hother, rfl⟩ := List.mem_map.mp hx
  change other = key at hxkey
  exact hkeys (hxkey ▸ hother)

theorem map_merged_append (located : Bool) (ms : List Message) {m : Message} {keys : List Key}
    (hkeys : m.key ∉ keys) :
    keys.map (merged located (ms ++ [m])) = keys.map (merged located ms) := by
  apply List.map_congr_left
  intro key hkey
  exact merged_append_of_ne located ms (by rintro rfl; exact hkeys hkey)

/-- What one more message does to the catalog of all messages so far. -/
theorem addMessage_merged (located : Bool) (ms : List Message) (m : Message) :
    addMessage located ((ms.map Message.key).eraseDups.map (merged located ms)) m =
      ((ms ++ [m]).map Message.key).eraseDups.map (merged located (ms ++ [m])) := by
  rw [List.map_append, List.map_singleton, ← addNew_eraseDups]
  by_cases hseen : m.key ∈ ms.map Message.key
  · -- The key cuts the catalog into two parts without it, and only the entry between them changes.
    have hkeys : m.key ∈ (ms.map Message.key).eraseDups := List.mem_eraseDups.mpr hseen
    obtain ⟨before, after, hsplit⟩ := List.append_of_mem hkeys
    have hnodup := nodup_eraseDups (ms.map Message.key)
    rw [hsplit, List.nodup_middle, List.nodup_cons, List.mem_append, not_or] at hnodup
    obtain ⟨⟨hbefore, hafter⟩, -⟩ := hnodup
    rw [addNew_of_mem hkeys, hsplit, List.map_append, List.map_cons,
      addMessage_middle located rfl rfl (key_ne_of_mem_map_merged located ms hbefore)
        (key_ne_of_mem_map_merged located ms hafter),
      List.map_append, List.map_cons, map_merged_append located ms hbefore,
      map_merged_append located ms hafter, merged_append_self located ms m hseen]
  · have hkeys : m.key ∉ (ms.map Message.key).eraseDups := by rwa [List.mem_eraseDups]
    rw [addNew_of_notMem hkeys, addMessage_new located (key_ne_of_mem_map_merged located ms hkeys),
      List.map_append, List.map_singleton, map_merged_append located ms hkeys,
      merged_append_new located ms m hseen]

/-- A catalog has one entry for each key, in the order in which the keys first appear. -/
theorem addMessages_eq_merged (located : Bool) (ms : List Message) :
    addMessages located [] ms = (ms.map Message.key).eraseDups.map (merged located ms) := by
  induction ms using List.reverseRecOn with
  | nil => rfl
  | append_singleton ms m ih =>
    rw [← addMessage_merged, ← ih]
    unfold addMessages
    rw [List.foldl_append, List.foldl_cons, List.foldl_nil]

/-- Merging loses nothing and repeats nothing: there is one entry for each text in a context, in the
order of first appearance, and it has the occurrences of all its messages, their flags without
repetitions, and their comments without repetitions, each in order. -/
theorem addMessages_entries (located : Bool) (ms : List Message) :
    (addMessages located [] ms).map Entry.key = (ms.map Message.key).eraseDups ∧
      ∀ e ∈ addMessages located [] ms,
        e.obsolete = false ∧
        e.occurrences = (if located then
          (about e.key ms).map fun m => ⟨m.location.file, toString m.location.line⟩ else []) ∧
        e.flags = ((about e.key ms).flatMap (·.flags)).eraseDups ∧
        e.comment = "\n".intercalate ((about e.key ms).map (·.comment)).eraseDups ∧
        e.translatorComment =
          "\n".intercalate ((about e.key ms).map (·.translatorComment)).eraseDups := by
  rw [addMessages_eq_merged]
  constructor
  · rw [List.map_map]
    exact List.map_id _
  · intro e he
    obtain ⟨key, -, rfl⟩ := List.mem_map.mp he
    exact ⟨rfl, rfl, rfl, rfl, rfl⟩

end Catalog

end Harvest
