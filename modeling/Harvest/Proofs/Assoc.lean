import Harvest.Assoc
import Harvest.Proofs.Distinct

/-!
# Association lists

Binding keys to values one after the other: a key stays where it is bound first, and has the value
to which it is bound last.
-/

namespace Harvest.Assoc

variable {α β : Type} [DecidableEq α]

theorem lookup_cons (k key : α) (value : β) (xs : List (α × β)) :
    ((key, value) :: xs).lookup k = if k = key then some value else xs.lookup k := by
  rw [List.lookup_cons]
  by_cases hk : k = key
  · rw [if_pos hk, beq_iff_eq.mpr hk]
  · rw [if_neg hk, beq_false_of_ne hk]

theorem lookup_bind (k key : α) (value : β) (xs : List (α × β)) :
    (bind key value xs).lookup k = if k = key then some value else xs.lookup k := by
  induction xs with
  | nil => exact lookup_cons k key value []
  | cons x xs ih =>
    obtain ⟨other, old⟩ := x
    rw [bind]
    by_cases hother : other = key
    · subst hother
      rw [if_pos rfl, lookup_cons, lookup_cons]
      by_cases hk : k = other
      · rw [if_pos hk, if_pos hk]
      · rw [if_neg hk, if_neg hk, if_neg hk]
    · rw [if_neg hother, lookup_cons, lookup_cons, ih]
      by_cases hk : k = other
      · rw [if_pos hk, if_pos hk, if_neg (hk ▸ hother)]
      · rw [if_neg hk, if_neg hk]

theorem mem_bind {key : α} {value : β} {xs : List (α × β)} {x : α × β}
    (hx : x ∈ bind key value xs) : x = (key, value) ∨ x ∈ xs := by
  induction xs with
  | nil => exact .inl (List.mem_singleton.mp hx)
  | cons y ys ih =>
    rw [bind] at hx
    split at hx
    · rcases List.mem_cons.mp hx with h | h
      · exact .inl h
      · exact .inr (List.mem_cons_of_mem _ h)
    · rcases List.mem_cons.mp hx with h | h
      · exact .inr (h ▸ List.mem_cons_self)
      · exact (ih h).imp_right (List.mem_cons_of_mem _)

/-- The keys in the order in which they first appear, each with its last value. -/
def latest (pairs : List (α × β)) : List (α × β) :=
  (pairs.map (·.1)).eraseDups.filterMap fun key => (pairs.reverse.lookup key).map (key, ·)

theorem bind_filterMap (key : α) (value : β) (old : α → Option β) {keys : List α}
    (hkeys : keys.Nodup) (hold : ∀ k ∈ keys, (old k).isSome) :
    bind key value (keys.filterMap fun k => (old k).map (k, ·)) =
      (keys.filterMap fun k => (if k = key then some value else old k).map (k, ·)) ++
        if key ∈ keys then [] else [(key, value)] := by
  induction keys with
  | nil => rfl
  | cons k keys ih =>
    obtain ⟨hk, hnodup⟩ := List.nodup_cons.mp hkeys
    obtain ⟨w, hw⟩ := Option.isSome_iff_exists.mp (hold k List.mem_cons_self)
    have hrest := ih hnodup fun k' hk' => hold k' (List.mem_cons_of_mem _ hk')
    simp only [List.filterMap_cons, hw, Option.map_some, bind]
    by_cases hkey : k = key
    · -- The key is bound in this place, and the keys after it are others.
      subst hkey
      have hsame : ∀ k' ∈ keys, (old k').map (k', ·) =
          (if k' = k then some value else old k').map (k', ·) := by
        intro k' hk'
        rw [if_neg (by rintro rfl; exact hk hk')]
      simp only [↓reduceIte, Option.map_some, List.mem_cons_self, List.append_nil,
        List.filterMap_congr hsame]
    · have hmem : key ∈ k :: keys ↔ key ∈ keys := by
        rw [List.mem_cons, or_iff_right (Ne.symm hkey)]
      simp only [if_neg hkey, hrest, hmem, Option.map_some, List.cons_append]

theorem foldl_bind (pairs : List (α × β)) :
    pairs.foldl (fun bound pair => bind pair.1 pair.2 bound) [] = latest pairs := by
  induction pairs using List.reverseRecOn with
  | nil => rfl
  | append_singleton pairs pair ih =>
    obtain ⟨key, value⟩ := pair
    have hlast (k : α) : (pairs ++ [(key, value)]).reverse.lookup k =
        if k = key then some value else pairs.reverse.lookup k := by
      rw [List.reverse_append, List.reverse_singleton, List.singleton_append, lookup_cons]
    have hold : ∀ k ∈ (pairs.map (·.1)).eraseDups, (pairs.reverse.lookup k).isSome := by
      intro k hk
      obtain ⟨pair, hpair, rfl⟩ := List.mem_map.mp (List.mem_eraseDups.mp hk)
      exact List.lookup_isSome_iff.mpr ⟨pair, List.mem_reverse.mpr hpair, beq_self_eq_true _⟩
    rw [List.foldl_append, List.foldl_cons, List.foldl_nil, ih]
    unfold latest
    rw [bind_filterMap key value _ (nodup_eraseDups _) hold, List.map_append, List.map_singleton]
    simp only [hlast, List.mem_eraseDups]
    by_cases hkey : key ∈ pairs.map (·.1)
    · rw [if_pos hkey, eraseDups_concat_of_mem hkey, List.append_nil]
    · rw [if_neg hkey, eraseDups_concat_of_notMem hkey, List.filterMap_append]
      simp

theorem lookup_latest (pairs : List (α × β)) (key : α) :
    (latest pairs).lookup key = pairs.reverse.lookup key := by
  rw [← foldl_bind]
  induction pairs using List.reverseRecOn with
  | nil => rfl
  | append_singleton pairs pair ih =>
    rw [List.foldl_append, List.foldl_cons, List.foldl_nil, lookup_bind, ih, List.reverse_append,
      List.reverse_singleton, List.singleton_append, lookup_cons]

theorem keys_latest (pairs : List (α × β)) :
    (latest pairs).map (·.1) = (pairs.map (·.1)).eraseDups := by
  have hkey : ∀ key ∈ (pairs.map (·.1)).eraseDups,
      ((pairs.reverse.lookup key).map (key, ·)).map (·.1) = some key := by
    intro key hkey
    obtain ⟨pair, hpair, rfl⟩ := List.mem_map.mp (List.mem_eraseDups.mp hkey)
    have hbound : (pairs.reverse.lookup pair.1).isSome :=
      List.lookup_isSome_iff.mpr ⟨pair, List.mem_reverse.mpr hpair, beq_self_eq_true _⟩
    obtain ⟨value, hvalue⟩ := Option.isSome_iff_exists.mp hbound
    rw [hvalue]
    rfl
  unfold latest
  rw [List.map_filterMap, List.filterMap_congr hkey, List.filterMap_some]

theorem nodup_keys_latest (pairs : List (α × β)) : ((latest pairs).map (·.1)).Nodup := by
  rw [keys_latest]
  exact nodup_eraseDups _

theorem mem_keys_latest {pairs : List (α × β)} {key : α} :
    key ∈ (latest pairs).map (·.1) ↔ key ∈ pairs.map (·.1) := by
  rw [keys_latest, List.mem_eraseDups]

theorem mem_latest_iff {pairs : List (α × β)} {key : α} {value : β} :
    (key, value) ∈ latest pairs ↔ (latest pairs).lookup key = some value := by
  rw [lookup_latest]
  unfold latest
  simp only [List.mem_filterMap, Option.map_eq_some_iff, Prod.mk.injEq]
  constructor
  · rintro ⟨k, -, v, hv, rfl, rfl⟩
    exact hv
  · intro hvalue
    obtain ⟨before, after, hpairs, -⟩ := List.lookup_eq_some_iff.mp hvalue
    have hpair : (key, value) ∈ pairs := by
      rw [← List.mem_reverse, hpairs]
      exact List.mem_append_right _ List.mem_cons_self
    exact ⟨key, List.mem_eraseDups.mpr (List.mem_map_of_mem hpair), value, hvalue, rfl, rfl⟩

theorem lookup_latest_map (keyOf : β → α) (values : List β) (key : α) :
    (latest (values.map fun value => (keyOf value, value))).lookup key =
      values.reverse.find? (keyOf · = key) := by
  rw [lookup_latest, ← List.map_reverse]
  induction values.reverse with
  | nil => rfl
  | cons value rest ih =>
    rw [List.map_cons, lookup_cons, ih, List.find?_cons]
    by_cases hkey : key = keyOf value
    · rw [if_pos hkey, decide_eq_true hkey.symm]
    · rw [if_neg hkey, decide_eq_false (Ne.symm hkey)]

end Harvest.Assoc
