import Harvest.Catalog.Entry
import Mathlib.Data.List.Induction
import Mathlib.Data.List.Nodup

/-!
# Lists without repetitions

What one more item does to the distinct items of a list, in the order of first appearance.
-/

namespace Harvest

variable {α : Type} [BEq α] [LawfulBEq α]

theorem eraseDups_concat_of_mem {xs : List α} {x : α} (hx : x ∈ xs) :
    (xs ++ [x]).eraseDups = xs.eraseDups := by
  rw [List.eraseDups_append]
  simp [List.removeAll, hx]

theorem eraseDups_concat_of_notMem {xs : List α} {x : α} (hx : x ∉ xs) :
    (xs ++ [x]).eraseDups = xs.eraseDups ++ [x] := by
  rw [List.eraseDups_append]
  simp [List.removeAll, hx, List.eraseDups_cons]

theorem nodup_eraseDups (xs : List α) : xs.eraseDups.Nodup := by
  induction xs using List.reverseRecOn with
  | nil => exact List.nodup_nil
  | append_singleton xs x ih =>
    by_cases hx : x ∈ xs
    · rw [eraseDups_concat_of_mem hx]
      exact ih
    · rw [eraseDups_concat_of_notMem hx, ← List.concat_eq_append]
      exact List.Nodup.concat (by rwa [List.mem_eraseDups]) ih

theorem eraseDups_of_nodup {xs : List α} (h : xs.Nodup) : xs.eraseDups = xs := by
  induction xs using List.reverseRecOn with
  | nil => rfl
  | append_singleton xs x ih =>
    obtain ⟨hxs, -, hx⟩ := List.nodup_append.mp h
    rw [eraseDups_concat_of_notMem fun hmem => hx x hmem x List.mem_cons_self rfl, ih hxs]

theorem eraseDups_pairwise_idxOf (xs : List α) :
    xs.eraseDups.Pairwise fun a b => xs.idxOf a < xs.idxOf b := by
  induction xs using List.reverseRecOn with
  | nil => exact .nil
  | append_singleton xs x ih =>
    have hkept : xs.eraseDups.Pairwise fun a b => (xs ++ [x]).idxOf a < (xs ++ [x]).idxOf b := by
      refine ih.imp_of_mem fun {a b} ha hb h => ?_
      rwa [List.idxOf_append_of_mem (List.mem_eraseDups.mp ha),
        List.idxOf_append_of_mem (List.mem_eraseDups.mp hb)]
    by_cases hx : x ∈ xs
    · rwa [eraseDups_concat_of_mem hx]
    · rw [eraseDups_concat_of_notMem hx, List.pairwise_append]
      refine ⟨hkept, List.pairwise_singleton _ x, fun a ha b hb => ?_⟩
      have ha := List.mem_eraseDups.mp ha
      rw [List.mem_singleton.mp hb, List.idxOf_append_of_mem ha, List.idxOf_append_of_notMem hx]
      have := List.idxOf_lt_length_of_mem ha
      omega

/-! ## Adding what is new -/

namespace Catalog

theorem addNew_of_mem {xs : List α} {x : α} (hx : x ∈ xs) : addNew xs x = xs :=
  if_pos (List.contains_iff_mem.mpr hx)

theorem addNew_of_notMem {xs : List α} {x : α} (hx : x ∉ xs) : addNew xs x = xs ++ [x] :=
  if_neg (by rwa [List.contains_iff_mem])

theorem addNew_eraseDups (xs : List α) (x : α) :
    addNew xs.eraseDups x = (xs ++ [x]).eraseDups := by
  by_cases hx : x ∈ xs
  · rw [addNew_of_mem (List.mem_eraseDups.mpr hx), eraseDups_concat_of_mem hx]
  · rw [addNew_of_notMem (by rwa [List.mem_eraseDups]), eraseDups_concat_of_notMem hx]

/-- Adding new items one after the other gives the items without repetitions. Items that are added
are seen by the ones after them, so repetitions among the new items count too. -/
theorem foldl_addNew_eraseDups (xs ys : List α) :
    ys.foldl addNew xs.eraseDups = (xs ++ ys).eraseDups := by
  induction ys generalizing xs with
  | nil => rw [List.append_nil]; rfl
  | cons y ys ih =>
    rw [List.foldl_cons, addNew_eraseDups, ih, List.append_assoc, List.singleton_append]

theorem distinct_eq (xs : List α) : distinct xs = xs.eraseDups := foldl_addNew_eraseDups [] xs

end Catalog

end Harvest
