import Harvest.Proofs.Assoc
import Harvest.Template.Walk

/-!
# Templates as they are written

The text of a template, and where in it the lines of tags and attributes lie. A tag's lines are
counted from its attributes by their plain names, where a later attribute takes the place of an
earlier one with its name; the count is exact all the same.
-/

namespace Harvest.Template

open Text

/-! ## The text of a template -/

def Attribute.lead (a : Attribute) : List Char := (a.space ++ a.name ++ a.eq ++ a.quote).toList

def Attribute.written (a : Attribute) : List Char := a.lead ++ (a.value ++ a.quote).toList

def writtenAttributes (attributes : List Attribute) : List Char :=
  attributes.flatMap Attribute.written

def Tag.lead (tag : Tag) : List Char := (tag.opening ++ tag.name).toList

def Tag.written (tag : Tag) : List Char :=
  tag.lead ++ writtenAttributes tag.attributes ++ (tag.suffix.getD "").toList

mutual

/-- A node as it is written; of a kind that is not understood no text is known. -/
def Node.written : Node → List Char
  | .element start stop children =>
      start.written ++ Node.allWritten children ++ (stop.map Tag.written).getD []
  | .startTag tag => tag.written
  | .text s => s.toList
  | .comment s => s.toList
  | .characterData s => s.toList
  | .instruction s => "<?".toList ++ s.toList ++ "?>".toList
  | .declaration s => s.toList
  | .unknown _ => []

def Node.allWritten : List Node → List Char
  | [] => []
  | node :: rest => node.written ++ Node.allWritten rest

end

@[simp] theorem feeds_nil : feeds [] = 0 := rfl

@[simp] theorem feeds_append (s t : List Char) : feeds (s ++ t) = feeds s + feeds t :=
  List.count_append

theorem writtenAttributes_cons (a : Attribute) (rest : List Attribute) :
    writtenAttributes (a :: rest) = a.written ++ writtenAttributes rest := List.flatMap_cons

/-! ## The lines of a tag -/

theorem foldl_max_of_le {n : Nat} {ns : List Nat} (hns : ∀ m ∈ ns, m ≤ n) : ns.foldl max n = n := by
  induction ns with
  | nil => rfl
  | cons m ns ih =>
    rw [List.foldl_cons, Nat.max_eq_left (hns m List.mem_cons_self)]
    exact ih fun k hk => hns k (List.mem_cons_of_mem _ hk)

theorem foldl_max_bind (name : String) (new : PlainAttribute) {n : Nat}
    {found : List (String × PlainAttribute)} (hn : n ≤ new.stop)
    (hfound : ∀ x ∈ found, x.2.stop ≤ new.stop) :
    ((bind name new found).map (·.2.stop)).foldl max n = new.stop := by
  induction found generalizing n with
  | nil => exact Nat.max_eq_right hn
  | cons x xs ih =>
    have hx : x.2.stop ≤ new.stop := hfound x List.mem_cons_self
    have hxs : ∀ y ∈ xs, y.2.stop ≤ new.stop := fun y hy => hfound y (List.mem_cons_of_mem _ hy)
    rw [bind]
    split
    · rw [List.map_cons, List.foldl_cons, Nat.max_eq_right hn]
      apply foldl_max_of_le
      intro m hm
      obtain ⟨y, hy, rfl⟩ := List.mem_map.mp hm
      exact hxs y hy
    · rw [List.map_cons, List.foldl_cons]
      exact ih (Nat.max_le.mpr ⟨hn, hx⟩) hxs

theorem plainAttributesFrom_cons (line : Nat) (found : List (String × PlainAttribute))
    (a : Attribute) (rest : List Attribute) :
    plainAttributesFrom line found (a :: rest) =
      plainAttributesFrom (line + feeds a.written)
        (bind (plainName a.name) ⟨a.value, line + feeds a.lead, line + feeds a.written⟩ found)
        rest := by
  have hstop : line + textFeeds (a.space ++ a.name ++ a.eq ++ a.quote) +
      textFeeds (a.value ++ a.quote) = line + feeds a.written := by
    rw [Attribute.written, feeds_append, ← Nat.add_assoc]
    rfl
  rw [plainAttributesFrom, hstop]
  rfl

/-- The last line of all attributes is that of the text written so far, although the lines of an
attribute are forgotten when another of its name is found. -/
theorem foldl_max_plainAttributesFrom (attributes : List Attribute) (line : Nat)
    (found : List (String × PlainAttribute)) (hfound : ∀ x ∈ found, x.2.stop ≤ line)
    (hline : (found.map (·.2.stop)).foldl max 0 = line) :
    ((plainAttributesFrom line found attributes).map (·.2.stop)).foldl max 0 =
      line + feeds (writtenAttributes attributes) := by
  induction attributes generalizing line found with
  | nil => exact hline
  | cons a rest ih =>
    -- The attribute ends after all the others, so it does not matter which of them it replaces.
    have hle (x) (hx : x ∈ found) : x.2.stop ≤ line + feeds a.written :=
      Nat.le_trans (hfound x hx) (Nat.le_add_right ..)
    rw [plainAttributesFrom_cons, ih, writtenAttributes_cons, feeds_append, Nat.add_assoc]
    · intro x hx
      rcases Assoc.mem_bind hx with rfl | hx
      · exact Nat.le_refl _
      · exact hle x hx
    · exact foldl_max_bind _ _ (Nat.zero_le _) hle

theorem attributeFeeds_eq (attributes : List Attribute) :
    attributeFeeds attributes = feeds (writtenAttributes attributes) := by
  have h := foldl_max_plainAttributesFrom attributes 0 [] (by simp) rfl
  rwa [Nat.zero_add] at h

theorem Tag.nameFeeds_add_restFeeds (tag : Tag) :
    tag.nameFeeds + tag.restFeeds = feeds tag.written := by
  unfold Tag.restFeeds Tag.written
  rw [attributeFeeds_eq, feeds_append, feeds_append, ← Nat.add_assoc]
  rfl

/-! ## The attribute with a plain name -/

/-- The last attribute with this plain name, and those before it. -/
def lastNamed? (name : String) : List Attribute → Option (List Attribute × Attribute)
  | [] => none
  | a :: rest =>
      ((lastNamed? name rest).map fun (earlier, b) => (a :: earlier, b)).or
        (if plainName a.name = name then some ([], a) else none)

theorem lookup_plainAttributesFrom (name : String) (attributes : List Attribute) (line : Nat)
    (found : List (String × PlainAttribute)) :
    (plainAttributesFrom line found attributes).lookup name =
      ((lastNamed? name attributes).map fun (earlier, a) =>
        (⟨a.value, line + feeds (writtenAttributes earlier ++ a.lead),
          line + feeds (writtenAttributes earlier ++ a.written)⟩ : PlainAttribute)).or
        (found.lookup name) := by
  induction attributes generalizing line found with
  | nil => rfl
  | cons a rest ih =>
    rw [plainAttributesFrom_cons, ih, Assoc.lookup_bind, lastNamed?]
    cases hrest : lastNamed? name rest with
    | some last =>
      simp only [Option.map_some, Option.some_or, writtenAttributes_cons, feeds_append,
        Nat.add_assoc]
    | none =>
      by_cases hname : plainName a.name = name
      · simp [hname, writtenAttributes]
      · simp [hname, Ne.symm hname]

theorem lookup_plainAttributes (name : String) (attributes : List Attribute) :
    (plainAttributes attributes).lookup name =
      (lastNamed? name attributes).map fun (earlier, a) =>
        ⟨a.value, feeds (writtenAttributes earlier ++ a.lead),
          feeds (writtenAttributes earlier ++ a.written)⟩ := by
  unfold plainAttributes
  rw [lookup_plainAttributesFrom]
  simp

end Harvest.Template
