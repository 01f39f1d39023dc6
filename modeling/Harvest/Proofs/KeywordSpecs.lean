import Harvest.Keyword
import Harvest.Proofs.Text.Decimal

/-!
# Keywords written down and read again

A specification names a function and, after a colon, the numbers of its arguments. Each number but
the two for the message and its plural has a letter, so the numbers may stand in any order in which
the message comes before its plural. A quoted comment may stand last. What is read from such a
specification is what was written.
-/

namespace Harvest

/-! ## Items -/

namespace Keyword

inductive Role where
  | text
  | plural
  | context
  | domain
  | required
deriving DecidableEq

def Role.letter : Role → List Char
  | .text => []
  | .plural => []
  | .context => ['c']
  | .domain => ['d']
  | .required => ['t']

def Role.item (role : Role) (n : Int) : List Char := (toString n).toList ++ role.letter

def set (k : Keyword) (n : Int) : Role → Keyword
  | .text => { k with text := n }
  | .plural => { k with plural := some n }
  | .context => { k with context := some n }
  | .domain => { k with domain := some n }
  | .required => { k with required := some n }

theorem set_comment (k : Keyword) (n : Int) (role : Role) : (k.set n role).comment = k.comment := by
  cases role <;> rfl

theorem mem_item {role : Role} {n : Int} {c : Char} (hc : c ∈ role.item n) :
    c = '-' ∨ c.isDigit = true ∨ c ∈ ['c', 'd', 't'] := by
  rcases List.mem_append.mp hc with h | h
  · exact (Text.mem_toString_int h).imp_right .inl
  · cases role <;> simp_all [Role.letter]

theorem notMem_item (role : Role) (n : Int) {c : Char} (hc : c = ',' ∨ c = '"') :
    c ∉ role.item n := by
  intro h
  rcases hc with rfl | rfl <;> exact absurd (mem_item h) (by decide)

theorem item_ne_nil (role : Role) (n : Int) : role.item n ≠ [] := by
  apply List.append_ne_nil_of_left_ne_nil
  cases n with
  | ofNat m => exact Nat.toList_repr ▸ Nat.toDigits_ne_nil
  | negSucc m => simp [toString, Int.repr]

theorem integer?_ofList_toString {n : Int} (hlength :
    (Nat.toDigits 10 n.natAbs).length ≤ Text.maxDigits) :
    Text.integer? (String.ofList (toString n).toList) = .ok n := by
  rw [String.ofList_toList]
  exact Text.integer?_toString n hlength

theorem addItem_number (k : Keyword) (seenText : Bool) {n : Int}
    (hlength : (Nat.toDigits 10 n.natAbs).length ≤ Text.maxDigits) :
    addItem k seenText (toString n).toList = .ok
      (k.set n (if seenText then .plural else .text), true) := by
  have hletter {c : Char} (h : (toString n).toList.getLast? = some c) : c = '-' ∨
      c.isDigit = true :=
    Text.mem_toString_int (List.mem_of_getLast? h)
  rw [addItem]
  split
  · next h => exact absurd (hletter h) (by decide)
  · next h => exact absurd (hletter h) (by decide)
  · next h => exact absurd (hletter h) (by decide)
  · simp only [integer?_ofList_toString hlength]
    cases seenText <;> rfl

theorem addItem_item {k : Keyword} {seenText : Bool} {role : Role} {n : Int}
    (hlength : (Nat.toDigits 10 n.natAbs).length ≤ Text.maxDigits)
    (htext : role = .text → seenText = false) (hplural : role = .plural → seenText = true) :
    addItem k seenText (role.item n) = .ok (k.set n role, seenText || role = .text) := by
  have hlettered (letter : Char) : ((toString n).toList ++ [letter]).getLast? = some letter ∧
      ((toString n).toList ++ [letter]).dropLast = (toString n).toList :=
    ⟨List.getLast?_concat, List.dropLast_concat⟩
  cases role with
  | text =>
    rw [Role.item, Role.letter, List.append_nil, addItem_number k seenText hlength, htext rfl]
    rfl
  | plural =>
    rw [Role.item, Role.letter, List.append_nil, addItem_number k seenText hlength, hplural rfl]
    rfl
  | context | domain | required =>
    simp only [Role.item, Role.letter, addItem, hlettered, integer?_ofList_toString hlength]
    simp [Except.map, set]

/-! ## Items in turn -/

theorem quotedComment?_of_ne {c : Char} (hc : c ≠ '"') (s : List Char) :
    quotedComment? (c :: s) = none := by
  rw [quotedComment?]
  rintro rest ⟨⟩
  exact hc rfl

theorem addItems_join_cons {k k' : Keyword} {seenText seen' : Bool} {role : Role} {n : Int}
    (h : addItem k seenText (role.item n) = .ok (k', seen')) (parts : List (List Char)) :
    addItems k seenText (Text.join [','] (role.item n :: parts)) =
      addItems k' seen' (Text.join [','] parts) := by
  have hitem : (Text.join [','] (role.item n :: parts)).takeWhile (· != ',') = role.item n := by
    rw [Text.join_cons, List.takeWhile_append_of_pos]
    · cases parts <;> simp
    · intro c hc
      rw [bne_iff_ne]
      rintro rfl
      exact notMem_item role n (.inl rfl) hc
  have hrest : (Text.join [','] (role.item n :: parts)).drop ((role.item n).length + 1) =
      Text.join [','] parts := by
    rw [Text.join_cons, List.drop_length_add_append]
    cases parts with
    | nil => rfl
    | cons part parts => rw [Text.join_cons, List.flatMap_cons]; rfl
  obtain ⟨c, item, hfirst⟩ := List.exists_cons_of_ne_nil (item_ne_nil role n)
  have hquote : c ≠ '"' := by
    rintro rfl
    exact notMem_item role n (.inr rfl) (hfirst ▸ List.mem_cons_self)
  have hjoin : Text.join [','] (role.item n :: parts) =
      c :: (item ++ parts.flatMap ([','] ++ ·)) := by
    rw [Text.join_cons, hfirst, List.cons_append]
  rw [hjoin] at hitem hrest
  rw [hjoin, addItems, quotedComment?_of_ne hquote]
  simp only [hitem, h, hrest]

def quotedText (comment : String) : List Char := '"' :: comment.toList ++ ['"']

theorem addItems_quotedText (k : Keyword) (seenText : Bool) {comment : String}
    (h : '\n' ∉ comment.toList) :
    addItems k seenText (quotedText comment) = .ok { k with comment } := by
  have hread : quotedComment? (quotedText comment) = some comment.toList := by
    simp [quotedText, quotedComment?, h]
  rw [quotedText, List.cons_append] at hread ⊢
  rw [addItems, hread]
  simp only [String.ofList_toList]

/-! ## Specifications -/

/-- What a specification says: the numbers that are given, and a comment. -/
structure Spec where
  function : String
  number : Role → Option Int
  comment : Option String
  no_colon : ':' ∉ function.toList
  text_of_plural : (number .plural).isSome → (number .text).isSome
  short : ∀ role, ∀ n ∈ number role, (Nat.toDigits 10 n.natAbs).length ≤ Text.maxDigits
  one_line : ∀ text ∈ comment, '\n' ∉ text.toList

namespace Spec

def keyword (s : Spec) : Keyword where
  function := s.function
  text := (s.number .text).getD 1
  plural := s.number .plural
  domain := s.number .domain
  context := s.number .context
  comment := s.comment.getD ""
  required := s.number .required

/-- The items in this order, without those for which no number is given. -/
def items (s : Spec) (order : List Role) : List (List Char) :=
  order.filterMap (fun role => (s.number role).map role.item) ++ s.comment.toList.map quotedText

def written (s : Spec) (order : List Role) : String :=
  s.function ++ ":" ++ String.ofList (Text.join [','] (s.items order))

def assign (s : Spec) (k : Keyword) : Role → Keyword
  | .text => { k with text := (s.number .text).getD k.text }
  | .plural => { k with plural := (s.number .plural).or k.plural }
  | .context => { k with context := (s.number .context).or k.context }
  | .domain => { k with domain := (s.number .domain).or k.domain }
  | .required => { k with required := (s.number .required).or k.required }

theorem assign_eq (s : Spec) (k : Keyword) (role : Role) :
    s.assign k role = ((s.number role).map (k.set · role)).getD k := by
  cases role <;> rw [assign] <;> cases s.number _ <;> rfl

/-- The items of a specification set different parts of a keyword, so their order does not matter.
-/
theorem assign_comm (s : Spec) (k : Keyword) (a b : Role) :
    s.assign (s.assign k a) b = s.assign (s.assign k b) a := by
  cases a <;> cases b <;> rfl

theorem foldl_assign (s : Spec) :
    ({ [Role.text, .plural, .context, .domain, .required].foldl s.assign
    { function := s.function } with
        comment := s.comment.getD "" } : Keyword) = s.keyword := by
  simp only [List.foldl_cons, List.foldl_nil, assign, keyword, Option.or_none]

/-- The items are read back in any order in which the message comes before its plural. -/
theorem addItems_items (s : Spec) {order : List Role} (hnodup : order.Nodup)
    (horder : order.Pairwise fun first later => first = .plural → later ≠ .text) (seenText : Bool)
    (hseen : seenText = true ↔ (s.number .text).isSome = true ∧ .text ∉ order) (k : Keyword) :
    addItems k seenText (Text.join [','] (s.items order)) =
      .ok { order.foldl s.assign k with comment := s.comment.getD k.comment } := by
  induction order generalizing k seenText with
  | nil =>
    cases hcomment : s.comment with
    | none =>
      have hitems : s.items [] = [] := by simp [items, hcomment]
      rw [hitems, Text.join, List.intercalate_nil, addItems]
      rfl
    | some comment =>
      have hitems : s.items [] = [quotedText comment] := by simp [items, hcomment]
      rw [hitems, Text.join, List.intercalate_singleton,
        addItems_quotedText k seenText (s.one_line comment hcomment)]
      rfl
  | cons role order ih =>
    obtain ⟨hrole, hnodup⟩ := List.nodup_cons.mp hnodup
    obtain ⟨hlater, horder⟩ := List.pairwise_cons.mp horder
    rw [List.mem_cons, not_or] at hseen
    cases hn : s.number role with
    | none =>
      have hitems : s.items (role :: order) = s.items order := by
        simp [items, hn]
      have hassign : s.assign k role = k := by
        rw [assign_eq, hn]
        rfl
      have hseen : seenText = true ↔ (s.number .text).isSome = true ∧ .text ∉ order := by
        rw [hseen]
        grind
      rw [hitems, List.foldl_cons, hassign]
      exact ih hnodup horder seenText hseen k
    | some n =>
      have hitems : s.items (role :: order) = role.item n :: s.items order := by
        simp [items, hn]
      have hassign : s.assign k role = k.set n role := by
        rw [assign_eq, hn]
        rfl
      have htext : role = .text → seenText = false := by
        grind
      -- A number without a letter is the plural only behind the one of the text.
      have hplural : role = .plural → seenText = true := by
        rintro rfl
        have hgiven : (s.number .text).isSome = true := s.text_of_plural (by rw [hn]; rfl)
        exact hseen.mpr ⟨hgiven, by decide, fun h => hlater .text h rfl rfl⟩
      have hseen : (seenText || role = .text) = true ↔ (s.number .text).isSome = true ∧
          .text ∉ order := by
        grind
      rw [hitems, List.foldl_cons, hassign,
        addItems_join_cons (addItem_item (s.short role n hn) htext hplural),
        ih hnodup horder _ hseen, set_comment]

/-- What is written in any order in which the message comes before its plural is read as it was
meant. -/
theorem ofSpec_written (s : Spec) {order : List Role}
    (hall : order.Perm [.text, .plural, .context, .domain, .required])
    (horder : order.Pairwise fun first later => first = .plural → later ≠ .text) :
    Keyword.ofSpec (s.written order) = .ok s.keyword := by
  have hcut : Text.cut? ':' (s.written order).toList =
      some (s.function.toList, Text.join [','] (s.items order)) := by
    rw [written, String.append_assoc, String.toList_append, String.toList_append]
    show Text.cut? ':' (s.function.toList ++ ':' :: (String.ofList _).toList) = _
    rw [String.toList_ofList, Text.cut?_append s.no_colon]
  have hnodup : order.Nodup := hall.nodup_iff.mpr (by decide)
  have hread := addItems_items s hnodup horder false (by simp [hall.mem_iff])
    { function := s.function }
  rw [Keyword.ofSpec, hcut]
  simp only [String.ofList_toList]
  rw [hread, hall.foldl_eq' (fun a _ b _ k => assign_comm s k a b), foldl_assign]

/-- All five numbers, one of them negative, and a comment that looks like items. -/
def shout : Spec where
  function := "shout"
  number
    | .text => some (-7)
    | .plural => some 12
    | .context => some 2
    | .domain => some 1
    | .required => some 5
  comment := some "up, \"up\",3c"
  no_colon := by decide
  text_of_plural := fun _ => rfl
  short := by
    intro role n hn
    cases role <;> cases hn <;> decide
  one_line := by
    intro text htext
    cases htext
    decide

theorem ofSpec_written_shout :
    shout.written [.required, .text, .context, .plural, .domain] =
      "shout:5t,-7,2c,12,1d,\"up, \"up\",3c\"" ∧
      Keyword.ofSpec (shout.written [.required, .text, .context, .plural, .domain]) =
        .ok { function := "shout", text := -7, plural := some 12, domain := some 1
              context := some 2, comment := "up, \"up\",3c", required := some 5 } :=
  ⟨by decide +kernel, ofSpec_written shout (by decide) (by decide)⟩

end Spec

end Keyword

end Harvest
