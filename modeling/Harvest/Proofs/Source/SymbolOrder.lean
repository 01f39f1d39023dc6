import Harvest.Source.Literal

/-!
# The order of symbols in expressions

What the grammar accepts keeps two rules that do not look further than the symbol before: a comma
comes after an item, never after a comma or an opening bracket, and strings that follow one another
can be joined. The rules of the grammar refer to one another in a circle, so this is said for each
of them, by induction on the fuel.
-/

namespace Harvest.Source

def Symbol.endsItem : Symbol → Bool
  | .operator op => !(["(", "[", "\x7b", ",", "."].contains op)
  | _ => true

namespace Grammar

/-- The symbols from the first list up to the second are in order. The first flag tells whether a
comma may come before them, the second whether one may come after them. A run of strings is not
followed by a string. -/
inductive Passes (strings : Strings) : Bool → List Symbol → Bool → List Symbol → Prop
  | done (b : Bool) (s : List Symbol) : Passes strings b s b s
  | symbol {b b' : Bool} {x : Symbol} {s rest : List Symbol} (hstring : ∀ l, x ≠ .string l)
      (hcomma : x ≠ .operator ",") (h : Passes strings x.endsItem s b' rest) :
      Passes strings b (x :: s) b' rest
  | comma {b' : Bool} {s rest : List Symbol} (h : Passes strings false s b' rest) :
      Passes strings true (.operator "," :: s) b' rest
  | run {b b' : Bool} {literals : List (List Char)} {e : Expr} {s rest : List Symbol}
      (hne : literals ≠ [])
      (hjoined : strings literals = some e) (hs : ∀ l more, s ≠ .string l :: more)
      (h : Passes strings true s b' rest) : Passes strings b (literals.map .string ++ s) b' rest

variable {strings : Strings} {b b' b'' : Bool} {s rest rest' : List Symbol}
    {e : Expr} {rules : Rules}

theorem Passes.trans (h : Passes strings b s b' rest) (h' : Passes strings b' rest b'' rest') :
    Passes strings b s b'' rest' := by
  induction h with
  | done b s => exact h'
  | symbol hstring hcomma _ ih => exact .symbol hstring hcomma (ih h')
  | comma _ ih => exact .comma (ih h')
  | run hne hjoined hs _ ih => exact .run hne hjoined hs (ih h')

theorem Passes.operator {text : String} (hcomma : text ≠ ",")
    (h : Passes strings (Symbol.operator text).endsItem s b' rest) :
    Passes strings b (.operator text :: s) b' rest :=
  .symbol nofun (fun heq => hcomma (by injection heq)) h

theorem Passes.keyword {text : String} (h : Passes strings true s b' rest) :
    Passes strings b (.keyword text :: s) b' rest :=
  .symbol nofun nofun h

theorem Passes.name {text : String} (h : Passes strings true s b' rest) :
    Passes strings b (.name text :: s) b' rest :=
  .symbol nofun nofun h

/-- How far the symbols that a rule reads are in order: a whole item may stand anywhere and a comma
may come after it, more of an item comes after the first part of it, and a list may end with a
comma. -/
inductive Extent where
  | whole
  | tail
  | items
deriving DecidableEq

def Rule.extent : Rule → Extent
  | .binaryTail .. | .trailers .. | .conditions => .tail
  | .expressions | .expressionItems | .starExpressions | .starNamedItems .. | .pairs | .targets |
    .arguments .. | .slices | .parameters .. => .items
  | _ => .whole

def Extent.Passes (strings : Strings) (s rest : List Symbol) : Extent → Prop
  | .whole => ∀ b, Grammar.Passes strings b s true rest
  | .tail => Grammar.Passes strings true s true rest
  | .items => ∀ b, ∃ b', Grammar.Passes strings b s b' rest

def Orderly (strings : Strings) (rules : Rules) : Prop :=
  ∀ rule s e rest, rules rule s = some (e, rest) → rule.extent.Passes strings s rest

theorem operator?_eq_some {text : String} :
    operator? text s = some rest ↔ s = .operator text :: rest := by
  unfold operator?
  split
  · rename_i op more
    by_cases hop : op = text
    · simp [hop]
    · simp [hop]
  · rename_i hno
    simp only [reduceCtorEq, false_iff]
    exact fun heq => hno _ _ heq

theorem keyword?_eq_some {text : String} :
    keyword? text s = some rest ↔ s = .keyword text :: rest := by
  unfold keyword?
  split
  · rename_i word more
    by_cases hword : word = text
    · simp [hword]
    · simp [hword]
  · rename_i hno
    simp only [reduceCtorEq, false_iff]
    exact fun heq => hno _ _ heq

theorem Passes.of_operator? {text : String} (hnext : operator? text s = some rest)
    (hcomma : text ≠ ",")
    (h : Passes strings (Symbol.operator text).endsItem rest b' rest') :
    Passes strings b s b' rest' := by
  rw [operator?_eq_some.mp hnext]
  exact .operator hcomma h

theorem Passes.of_comma? (hnext : operator? "," s = some rest)
    (h : Passes strings false rest b' rest') :
    Passes strings true s b' rest' := by
  rw [operator?_eq_some.mp hnext]
  exact .comma h

theorem Passes.of_keyword? {text : String} (hnext : keyword? text s = some rest)
    (h : Passes strings true rest b' rest') : Passes strings b s b' rest' := by
  rw [keyword?_eq_some.mp hnext]
  exact .keyword h

theorem Passes.getD {r : Option (List Symbol)}
    (h : ∀ rest, r = some rest → ∀ b, ∃ b', Passes strings b s b' rest)
    (b : Bool) : ∃ b', Passes strings b s b' (r.getD s) := by
  cases r with
  | none => exact ⟨b, .done b s⟩
  | some rest => exact h rest rfl b

theorem eq_some_or_of_getD {α : Type} {r : Option α} {d x : α} (h : r.getD d = x) :
    r = some x ∨ d = x := by
  cases r with
  | none => exact .inr h
  | some y => exact .inl (congrArg some h)

/-! ## The rules -/

variable (hr : Orderly strings rules)

include hr

theorem more_passes (rule : Rule) (hrule : rule.extent = .items) (s : List Symbol) :
    ∀ b, ∃ b', Passes strings b s b' (((rules rule s).map (·.2)).getD s) := by
  apply Passes.getD
  intro rest h
  obtain ⟨⟨e, rest'⟩, hread, heq⟩ := Option.map_eq_some_iff.mp h
  cases heq
  have hpassed := hr _ _ _ _ hread
  rw [hrule] at hpassed
  exact hpassed

theorem starred_passes {plain : Rule} (hplain : plain.extent = .whole)
    (h : starred rules plain s = some (e, rest)) : ∀ b, Passes strings b s true rest := by
  intro b
  unfold starred at h
  split at h
  · rename_i more hstar
    obtain ⟨⟨e', rest'⟩, hoperand, heq⟩ := Option.map_eq_some_iff.mp h
    cases heq
    exact .of_operator? hstar (by decide) (hr _ _ _ _ hoperand _)
  · have hwhole := hr _ _ _ _ h
    rw [hplain] at hwhole
    exact hwhole b

theorem expression_passes (h : expression rules s = some (e, rest)) :
    ∀ b, Passes strings b s true rest := by
  intro b
  unfold expression at h
  split at h
  · rename_i more hlambda
    simp only [Option.bind_eq_bind, Option.bind_eq_some_iff] at h
    obtain ⟨⟨_, rest₁⟩, hparameters, rest₂, hcolon, ⟨_, rest₃⟩, hbody, heq⟩ := h
    cases heq
    obtain ⟨b', hpassed⟩ := hr _ _ _ _ hparameters true
    exact .of_keyword? hlambda
      (hpassed.trans (.of_operator? hcolon (by decide) (hr _ _ _ _ hbody _)))
  · simp only [Option.bind_eq_bind, Option.bind_eq_some_iff] at h
    obtain ⟨⟨e', rest₁⟩, hfirst, heq⟩ := h
    have hpassed := hr _ _ _ _ hfirst b
    rcases eq_some_or_of_getD (Option.some.inj heq) with hconditional | hplain
    · simp only [Option.bind_eq_some_iff] at hconditional
      obtain ⟨rest₂, hif, ⟨_, rest₃⟩, hcondition, rest₄, helse, ⟨_, rest₅⟩, hother, hend⟩ :=
        hconditional
      cases hend
      refine hpassed.trans (.of_keyword? hif ?_)
      exact (hr _ _ _ _ hcondition true).trans (.of_keyword? helse (hr _ _ _ _ hother true))
    · cases hplain
      exact hpassed

theorem consItem_passes {rule : Rule} (hrule : rule.extent = .items) {item : Expr}
    (h : consItem item (rules rule s) = some (e, rest)) :
    ∀ b, ∃ b', Passes strings b s b' rest := by
  unfold consItem at h
  split at h
  · rename_i items rest' hitems
    cases h
    have hpassed := hr _ _ _ _ hitems
    rw [hrule] at hpassed
    exact hpassed
  · cases h

theorem expressions_passes (h : expressions rules s = some (e, rest)) :
    ∀ b, ∃ b', Passes strings b s b' rest := by
  intro b
  simp only [expressions, Option.bind_eq_bind, Option.bind_eq_some_iff] at h
  obtain ⟨⟨e', rest₁⟩, hfirst, h⟩ := h
  have hpassed := hr _ _ _ _ hfirst b
  dsimp only at h
  split at h
  · cases h
    exact ⟨true, hpassed⟩
  · rename_i rest₂ hcomma
    obtain ⟨b', hitems⟩ := consItem_passes hr rfl h false
    exact ⟨b', hpassed.trans (.of_comma? hcomma hitems)⟩

theorem expressionItems_passes (h : expressionItems rules s = some (e, rest)) :
    ∀ b, ∃ b', Passes strings b s b' rest := by
  intro b
  unfold expressionItems at h
  split at h
  · cases h
    exact ⟨b, .done b s⟩
  · rename_i e' rest₁ hfirst
    have hpassed := hr _ _ _ _ hfirst b
    split at h
    · cases h
      exact ⟨true, hpassed⟩
    · rename_i rest₂ hcomma
      obtain ⟨b', hitems⟩ := consItem_passes hr rfl h false
      exact ⟨b', hpassed.trans (.of_comma? hcomma hitems)⟩

theorem starExpressions_passes (h : starExpressions rules s = some (e, rest)) :
    ∀ b, ∃ b', Passes strings b s b' rest := by
  intro b
  simp only [starExpressions, Option.bind_eq_bind, Option.bind_eq_some_iff] at h
  obtain ⟨⟨e', rest₁⟩, hfirst, h⟩ := h
  have hpassed := starred_passes hr rfl hfirst b
  dsimp only at h
  split at h
  · cases h
    exact ⟨true, hpassed⟩
  · rename_i rest₂ hcomma
    obtain ⟨b', hmore⟩ := more_passes hr .starExpressions rfl rest₂ false
    cases h
    exact ⟨b', hpassed.trans (.of_comma? hcomma hmore)⟩

theorem named_passes (h : named rules s = some (e, rest)) : ∀ b, Passes strings b s true rest := by
  intro b
  unfold named at h
  split at h
  · simp only [Option.bind_eq_bind, Option.bind_eq_some_iff] at h
    obtain ⟨⟨_, rest₁⟩, hvalue, heq⟩ := h
    cases heq
    exact .name (.operator (by decide) (hr _ _ _ _ hvalue _))
  · simp only [Option.bind_eq_bind, Option.bind_eq_some_iff] at h
    obtain ⟨⟨e', rest₁⟩, hvalue, h⟩ := h
    dsimp only at h
    split at h
    · cases h
    · cases h
      exact hr _ _ _ _ hvalue b

theorem disjunction_passes (h : disjunction rules s = some (e, rest)) :
    ∀ b, Passes strings b s true rest := by
  intro b
  simp only [disjunction, Option.bind_eq_bind, Option.bind_eq_some_iff] at h
  obtain ⟨⟨e', rest₁⟩, hfirst, h⟩ := h
  have hpassed := hr _ _ _ _ hfirst b
  dsimp only at h
  split at h
  · rename_i rest₂ hor
    simp only [Option.bind_eq_some_iff] at h
    obtain ⟨⟨_, rest₃⟩, hmore, heq⟩ := h
    cases heq
    exact hpassed.trans (.of_keyword? hor (hr _ _ _ _ hmore true))
  · cases h
    exact hpassed

theorem conjunction_passes (h : conjunction rules s = some (e, rest)) :
    ∀ b, Passes strings b s true rest := by
  intro b
  simp only [conjunction, Option.bind_eq_bind, Option.bind_eq_some_iff] at h
  obtain ⟨⟨e', rest₁⟩, hfirst, h⟩ := h
  have hpassed := hr _ _ _ _ hfirst b
  dsimp only at h
  split at h
  · rename_i rest₂ hand
    simp only [Option.bind_eq_some_iff] at h
    obtain ⟨⟨_, rest₃⟩, hmore, heq⟩ := h
    cases heq
    exact hpassed.trans (.of_keyword? hand (hr _ _ _ _ hmore true))
  · cases h
    exact hpassed

theorem inversion_passes (h : inversion rules s = some (e, rest)) :
    ∀ b, Passes strings b s true rest := by
  intro b
  unfold inversion at h
  split at h
  · rename_i rest₁ hnot
    simp only [Option.bind_eq_bind, Option.bind_eq_some_iff] at h
    obtain ⟨⟨_, rest₂⟩, hmore, heq⟩ := h
    cases heq
    exact .of_keyword? hnot (hr _ _ _ _ hmore true)
  · exact hr _ _ _ _ h b

omit hr in
theorem comparisonOperator?_passes (h : comparisonOperator? s = some rest) :
    Passes strings true s true rest := by
  unfold comparisonOperator? at h
  split at h
  · rename_i op more
    split at h
    · rename_i hop
      cases h
      have hcomma : op ≠ "," := by
        rintro rfl
        exact absurd hop (by decide)
      have hends : (Symbol.operator op).endsItem = true := by
        simp only [List.contains_eq_mem, List.mem_cons, List.not_mem_nil, or_false,
          decide_eq_true_eq] at hop
        rcases hop with rfl | rfl | rfl | rfl | rfl | rfl <;> decide
      exact .operator hcomma (hends ▸ .done _ _)
    · cases h
  · cases h
    exact .keyword (.keyword (.done _ _))
  · cases h
    exact .keyword (.done _ _)
  · cases h
    exact .keyword (.keyword (.done _ _))
  · cases h
    exact .keyword (.done _ _)
  · cases h

theorem comparison_passes (h : comparison rules s = some (e, rest)) :
    ∀ b, Passes strings b s true rest := by
  intro b
  simp only [comparison, Option.bind_eq_bind, Option.bind_eq_some_iff] at h
  obtain ⟨⟨e', rest₁⟩, hfirst, h⟩ := h
  have hpassed := hr _ _ _ _ hfirst b
  dsimp only at h
  split at h
  · rename_i rest₂ hcompared
    simp only [Option.bind_eq_some_iff] at h
    obtain ⟨⟨_, rest₃⟩, hmore, heq⟩ := h
    cases heq
    exact hpassed.trans ((comparisonOperator?_passes hcompared).trans (hr _ _ _ _ hmore true))
  · cases h
    exact hpassed

theorem binary_passes {level : Nat} (h : binary rules level s = some (e, rest)) :
    ∀ b, Passes strings b s true rest := by
  intro b
  unfold binary at h
  split at h
  · simp only [Option.bind_eq_bind, Option.bind_eq_some_iff] at h
    obtain ⟨⟨e', rest₁⟩, hfirst, h⟩ := h
    exact (hr _ _ _ _ hfirst b).trans (hr _ _ _ _ h)
  · exact hr _ _ _ _ h b

omit hr in
theorem endsItem_of_mem_binaryLevels {op : String} {level : Nat}
    (h : (binaryLevels.getD level []).contains op = true) :
    (Symbol.operator op).endsItem = true ∧ op ≠ "," := by
  have hall : ∀ ops ∈ binaryLevels, ∀ op ∈ ops, (Symbol.operator op).endsItem = true ∧
    op ≠ "," := by decide
  rw [List.contains_eq_mem, decide_eq_true_eq, List.getD_eq_getElem?_getD] at h
  cases hlevel : binaryLevels[level]? with
  | none =>
    rw [hlevel] at h
    cases h
  | some ops =>
    rw [hlevel] at h
    exact hall ops (List.mem_of_getElem? hlevel) op h

theorem binaryTail_passes {level : Nat} {left : Expr}
    (h : binaryTail rules level left s = some (e, rest)) :
    Passes strings true s true rest := by
  unfold binaryTail at h
  split at h
  · rename_i op more
    split at h
    · rename_i hop
      obtain ⟨hends, hcomma⟩ := endsItem_of_mem_binaryLevels hop
      simp only [Option.bind_eq_bind, Option.bind_eq_some_iff] at h
      obtain ⟨⟨right, rest₁⟩, hright, h⟩ := h
      refine .operator hcomma ?_
      rw [hends]
      exact (hr _ _ _ _ hright true).trans (hr _ _ _ _ h)
    · cases h
      exact .done _ _
  · cases h
    exact .done _ _

theorem factor_passes (h : factor rules s = some (e, rest)) :
    ∀ b, Passes strings b s true rest := by
  intro b
  unfold factor at h
  split at h
  · simp only [Option.bind_eq_bind, Option.bind_eq_some_iff] at h
    obtain ⟨⟨_, rest₁⟩, hmore, heq⟩ := h
    cases heq
    exact .operator (by decide) (hr _ _ _ _ hmore _)
  · simp only [Option.bind_eq_bind, Option.bind_eq_some_iff] at h
    obtain ⟨⟨_, rest₁⟩, hmore, heq⟩ := h
    cases heq
    exact .operator (by decide) (hr _ _ _ _ hmore _)
  · simp only [Option.bind_eq_bind, Option.bind_eq_some_iff] at h
    obtain ⟨⟨_, rest₁⟩, hmore, heq⟩ := h
    cases heq
    exact .operator (by decide) (hr _ _ _ _ hmore _)
  · exact hr _ _ _ _ h b

theorem awaited_passes (h : awaited rules s = some (e, rest)) :
    ∀ b, Passes strings b s true rest := by
  intro b
  unfold awaited at h
  split at h
  · rename_i rest₁ hawait
    obtain ⟨⟨_, rest₂⟩, hprimary, heq⟩ := Option.map_eq_some_iff.mp h
    cases heq
    exact .of_keyword? hawait (hr _ _ _ _ hprimary true)
  · exact hr _ _ _ _ h b

theorem power_passes (h : power rules s = some (e, rest)) : ∀ b, Passes strings b s true rest := by
  intro b
  simp only [power, Option.bind_eq_bind, Option.bind_eq_some_iff] at h
  obtain ⟨⟨e', rest₁⟩, hfirst, h⟩ := h
  have hpassed := awaited_passes hr hfirst b
  dsimp only at h
  split at h
  · rename_i rest₂ hpower
    simp only [Option.bind_eq_some_iff] at h
    obtain ⟨⟨_, rest₃⟩, hmore, heq⟩ := h
    cases heq
    exact hpassed.trans (.of_operator? hpower (by decide) (hr _ _ _ _ hmore _))
  · cases h
    exact hpassed

theorem primary_passes (h : primary rules s = some (e, rest)) :
    ∀ b, Passes strings b s true rest := by
  intro b
  simp only [primary, Option.bind_eq_bind, Option.bind_eq_some_iff] at h
  obtain ⟨⟨e', rest₁⟩, hatom, h⟩ := h
  exact (hr _ _ _ _ hatom b).trans (hr _ _ _ _ h)

theorem trailers_passes {base : Expr} (h : trailers rules base s = some (e, rest)) :
    Passes strings true s true rest := by
  unfold trailers at h
  split at h
  · exact .operator (by decide) (.name (hr _ _ _ _ h))
  · exact .operator (by decide) (.operator (by decide) (hr _ _ _ _ h))
  · simp only [Option.bind_eq_bind, Option.bind_eq_some_iff] at h
    obtain ⟨⟨_, rest₁⟩, harguments, rest₂, hclose, h⟩ := h
    obtain ⟨b', hpassed⟩ := hr _ _ _ _ harguments false
    exact .operator (by decide) (hpassed.trans (.of_operator? hclose (by decide) (hr _ _ _ _ h)))
  · simp only [Option.bind_eq_bind, Option.bind_eq_some_iff] at h
    obtain ⟨⟨_, rest₁⟩, hslices, rest₂, hclose, h⟩ := h
    obtain ⟨b', hpassed⟩ := hr _ _ _ _ hslices false
    exact .operator (by decide) (hpassed.trans (.of_operator? hclose (by decide) (hr _ _ _ _ h)))
  · cases h
    exact .done _ _

omit hr in
theorem close_passes {close : String} (hclose : close ∈ [")", "]", "\x7d"]) {f : List Symbol → Expr}
    (h : (operator? close s).bind (fun rest => some (f rest, rest)) = some (e, rest)) :
    Passes strings b s true rest := by
  obtain ⟨rest', hnext, heq⟩ := Option.bind_eq_some_iff.mp h
  cases heq
  have hends : (Symbol.operator close).endsItem = true ∧ close ≠ "," := by
    simp only [List.mem_cons, List.not_mem_nil, or_false] at hclose
    rcases hclose with rfl | rfl | rfl <;> decide
  apply Passes.of_operator? hnext hends.2
  rw [hends.1]
  exact .done _ _

theorem enclosed_passes {rule : Rule} {close : String} {f : Expr × List Symbol → Expr}
    (h : ((rules rule s).bind fun x => (operator? close x.2).bind fun rest => some (f x, rest)) =
      some (e, rest))
    (hrule : rule.extent ≠ .tail) (hclose : close ∈ [")", "]", "\x7d"]) :
    Passes strings b s true rest := by
  obtain ⟨⟨e', rest'⟩, hread, h⟩ := Option.bind_eq_some_iff.mp h
  have hpassed := hr _ _ _ _ hread
  cases hextent : rule.extent with
  | whole =>
    rw [hextent] at hpassed
    exact (hpassed b).trans (close_passes hclose h)
  | tail => exact absurd hextent hrule
  | items =>
    rw [hextent] at hpassed
    obtain ⟨b', hitems⟩ := hpassed b
    exact hitems.trans (close_passes hclose h)

theorem parenthesized_passes (h : parenthesized rules s = some (e, rest)) :
    ∀ b, Passes strings b s true rest := by
  intro b
  unfold parenthesized at h
  split at h
  · cases h
    exact .operator (by decide) (.done _ _)
  · rename_i rest₁
    split at h
    · rename_i rest₂ hfrom
      exact .keyword (.of_keyword? hfrom (enclosed_passes hr h (by decide) (by decide)))
    · obtain ⟨b', hpassed⟩ := more_passes hr .starExpressions rfl rest₁ true
      exact .keyword (hpassed.trans (close_passes (by decide) h))
  · obtain ⟨⟨e', rest₁⟩, hfirst, h⟩ := Option.bind_eq_some_iff.mp h
    have hpassed := hr _ _ _ _ hfirst b
    dsimp only at h
    -- Whether the first item is starred makes a difference only for what is refused.
    split at h
    all_goals
      split at h
      · exact hpassed.trans (enclosed_passes hr h (by decide) (by decide))
      · split at h
        · rename_i rest₂ hcomma
          exact hpassed.trans (.of_comma? hcomma (enclosed_passes hr h (by decide) (by decide)))
        · exact hpassed.trans (close_passes (by decide) (Option.ite_none_left_eq_some.mp h).2)

theorem bracketed_passes (h : bracketed rules s = some (e, rest)) :
    ∀ b, Passes strings b s true rest := by
  intro b
  unfold bracketed at h
  split at h
  · cases h
    exact .operator (by decide) (.done _ _)
  · obtain ⟨⟨e', rest₁⟩, hfirst, h⟩ := Option.bind_eq_some_iff.mp h
    have hpassed := hr _ _ _ _ hfirst b
    dsimp only at h
    split at h
    all_goals
      split at h
      · exact hpassed.trans (enclosed_passes hr h (by decide) (by decide))
      · split at h
        · rename_i rest₂ hcomma
          exact hpassed.trans (.of_comma? hcomma (enclosed_passes hr h (by decide) (by decide)))
        · exact hpassed.trans (close_passes (by decide) h)

theorem braced_passes (h : braced rules s = some (e, rest)) :
    ∀ b, Passes strings b s true rest := by
  intro b
  unfold braced at h
  split at h
  · cases h
    exact .operator (by decide) (.done _ _)
  · exact enclosed_passes hr h (by decide) (by decide)
  · obtain ⟨⟨e', rest₁⟩, hfirst, h⟩ := Option.bind_eq_some_iff.mp h
    have hpassed := hr _ _ _ _ hfirst b
    dsimp only at h
    split at h
    · rename_i rest₂ hcolon
      obtain ⟨⟨_, rest₃⟩, hvalue, h⟩ :=
        Option.bind_eq_some_iff.mp (Option.ite_none_left_eq_some.mp h).2
      have hpassed : Passes strings b s true rest₃ :=
        hpassed.trans (.of_operator? hcolon (by decide) (hr _ _ _ _ hvalue _))
      dsimp only at h
      split at h
      · exact hpassed.trans (enclosed_passes hr h (by decide) (by decide))
      · split at h
        · rename_i rest₄ hcomma
          exact hpassed.trans (.of_comma? hcomma (enclosed_passes hr h (by decide) (by decide)))
        · exact hpassed.trans (close_passes (by decide) h)
    · split at h
      all_goals
        split at h
        · exact hpassed.trans (enclosed_passes hr h (by decide) (by decide))
        · split at h
          · rename_i rest₂ hcomma
            exact hpassed.trans (.of_comma? hcomma (enclosed_passes hr h (by decide) (by decide)))
          · exact hpassed.trans (close_passes (by decide) h)

omit hr in
theorem stringRun_spec (s : List Symbol) :
    s = (stringRun s).1.map .string ++ (stringRun s).2 ∧ ∀ l more,
      (stringRun s).2 ≠ .string l :: more := by
  fun_induction stringRun s with
  | case1 literal rest literals rest' hrest ih =>
    rw [hrest] at ih
    exact ⟨congrArg (Symbol.string literal :: ·) ih.1, ih.2⟩
  | case2 s hno => exact ⟨rfl, fun l more heq => hno l more heq⟩

theorem atom_passes (h : atom strings rules s = some (e, rest)) :
    ∀ b, Passes strings b s true rest := by
  intro b
  unfold atom at h
  split at h
  · cases h
    exact .name (.done _ _)
  · cases h
    exact .symbol nofun nofun (.done _ _)
  · rename_i literal more
    obtain ⟨hall, hend⟩ := stringRun_spec (.string literal :: more)
    obtain ⟨e', hjoined, heq⟩ := Option.bind_eq_some_iff.mp h
    cases heq
    have hne : (stringRun (.string literal :: more)).1 ≠ [] := by
      rw [stringRun]
      exact List.cons_ne_nil _ _
    have hrun := Passes.run (b := b) hne hjoined hend (.done true _)
    rwa [← hall] at hrun
  · cases h
    exact .keyword (.done _ _)
  · cases h
    exact .keyword (.done _ _)
  · cases h
    exact .keyword (.done _ _)
  · cases h
    exact .operator (by decide) (.done _ _)
  · exact .operator (by decide) (parenthesized_passes hr h _)
  · exact .operator (by decide) (bracketed_passes hr h _)
  · exact .operator (by decide) (braced_passes hr h _)
  · cases h

theorem starNamedItems_passes {close : String} (h : starNamedItems rules close s = some (e, rest)) :
    ∀ b, ∃ b', Passes strings b s b' rest := by
  intro b
  unfold starNamedItems at h
  split at h
  · cases h
    exact ⟨b, .done b s⟩
  · obtain ⟨⟨e', rest₁⟩, hfirst, h⟩ := Option.bind_eq_some_iff.mp h
    have hpassed := hr _ _ _ _ hfirst b
    dsimp only at h
    split at h
    · rename_i rest₂ hcomma
      obtain ⟨b', hitems⟩ := consItem_passes hr rfl h false
      exact ⟨b', hpassed.trans (.of_comma? hcomma hitems)⟩
    · cases h
      exact ⟨true, hpassed⟩

theorem pair_passes {items : List Expr} (h : pair rules s = some (items, rest)) :
    ∀ b, Passes strings b s true rest := by
  intro b
  unfold pair at h
  split at h
  · rename_i rest₁ hstars
    obtain ⟨⟨_, rest₂⟩, hoperand, heq⟩ := Option.map_eq_some_iff.mp h
    cases heq
    exact .of_operator? hstars (by decide) (hr _ _ _ _ hoperand _)
  · simp only [Option.bind_eq_bind, Option.bind_eq_some_iff] at h
    obtain ⟨⟨key, rest₁⟩, hkey, rest₂, hcolon, ⟨value, rest₃⟩, hvalue, heq⟩ := h
    cases heq
    exact (hr _ _ _ _ hkey b).trans (.of_operator? hcolon (by decide) (hr _ _ _ _ hvalue _))

theorem pairs_passes (h : pairs rules s = some (e, rest)) :
    ∀ b, ∃ b', Passes strings b s b' rest := by
  intro b
  unfold pairs at h
  split at h
  · cases h
    exact ⟨b, .done b s⟩
  · obtain ⟨⟨items, rest₁⟩, hfirst, h⟩ := Option.bind_eq_some_iff.mp h
    have hpassed := pair_passes hr hfirst b
    dsimp only at h
    split at h
    · rename_i rest₂ hcomma
      obtain ⟨⟨_, rest₃⟩, hmore, heq⟩ := Option.bind_eq_some_iff.mp h
      cases heq
      obtain ⟨b', hitems⟩ := hr _ _ _ _ hmore false
      exact ⟨b', hpassed.trans (.of_comma? hcomma hitems)⟩
    · cases h
      exact ⟨true, hpassed⟩

theorem clauses_passes (h : clauses rules s = some (e, rest)) :
    ∀ b, Passes strings b s true rest := by
  intro b
  simp only [clauses, Option.bind_eq_bind, Option.bind_eq_some_iff] at h
  obtain ⟨rest₁, hfor, ⟨_, rest₂⟩, htargets, rest₃, hin, ⟨_, rest₄⟩, hvalue, ⟨_, rest₅⟩,
    hconditions, h⟩ := h
  have hasync : ∀ rest, keyword? "for" ((keyword? "async" s).getD s) = some rest →
      ∀ rest', Passes strings true rest true rest' → Passes strings b s true rest' := by
    intro rest hfor rest' hpassed
    cases hnext : keyword? "async" s with
    | none =>
      rw [hnext] at hfor
      exact .of_keyword? hfor hpassed
    | some more =>
      rw [hnext] at hfor
      exact .of_keyword? hnext (.of_keyword? hfor hpassed)
  apply hasync _ hfor
  obtain ⟨b', hpassed⟩ := hr _ _ _ _ htargets true
  have hclause : Passes strings true rest₁ true rest₅ :=
    hpassed.trans (.of_keyword? hin ((hr _ _ _ _ hvalue true).trans (hr _ _ _ _ hconditions)))
  dsimp only at h
  split at h
  · exact hclause.trans (hr _ _ _ _ h true)
  · cases h
    exact hclause

theorem conditions_passes (h : conditions rules s = some (e, rest)) :
    Passes strings true s true rest := by
  unfold conditions at h
  split at h
  · rename_i rest₁ hif
    obtain ⟨⟨_, rest₂⟩, hvalue, h⟩ := Option.bind_eq_some_iff.mp h
    exact .of_keyword? hif ((hr _ _ _ _ hvalue true).trans (hr _ _ _ _ h))
  · cases h
    exact .done _ _

theorem targets_passes (h : targets rules s = some (e, rest)) :
    ∀ b, ∃ b', Passes strings b s b' rest := by
  intro b
  obtain ⟨⟨e', rest₁⟩, hfirst, h⟩ := Option.bind_eq_some_iff.mp h
  have hpassed : Passes strings b s true rest₁ := by
    cases hstar : operator? "*" s with
    | none =>
      rw [hstar] at hfirst
      exact hr _ _ _ _ hfirst b
    | some more =>
      rw [hstar] at hfirst
      exact .of_operator? hstar (by decide) (hr _ _ _ _ hfirst _)
  replace h := (Option.ite_none_left_eq_some.mp h).2
  split at h
  · rename_i rest₂ hcomma
    split at h
    · cases h
      exact ⟨false, hpassed.trans (.of_comma? hcomma (.done _ _))⟩
    · obtain ⟨b', hmore⟩ := hr _ _ _ _ h false
      exact ⟨b', hpassed.trans (.of_comma? hcomma hmore)⟩
  · cases h
    exact ⟨true, hpassed⟩

theorem arguments_passes {stage : Nat} (h : arguments rules stage s = some (e, rest)) :
    ∀ b, ∃ b', Passes strings b s b' rest := by
  intro b
  unfold arguments at h
  extract_lets more first stage' at h
  have hmore (stage : Nat) (rest₁ : List Symbol) (h : more stage rest₁ = some (e, rest)) :
      ∃ b', Passes strings true rest₁ b' rest := by
    dsimp only [more] at h
    split at h
    · rename_i rest₂ hcomma
      split at h
      · cases h
        exact ⟨false, .of_comma? hcomma (.done _ _)⟩
      · obtain ⟨b', hnext⟩ := hr _ _ _ _ h false
        exact ⟨b', .of_comma? hcomma hnext⟩
    · cases h
      exact ⟨true, .done _ _⟩
  split at h
  · obtain ⟨⟨_, rest₁⟩, hvalue, h⟩ := Option.bind_eq_some_iff.mp h
    obtain ⟨b', hend⟩ := hmore _ _ h
    exact ⟨b', .operator (by decide) ((hr _ _ _ _ hvalue _).trans hend)⟩
  · obtain ⟨⟨_, rest₁⟩, hvalue, h⟩ :=
      Option.bind_eq_some_iff.mp (Option.ite_none_left_eq_some.mp h).2
    obtain ⟨b', hend⟩ := hmore _ _ h
    exact ⟨b', .operator (by decide) ((hr _ _ _ _ hvalue _).trans hend)⟩
  · obtain ⟨⟨_, rest₁⟩, hvalue, h⟩ := Option.bind_eq_some_iff.mp h
    obtain ⟨b', hend⟩ := hmore _ _ h
    exact ⟨b', .name (.operator (by decide) ((hr _ _ _ _ hvalue _).trans hend))⟩
  · obtain ⟨⟨_, rest₁⟩, hvalue, h⟩ :=
      Option.bind_eq_some_iff.mp (Option.ite_none_left_eq_some.mp h).2
    have hpassed := hr _ _ _ _ hvalue b
    replace h := (Option.ite_none_left_eq_some.mp h).2
    split at h
    · exact ⟨true, hpassed.trans (hr _ _ _ _ h true)⟩
    · obtain ⟨b', hend⟩ := hmore _ _ h
      exact ⟨b', hpassed.trans hend⟩

theorem slice_passes (h : slice rules s = some (e, rest)) : ∀ b, Passes strings b s true rest := by
  intro b
  unfold slice at h
  extract_lets bound range at h
  have hbound {s rest : List Symbol} (h : bound s = some rest) :
      Passes strings true s true rest := by
    dsimp only [bound] at h
    split at h
    · cases h
      exact .done _ _
    · obtain ⟨⟨_, rest₁⟩, hvalue, heq⟩ := Option.map_eq_some_iff.mp h
      cases heq
      exact hr _ _ _ _ hvalue true
  have hrange {s : List Symbol} (h : range s = some (e, rest)) : ∀ b,
      Passes strings b s true rest := by
    intro b
    dsimp only [range] at h
    simp only [Option.bind_eq_bind, Option.bind_eq_some_iff] at h
    obtain ⟨rest₁, hcolon, rest₂, hfirst, h⟩ := h
    refine .of_operator? hcolon (by decide) ((hbound hfirst).trans ?_)
    split at h
    · rename_i rest₃ hcolon
      obtain ⟨rest₄, hsecond, heq⟩ := Option.bind_eq_some_iff.mp h
      cases heq
      exact .of_operator? hcolon (by decide) (hbound hsecond)
    · cases h
      exact .done _ _
  split at h
  · exact hrange h b
  · split at h
    · exact hr _ _ _ _ h b
    · obtain ⟨⟨_, rest₁⟩, hvalue, h⟩ := Option.bind_eq_some_iff.mp h
      have hpassed := hr _ _ _ _ hvalue b
      dsimp only at h
      split at h
      · exact hpassed.trans (hrange h true)
      · cases (Option.ite_none_left_eq_some.mp h).2
        exact hpassed

theorem slices_passes (h : slices rules s = some (e, rest)) :
    ∀ b, ∃ b', Passes strings b s b' rest := by
  intro b
  obtain ⟨⟨e', rest₁⟩, hfirst, h⟩ := Option.bind_eq_some_iff.mp h
  have hpassed : Passes strings b s true rest₁ := by
    cases hstar : operator? "*" s with
    | none =>
      rw [hstar] at hfirst
      exact slice_passes hr hfirst b
    | some more =>
      rw [hstar] at hfirst
      exact .of_operator? hstar (by decide) (hr _ _ _ _ hfirst _)
  dsimp only at h
  split at h
  · rename_i rest₂ hcomma
    split at h
    · cases h
      exact ⟨false, hpassed.trans (.of_comma? hcomma (.done _ _))⟩
    · obtain ⟨b', hmore⟩ := hr _ _ _ _ h false
      exact ⟨b', hpassed.trans (.of_comma? hcomma hmore)⟩
  · cases h
    exact ⟨true, hpassed⟩

omit hr in
theorem parameterEnd?_passes (strings : Strings) (h : parameterEnd? s = some rest) :
    ∃ b', Passes strings true s b' rest := by
  unfold parameterEnd? at h
  split at h
  · rename_i rest₁ hcomma
    cases h
    exact ⟨false, .of_comma? hcomma (.done _ _)⟩
  · split at h <;> cases h
    exact ⟨true, .done _ _⟩

theorem parameterEnd_passes {stage : Nat}
    (h : ((parameterEnd? s).bind fun rest => rules (.parameters stage) rest) = some (e, rest)) :
    ∃ b', Passes strings true s b' rest := by
  obtain ⟨rest₁, hend, h⟩ := Option.bind_eq_some_iff.mp h
  obtain ⟨b₁, hpassed⟩ := parameterEnd?_passes strings hend
  obtain ⟨b₂, hmore⟩ := hr _ _ _ _ h b₁
  exact ⟨b₂, hpassed.trans hmore⟩

theorem parameters_passes {stage : Nat} (h : parameters rules stage s = some (e, rest)) :
    ∀ b, ∃ b', Passes strings b s b' rest := by
  intro b
  unfold parameters at h
  split at h
  · cases (Option.ite_none_left_eq_some.mp h).2
    exact ⟨b, .done _ _⟩
  · split at h
    · obtain ⟨b', hmore⟩ := parameterEnd_passes hr h
      exact ⟨b', .operator (by decide) hmore⟩
    · split at h
      · obtain ⟨b', hmore⟩ := parameterEnd_passes hr h
        exact ⟨b', .operator (by decide) hmore⟩
      · cases h
  · replace h := (Option.ite_none_left_eq_some.mp h).2
    split at h
    · obtain ⟨b', hmore⟩ := hr _ _ _ _ h false
      exact ⟨b', .operator (by decide) (.comma hmore)⟩
    · obtain ⟨b', hmore⟩ := parameterEnd_passes hr h
      exact ⟨b', .operator (by decide) (.name hmore)⟩
    · cases h
  · replace h := (Option.ite_none_left_eq_some.mp h).2
    split at h
    · obtain ⟨rest₁, hend, h⟩ := Option.bind_eq_some_iff.mp h
      obtain ⟨b', hmore⟩ := parameterEnd?_passes strings hend
      split at h <;> cases h
      exact ⟨b', .operator (by decide) (.name hmore)⟩
    · cases h
  · split at h
    · rename_i rest₁ hequals
      obtain ⟨⟨_, rest₂⟩, hvalue, h⟩ := Option.bind_eq_some_iff.mp h
      obtain ⟨b', hmore⟩ := parameterEnd_passes hr h
      exact ⟨b', .name (.of_operator? hequals (by decide) ((hr _ _ _ _ hvalue _).trans hmore))⟩
    · obtain ⟨b', hmore⟩ := parameterEnd_passes hr (Option.ite_none_left_eq_some.mp h).2
      exact ⟨b', .name hmore⟩
  · cases h

theorem orderly_body : Orderly strings (body strings rules) := by
  intro rule s e rest h
  cases rule with
  | expressions => exact expressions_passes hr h
  | expressionItems => exact expressionItems_passes hr h
  | expression => exact expression_passes hr h
  | starExpressions => exact starExpressions_passes hr h
  | named => exact named_passes hr h
  | starNamed => exact starred_passes hr rfl h
  | disjunction => exact disjunction_passes hr h
  | conjunction => exact conjunction_passes hr h
  | inversion => exact inversion_passes hr h
  | comparison => exact comparison_passes hr h
  | binary level => exact binary_passes hr h
  | binaryTail level left => exact binaryTail_passes hr h
  | factor => exact factor_passes hr h
  | power => exact power_passes hr h
  | primary => exact primary_passes hr h
  | trailers base => exact trailers_passes hr h
  | atom => exact atom_passes hr h
  | starNamedItems close => exact starNamedItems_passes hr h
  | pairs => exact pairs_passes hr h
  | clauses => exact clauses_passes hr h
  | conditions => exact conditions_passes hr h
  | targets => exact targets_passes hr h
  | arguments stage => exact arguments_passes hr h
  | slices => exact slices_passes hr h
  | parameters stage => exact parameters_passes hr h

omit hr in
theorem orderly_parse (fuel : Nat) : Orderly strings (parse strings fuel) := by
  induction fuel with
  | zero => exact fun _ _ _ _ h => nomatch h
  | succ fuel ih => exact orderly_body ih

end Grammar

/-! ## Lists of symbols -/

/-- May this symbol come after that one? A comma comes after an item; a string is one of several
that can be joined, and so is a string before it. -/
def Symbol.Follows (strings : Grammar.Strings) (last : Option Symbol) : Symbol → Prop
  | .operator op => op = "," → last.any Symbol.endsItem = true
  | .string l => ∃ literals e, strings literals = some e ∧ l ∈ literals ∧
      ∀ l', last = some (.string l') → l' ∈ literals
  | _ => True

/-- Each symbol may come after the one before it, the first after `last`. -/
def InOrder (strings : Grammar.Strings) : Option Symbol → List Symbol → Prop
  | _, [] => True
  | last, x :: s => x.Follows strings last ∧ InOrder strings (some x) s

variable {strings : Grammar.Strings}

theorem inOrder_of_newlines {s : List Symbol} (h : ∀ x ∈ s, x = .newline) (last : Option Symbol) :
    InOrder strings last s := by
  induction s generalizing last with
  | nil => trivial
  | cons x s ih =>
    rw [List.forall_mem_cons] at h
    rw [h.1]
    exact ⟨trivial, ih h.2 _⟩

theorem inOrder_run {literals : List (List Char)} {e : Expr} (hjoined : strings literals = some e)
    {s : List Symbol} (hs : ∀ l, InOrder strings (some (.string l)) s) {run : List (List Char)}
    (hrun : ∀ l ∈ run, l ∈ literals) {last : Option Symbol}
    (hlast : ∀ l, last = some (.string l) → l ∈ literals)
    (hne : run ≠ []) : InOrder strings last (run.map .string ++ s) := by
  induction run generalizing last with
  | nil => exact absurd rfl hne
  | cons l run ih =>
    rw [List.forall_mem_cons] at hrun
    refine ⟨⟨literals, e, hjoined, hrun.1, hlast⟩, ?_⟩
    cases run with
    | nil => exact hs l
    | cons l' run =>
      refine ih hrun.2 ?_ (List.cons_ne_nil _ _)
      rintro _ ⟨⟩
      exact hrun.1

theorem Grammar.Passes.inOrder {b b' : Bool} {s rest : List Symbol}
    (h : Grammar.Passes strings b s b' rest)
    {last : Option Symbol} (hb : b = true → last.any Symbol.endsItem = true)
    (hlast : ∀ l l' more, last = some (.string l) → s ≠ .string l' :: more)
    (hrest : ∀ x ∈ rest, x = .newline) :
    InOrder strings last s := by
  induction h generalizing last with
  | done b s => exact inOrder_of_newlines hrest last
  | symbol hstring hcomma h ih =>
    rename_i x s rest
    refine ⟨?_, ih (fun hends => hends) (fun l _ _ heq =>
      absurd (Option.some.inj heq) (hstring l)) hrest⟩
    cases x with
    | operator op => exact fun hop => absurd (congrArg Symbol.operator hop) hcomma
    | string l => exact absurd rfl (hstring l)
    | name | keyword | number | newline => trivial
  | comma h ih => exact ⟨fun _ => hb rfl, ih (fun h => absurd h (by decide)) nofun hrest⟩
  | run hne hjoined hs h ih =>
    rename_i literals e s rest
    refine inOrder_run hjoined (fun l => ih (fun _ => rfl) (fun _ l' more _ => hs l' more) hrest)
      (fun l hl => hl) ?_ hne
    intro l hl
    obtain ⟨first, more, rfl⟩ := List.exists_cons_of_ne_nil hne
    exact absurd rfl (hlast l first _ hl)

/-- The symbols of an expression are in order. -/
theorem inOrder_of_expressionOf? {depth : Nat} {symbols : List Symbol} {e : Expr}
    (h : expressionOf? depth symbols = some e) :
    InOrder (joinStrings (isFieldExpression depth)) none symbols := by
  unfold expressionOf? at h
  split at h
  · rename_i e' rest hread
    split at h
    · rename_i hrest
      obtain ⟨b', hpassed⟩ := Grammar.orderly_parse _ _ _ _ _ hread false
      refine hpassed.inOrder (fun h => absurd h (by decide)) nofun fun x hx => ?_
      simpa using List.all_eq_true.mp hrest x hx
    · cases h
  · cases h

end Harvest.Source
