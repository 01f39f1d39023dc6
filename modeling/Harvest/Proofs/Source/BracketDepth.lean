import Harvest.Proofs.Source.ArgumentGrammar

/-!
# Where an argument in brackets ends

Inside an argument in brackets a reader counts the brackets of one kind and passes over the others.
Main statement: where the brackets of all kinds match, the argument ends at the bracket that closes
it. Before the source ends the argument has ended too, after as many brackets as that takes, or the
source is not understood.
-/

namespace Harvest.Source

/-! ## Counting brackets -/

namespace Bracket

def openings (b : Bracket) (ts : List Token) : Nat := ts.countP (·.isOperator b.opening)

def closings (b : Bracket) (ts : List Token) : Nat := ts.countP (·.isOperator b.closing)

variable {b b' : Bracket} {t : Token}

theorem openings_append (b : Bracket) (ts us : List Token) :
    b.openings (ts ++ us) = b.openings ts + b.openings us :=
  List.countP_append

theorem closings_append (b : Bracket) (ts us : List Token) :
    b.closings (ts ++ us) = b.closings ts + b.closings us :=
  List.countP_append

theorem count_opening (h : t.isOperator b'.opening = true) :
    b.openings [t] = (if b' = b then 1 else 0) ∧ b.closings [t] = 0 := by
  have hclosing := Token.isOperator_of_ne h (b'.opening_ne_closing b)
  refine ⟨?_, by simp [closings, hclosing]⟩
  split
  · subst b'
    simp [openings, h]
  · rename_i hne
    simp [openings, Token.isOperator_of_ne h (opening_ne hne).1]

theorem count_closing (h : t.isOperator b'.closing = true) :
    b.openings [t] = 0 ∧ b.closings [t] = if b' = b then 1 else 0 := by
  have hopening := Token.isOperator_of_ne h (b.opening_ne_closing b').symm
  refine ⟨by simp [openings, hopening], ?_⟩
  split
  · subst b'
    simp [closings, h]
  · rename_i hne
    simp [closings, Token.isOperator_of_ne h (opening_ne hne).2]

theorem count_other (hopening : t.isOperator b.opening = false)
    (hclosing : t.isOperator b.closing = false) :
    b.openings [t] = 0 ∧ b.closings [t] = 0 := by
  simp [openings, closings, hopening, hclosing]

end Bracket

variable {g : Reading} {c : OpenCall} {b : Bracket} {depth depth' row : Nat}
    {t : Token} {ts : List Token}

theorem Nested.closings_eq (h : Nested ts) (b : Bracket) : b.closings ts = b.openings ts := by
  induction h with
  | nil => rfl
  | @plain t ts hopening hclosing _ _ _ ih =>
    have ht := Bracket.count_other (hopening b) (hclosing b)
    rw [← List.singleton_append, b.closings_append, b.openings_append]
    omega
  | @group b' opening closing inner ts hopening _ hclosing _ ihinner ih =>
    have hfirst := Bracket.count_opening (b := b) hopening
    have hlast := Bracket.count_closing (b := b) hclosing
    rw [← List.singleton_append, ← List.singleton_append (l := ts)]
    simp only [b.closings_append, b.openings_append]
    omega

/-- In matching brackets no kind is ever closed more often than it was opened. -/
theorem Nested.closings_take_le (h : Nested ts) (b : Bracket) (n : Nat) :
    b.closings (ts.take n) ≤ b.openings (ts.take n) := by
  induction h generalizing n with
  | nil => rw [List.take_nil]; rfl
  | @plain t ts hopening hclosing _ _ _ ih =>
    cases n with
    | zero => rfl
    | succ n =>
      have ht := Bracket.count_other (hopening b) (hclosing b)
      have hrest := ih n
      rw [List.take_succ_cons, ← List.singleton_append, b.closings_append, b.openings_append]
      omega
  | @group b' opening closing inner ts hopening hinner hclosing _ ihinner ih =>
    cases n with
    | zero => rfl
    | succ n =>
      have hfirst := Bracket.count_opening (b := b) hopening
      have hbefore := ihinner n
      rw [List.take_succ_cons, ← List.singleton_append, List.take_append]
      -- What is taken ends inside the brackets, or else behind them.
      cases hn : n - inner.length with
      | zero =>
        rw [List.take_zero, List.append_nil, b.closings_append, b.openings_append]
        omega
      | succ k =>
        have hlast := Bracket.count_closing (b := b) hclosing
        have hall := hinner.closings_eq b
        have hafter := ih k
        rw [List.take_of_length_le (by omega), List.take_succ_cons,
          ← List.singleton_append (l := ts.take k)]
        simp only [b.closings_append, b.openings_append]
        omega

theorem Nested.kind_ne (h : Nested ts) : ∀ t ∈ ts, t.kind ≠ .dedent ∧ t.kind ≠ .finish := by
  have hoperator {t : Token} {text : String} (ht : t.isOperator text = true) : t.kind ≠ .dedent ∧
      t.kind ≠ .finish := by
    simp [(Token.isOperator_iff.mp ht).1]
  induction h with
  | nil => exact fun t ht => absurd ht List.not_mem_nil
  | plain _ _ hdedent hfinish _ ih => exact List.forall_mem_cons.mpr ⟨⟨hdedent, hfinish⟩, ih⟩
  | group _ hopening _ hclosing _ ihinner ih =>
    refine List.forall_mem_cons.mpr ⟨hoperator hopening, List.forall_mem_append.mpr ⟨ihinner, ?_⟩⟩
    exact List.forall_mem_cons.mpr ⟨hoperator hclosing, ih⟩

/-! ## Inside of brackets -/

/-- The argument has not ended before any of the tokens, nor behind them. -/
def Inside (g : Reading) (c : OpenCall) (b : Bracket) (depth row : Nat) (ts : List Token) : Prop :=
  ∀ n ≤ ts.length, ∃ depth',
    Leads g (.group c b (depth + 1) row) (ts.take n) (.group c b (depth' + 1) row)

/-- The argument ends with the token `last` and not before, whatever follows. -/
structure Ends (g : Reading) (c : OpenCall) (b : Bracket) (depth row : Nat) (inner : List Token)
    (last : Token) : Prop where
  inside : Inside g c b depth row inner
  outside : Leads g (.group c b (depth + 1) row) (inner ++ [last]) (.call (c.add .other row))

/-- A token that may not stand in brackets, with what is said about it. -/
inductive Forbidden : Token → String → Prop
  | finish {t : Token} (h : t.kind = .finish) : Forbidden t "Unexpected end of file"
  | dedent {t : Token} (h : t.kind = .dedent) : Forbidden t "Unexpected dedent"

theorem Inside.nil :
    Inside g c b depth row [] := fun n _ => ⟨depth, by rw [List.take_nil]; exact .nil g _⟩

theorem Inside.cons (ht : Takes g (.group c b (depth + 1) row) t (.group c b (depth' + 1) row))
    (h : Inside g c b depth' row ts) : Inside g c b depth row (t :: ts) := by
  intro n hn
  cases n with
  | zero => exact ⟨depth, .nil g _⟩
  | succ n =>
    obtain ⟨reached, hleads⟩ := h n (Nat.le_of_succ_le_succ hn)
    exact ⟨reached, .cons ht hleads⟩

theorem Ends.cons {inner : List Token} {last : Token}
    (ht : Takes g (.group c b (depth + 1) row) t (.group c b (depth' + 1) row))
    (h : Ends g c b depth' row inner last) : Ends g c b depth row (t :: inner) last :=
  ⟨h.inside.cons ht, .cons ht h.outside⟩

/-- A forbidden token stops the reader wherever it stands in the brackets. -/
theorem Forbidden.step {what : String} (h : Forbidden t what) {r : Reader}
    (hr : r.phase = .group c b depth row) :
    r.step g t = .error (.unexpected what t.row) := by
  have hoperator (text : String) : t.isOperator text = false := by
    cases h with
    | finish h | dedent h => simp [Token.isOperator, h]
  unfold Reader.step
  rw [hr]
  dsimp only
  unfold Reader.inGroup
  rw [hoperator, hoperator]
  cases h with
  | finish h | dedent h =>
    rw [h]
    rfl

theorem Inside.run_forbidden {what : String} (h : Inside g c b depth row ts) (ht : Forbidden t what)
    (rest : List Token) {r : Reader} (hr : r.phase = .group c b (depth + 1) row) :
    (r.run g (ts ++ t :: rest)).2 = some (.unexpected what t.row) := by
  obtain ⟨reached, hleads⟩ := h ts.length (Nat.le_refl _)
  rw [List.take_length] at hleads
  rw [hleads r hr, Reader.run, ht.step rfl]

/-! ## What becomes of an argument in brackets -/

inductive Course (g : Reading) (c : OpenCall) (b : Bracket) (row depth : Nat) : List Token → Prop
  | inside {ts : List Token} (h : Inside g c b depth row ts)
      (hfinish : ∀ t ∈ ts, t.kind ≠ .finish) :
      Course g c b row depth ts
  | ended {inner : List Token} {last : Token} (rest : List Token)
      (h : Ends g c b depth row inner last)
      (hcount : b.closings (inner ++ [last]) = b.openings (inner ++ [last]) + (depth + 1)) :
      Course g c b row depth (inner ++ last :: rest)
  | stopped {taken : List Token} {t : Token} {what : String} (rest : List Token)
      (h : Inside g c b depth row taken)
      (ht : Forbidden t what) : Course g c b row depth (taken ++ t :: rest)

theorem Course.cons (ht : Takes g (.group c b (depth + 1) row) t (.group c b (depth' + 1) row))
    (hdepth : depth' + b.closings [t] = depth + b.openings [t]) (hkind : t.kind ≠ .finish)
    (h : Course g c b row depth' ts) : Course g c b row depth (t :: ts) := by
  cases h with
  | inside h hfinish => exact .inside (h.cons ht) (List.forall_mem_cons.mpr ⟨hkind, hfinish⟩)
  | ended rest h hcount =>
    refine .ended rest (h.cons ht) ?_
    rw [List.cons_append, ← List.singleton_append, b.closings_append, b.openings_append]
    omega
  | stopped rest h hforbidden => exact .stopped rest (h.cons ht) hforbidden

/-- Every list of tokens ends the argument, or stays inside it, or has a forbidden token. -/
theorem course (g : Reading) (c : OpenCall) (b : Bracket) (row depth : Nat) (ts : List Token) :
    Course g c b row depth ts := by
  induction ts generalizing depth with
  | nil => exact .inside .nil fun t ht => absurd ht List.not_mem_nil
  | cons t ts ih =>
    have hstopped {what : String} (h : Forbidden t what) : Course g c b row depth ([] ++ t :: ts) :=
      .stopped ts .nil h
    by_cases hopening : t.isOperator b.opening = true
    · have hcount := Bracket.count_opening (b := b) hopening
      rw [if_pos rfl] at hcount
      exact .cons (takes_opening hopening) (by omega)
        (by simp [(Token.isOperator_iff.mp hopening).1]) (ih (depth + 1))
    · by_cases hclosing : t.isOperator b.closing = true
      · have hcount := Bracket.count_closing (b := b) hclosing
        rw [if_pos rfl] at hcount
        -- The bracket that brings the depth to nothing ends the argument.
        cases depth with
        | zero =>
          have hends : Ends g c b 0 row [] t := ⟨.nil, (takes_closing hclosing).leads⟩
          have hended : Course g c b row 0 ([] ++ t :: ts) :=
            .ended ts hends (by rw [List.nil_append]; omega)
          exact hended
        | succ depth =>
          exact .cons (takes_inner_closing hclosing) (by omega)
            (by simp [(Token.isOperator_iff.mp hclosing).1]) (ih depth)
      · by_cases hfinish : t.kind = .finish
        · exact hstopped (.finish hfinish)
        · by_cases hdedent : t.kind = .dedent
          · exact hstopped (.dedent hdedent)
          · -- Any other token, brackets of the other kinds included, is passed over.
            have hopening := eq_false_of_ne_true hopening
            have hclosing := eq_false_of_ne_true hclosing
            have hcount := Bracket.count_other hopening hclosing
            exact .cons (takes_inner hopening hclosing hdedent hfinish) (by omega)
              hfinish (ih depth)

/-- Balanced brackets of any kind do not end the argument around them. -/
theorem Nested.inside (h : Nested ts) (g : Reading) (c : OpenCall) (b : Bracket) (row : Nat) :
    Inside g c b 0 row ts := by
  have hcourse := course g c b row 0 ts
  have hkinds := h.kind_ne
  cases hcourse with
  | inside hinside _ => exact hinside
  | @ended inner last rest _ hcount =>
    -- No kind of bracket is closed once too often.
    have hle := h.closings_take_le b (inner ++ [last]).length
    rw [List.append_cons inner last rest, List.take_left] at hle
    omega
  | @stopped taken t what rest _ hforbidden =>
    have hkind := hkinds t (List.mem_append_right _ List.mem_cons_self)
    cases hforbidden with
    | finish hfinish => exact absurd hfinish hkind.2
    | dedent hdedent => exact absurd hdedent hkind.1

/-- An argument whose brackets match ends at the bracket that closes it. In a source that ends, an
argument in brackets ends with one closing bracket of its kind more than there are opening ones, or
a token is met that may not stand there. -/
theorem group_ends (g : Reading) (c : OpenCall) (b : Bracket) (row : Nat) :
    (∀ inner closing, Nested inner → closing.isOperator b.closing = true →
    Ends g c b 0 row inner closing) ∧
      ∀ body finish, finish.kind = .finish →
        (∃ inner last rest, body ++ [finish] = inner ++ last :: rest ∧ Ends g c b 0 row inner last ∧
          b.closings (inner ++ [last]) = b.openings (inner ++ [last]) + 1) ∨
        ∃ taken t rest what, body ++ [finish] = taken ++ t :: rest ∧ Inside g c b 0 row taken ∧
          Forbidden t what ∧
          ∀ r : Reader, r.phase = .group c b 1 row →
            (r.run g (body ++ [finish])).2 = some (.unexpected what t.row) := by
  constructor
  · intro inner closing hinner hclosing
    exact ⟨hinner.inside g c b row, leads_brackets hinner hclosing fun t ht =>
      absurd ht List.not_mem_nil⟩
  · intro body finish hfinish
    have hcourse := course g c b row 0 (body ++ [finish])
    generalize hts : body ++ [finish] = ts at hcourse ⊢
    cases hcourse with
    | inside _ hkinds =>
      -- An argument that is still open has not met the end of the source.
      have hmem : finish ∈ ts := hts ▸ List.mem_append_right body List.mem_cons_self
      exact absurd hfinish (hkinds finish hmem)
    | ended rest hends hcount => exact .inl ⟨_, _, rest, rfl, hends, hcount⟩
    | stopped rest hinside hforbidden =>
      exact .inr ⟨_, _, rest, _, rfl, hinside, hforbidden, fun r hr =>
        hinside.run_forbidden hforbidden rest hr⟩

/-- The tokens of `[(x)]`. -/
def mixedBrackets : List Token :=
  [⟨.operator, "[", 1, 2⟩, ⟨.operator, "(", 1, 3⟩, ⟨.name, "x", 1, 4⟩, ⟨.operator, ")", 1, 5⟩,
    ⟨.operator, "]", 1, 6⟩]

/-- A round bracket ends the argument behind them, and a curly one is missed where the
source ends. -/
theorem group_ends_mixedBrackets :
    Nested mixedBrackets ∧
      Ends ⟨{}, .builtin, "f", 0⟩ { keyword := none, row := 1 } .round 0 1 mixedBrackets
        ⟨.operator, ")", 1, 7⟩ ∧
      (Reader.run ⟨{}, .builtin, "f", 0⟩
        { phase := .group { keyword := none, row := 1 } .curly 1 1 }
        (mixedBrackets ++ [⟨.finish, "", 2, 0⟩])).2 =
          some (.unexpected "Unexpected end of file" 2) := by
  have hname : Nested [⟨.name, "x", 1, 4⟩] :=
    .plain (fun _ => rfl) (fun _ => rfl) (by decide) (by decide) .nil
  have hround : Nested [⟨.operator, "(", 1, 3⟩, ⟨.name, "x", 1, 4⟩, ⟨.operator, ")", 1, 5⟩] :=
    .group .round rfl hname rfl .nil
  have hnested : Nested mixedBrackets := .group .square rfl hround rfl .nil
  have hends :=
    (group_ends ⟨{}, .builtin, "f", 0⟩ { keyword := none, row := 1 } .round 1).1 mixedBrackets
    ⟨.operator, ")", 1, 7⟩ hnested rfl
  refine ⟨hnested, hends, ?_⟩
  rcases (group_ends ⟨{}, .builtin, "f", 0⟩ { keyword := none, row := 1 } .curly 1).2 mixedBrackets
    ⟨.finish, "", 2, 0⟩ rfl
    with ⟨inner, last, rest, hts, -, hcount⟩ | ⟨taken, t, rest, what, hts, -, hforbidden, hrun⟩
  · have hnone : Bracket.curly.closings (mixedBrackets ++ [⟨.finish, "", 2, 0⟩]) = 0 := by decide
    rw [hts, List.append_cons, Bracket.closings_append] at hnone
    omega
  · have hmem : t ∈ mixedBrackets ++ [⟨.finish, "", 2, 0⟩] :=
      hts ▸ List.mem_append_right taken List.mem_cons_self
    have hkinds : ∀ u ∈ mixedBrackets ++ [⟨.finish, "", 2, 0⟩], u.kind ≠ .dedent ∧
        (u.kind = .finish → u.row = 2) := by
      decide
    rw [hrun _ rfl]
    cases hforbidden with
    | finish hfinish => rw [(hkinds t hmem).2 hfinish]
    | dedent hdedent => exact absurd hdedent (hkinds t hmem).1

end Harvest.Source
