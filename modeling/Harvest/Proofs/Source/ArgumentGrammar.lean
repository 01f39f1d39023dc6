import Harvest.Proofs.Source.Refusals

/-!
# What is read of a call

The arguments of a marked call follow a grammar: strings, dotted names and arguments in brackets,
with or without a name, and with commas between them. A reader collects one argument for each that
the grammar has, and it is outside of calls again right behind the closing bracket.
-/

namespace Harvest.Source

/-! ## The grammar -/

inductive Nested : List Token → Prop
  | nil : Nested []
  | plain {t : Token} {ts : List Token} (hopening : ∀ b : Bracket, t.isOperator b.opening = false)
      (hclosing : ∀ b : Bracket, t.isOperator b.closing = false) (hdedent : t.kind ≠ .dedent)
      (hfinish : t.kind ≠ .finish) (hts : Nested ts) : Nested (t :: ts)
  | group (b : Bracket) {opening closing : Token} {inner ts : List Token}
      (hopening : opening.isOperator b.opening = true) (hinner : Nested inner)
      (hclosing : closing.isOperator b.closing = true) (hts : Nested ts) :
      Nested (opening :: (inner ++ closing :: ts))

def Breaks (ts : List Token) : Prop := ∀ t ∈ ts, t.kind = .breakOnly

/-- Strings that stand next to each other, with their joined text and the row of the first. -/
inductive Strings : List Token → String → Nat → Prop
  | one {t : Token} {breaks : List Token} {s : String} (hkind : t.kind = .string)
      (hvalue : evaluate t.text.toList = .ok (.constant (.text s))) (hbreaks : Breaks breaks) :
      Strings (t :: breaks) s t.row
  | more {ts breaks : List Token} {t : Token} {s s' : String} {row : Nat} (hts : Strings ts s row)
      (hkind : t.kind = .string) (hvalue : evaluate t.text.toList = .ok (.constant (.text s')))
      (hbreaks : Breaks breaks) :
      Strings (ts ++ t :: breaks) (s ++ s') row

/-- A name, or a name of something else, with the row of the last name. -/
inductive Dotted : List Token → Nat → Prop
  | name {t : Token} (hkind : t.kind = .name) : Dotted [t] t.row
  | member {ts breaks : List Token} {dot t : Token} {row : Nat} (hts : Dotted ts row)
      (hdot : dot.isOperator "." = true)
      (hbreaks : Breaks breaks) (hkind : t.kind = .name) :
      Dotted (ts ++ dot :: (breaks ++ [t])) t.row

/-- What is given for an argument, with its value as far as it is known and its row. -/
inductive Given : List Token → ArgumentValue → Nat → Prop
  | strings {ts : List Token} {s : String} {row : Nat} (h : Strings ts s row) :
      Given ts (.text s) row
  | name {ts : List Token} {row : Nat} (h : Dotted ts row) : Given ts .other row
  | call {ts inner breaks : List Token} {opening closing : Token} {row : Nat} (h : Dotted ts row)
      (hopening : opening.isOperator "(" = true) (hinner : Nested inner)
      (hclosing : closing.isOperator ")" = true)
      (hbreaks : Breaks breaks) : Given (ts ++ opening :: (inner ++ closing :: breaks)) .other row
  | group (b : Bracket) {inner breaks : List Token} {opening closing : Token}
      (hopening : opening.isOperator b.opening = true) (hinner : Nested inner)
      (hclosing : closing.isOperator b.closing = true) (hbreaks : Breaks breaks) :
      Given (opening :: (inner ++ closing :: breaks)) .other opening.row

inductive ArgumentTokens : List Token → Argument → Prop
  | plain {ts : List Token} {value : ArgumentValue} {row : Nat} (h : Given ts value row) :
      ArgumentTokens ts ⟨none, value, row⟩
  | named {name equals : Token} {breaks ts : List Token} {value : ArgumentValue} {row : Nat}
      (hname : name.kind = .name)
      (hequals : equals.isOperator "=" = true) (hbreaks : Breaks breaks) (h : Given ts value row) :
      ArgumentTokens (name :: equals :: (breaks ++ ts)) ⟨some name.text, value, row⟩

/-- The arguments between the brackets of a call. A comma may follow the last. -/
inductive ArgumentList : List Token → List Argument → Prop
  | empty {breaks : List Token} (hbreaks : Breaks breaks) : ArgumentList breaks []
  | last {breaks ts : List Token} {a : Argument} (hbreaks : Breaks breaks)
      (h : ArgumentTokens ts a) :
      ArgumentList (breaks ++ ts) [a]
  | more {breaks ts us : List Token} {a : Argument} {comma : Token} {as : List Argument}
      (hbreaks : Breaks breaks)
      (h : ArgumentTokens ts a) (hcomma : comma.isOperator "," = true) (hus : ArgumentList us as) :
      ArgumentList (breaks ++ (ts ++ comma :: us)) (a :: as)

/-! ## Tokens that lead from phase to phase -/

variable {g : Reading} {p q p' : Phase} {t : Token} {ts us : List Token} {c : OpenCall}

/-- In phase `p` the token is taken, and all that changes is the phase. -/
def Takes (g : Reading) (p : Phase) (t : Token) (q : Phase) : Prop :=
  ∀ r : Reader, r.phase = p → r.step g t = .ok { r with phase := q }

/-- In phase `p` all the tokens are taken, and all that changes is the phase. -/
def Leads (g : Reading) (p : Phase) (ts : List Token) (q : Phase) : Prop :=
  ∀ r : Reader, r.phase = p → ∀ rest, r.run g (ts ++ rest) = { r with phase := q }.run g rest

theorem Leads.nil (g : Reading) (p : Phase) : Leads g p [] p := by
  rintro r rfl rest
  rfl

theorem Leads.cons (ht : Takes g p t q) (hts : Leads g q ts p') : Leads g p (t :: ts) p' := by
  intro r hr rest
  rw [List.cons_append, Reader.run_cons (ht r hr)]
  exact hts { r with phase := q } rfl rest

theorem Leads.append (hts : Leads g p ts q) (hus : Leads g q us p') : Leads g p (ts ++ us) p' := by
  intro r hr rest
  rw [List.append_assoc, hts r hr]
  exact hus { r with phase := q } rfl rest

theorem Takes.leads (ht : Takes g p t q) : Leads g p [t] q := .cons ht (.nil g q)

theorem Token.isOperator_iff {text : String} :
    t.isOperator text = true ↔ t.kind = .operator ∧ t.text = text := by
  simp [Token.isOperator]

theorem Token.isOperator_of_ne {text text' : String} (h : t.isOperator text = true)
    (hne : text ≠ text') :
    t.isOperator text' = false := by
  simp [Token.isOperator, (Token.isOperator_iff.mp h).2, hne]

/-! ## Brackets -/

theorem Bracket.opening_ne_closing (b b' : Bracket) : b.opening ≠ b'.closing := by
  cases b <;> cases b' <;> decide

theorem Bracket.opening_ne {b b' : Bracket} (h : b ≠ b') :
    b.opening ≠ b'.opening ∧ b.closing ≠ b'.closing := by
  revert h
  cases b <;> cases b' <;> decide

section

variable {b : Bracket} {depth row : Nat}

theorem takes_opening (h : t.isOperator b.opening = true) :
    Takes g (.group c b depth row) t (.group c b (depth + 1) row) := by
  rintro ⟨_, pending, messages, warnings⟩ rfl
  simp [Reader.step, Reader.inGroup, h]

theorem takes_inner_closing (h : t.isOperator b.closing = true) :
    Takes g (.group c b (depth + 2) row) t (.group c b (depth + 1) row) := by
  have hopening := Token.isOperator_of_ne h (b.opening_ne_closing b).symm
  rintro ⟨_, pending, messages, warnings⟩ rfl
  simp [Reader.step, Reader.inGroup, h, hopening]

theorem takes_closing (h : t.isOperator b.closing = true) :
    Takes g (.group c b 1 row) t (.call (c.add .other row)) := by
  have hopening := Token.isOperator_of_ne h (b.opening_ne_closing b).symm
  rintro ⟨_, pending, messages, warnings⟩ rfl
  simp [Reader.step, Reader.inGroup, h, hopening]

theorem takes_inner (hopening : t.isOperator b.opening = false)
    (hclosing : t.isOperator b.closing = false)
    (hdedent : t.kind ≠ .dedent) (hfinish : t.kind ≠ .finish) :
    Takes g (.group c b depth row) t (.group c b depth row) := by
  rintro ⟨_, pending, messages, warnings⟩ rfl
  unfold Reader.step
  dsimp only
  unfold Reader.inGroup
  rw [hopening, hclosing]
  cases hkind : t.kind <;> first | rfl | exact absurd hkind hdedent | exact absurd hkind hfinish

end

/-- Inside brackets that are balanced a reader stays at its depth. -/
theorem Nested.leads (h : Nested ts) (g : Reading) (c : OpenCall) (b : Bracket) (depth row : Nat) :
    Leads g (.group c b (depth + 1) row) ts (.group c b (depth + 1) row) := by
  induction h generalizing depth with
  | nil => exact .nil g _
  | plain hopening hclosing hdedent hfinish _ ih =>
    exact .cons (takes_inner (hopening b) (hclosing b) hdedent hfinish) (ih depth)
  | group b' hopening _ hclosing _ ihinner ih =>
    by_cases hb : b' = b
    · subst hb
      have hrest := Leads.cons (takes_inner_closing hclosing) (ih depth)
      exact .cons (takes_opening hopening) ((ihinner (depth + 1)).append hrest)
    · obtain ⟨hneOpening, hneClosing⟩ := Bracket.opening_ne hb
      have hpassOpening : Takes g (.group c b (depth + 1) row) _ _ :=
        takes_inner (Token.isOperator_of_ne hopening hneOpening)
          (Token.isOperator_of_ne hopening (b'.opening_ne_closing b))
          (by simp [(Token.isOperator_iff.mp hopening).1])
            (by simp [(Token.isOperator_iff.mp hopening).1])
      have hpassClosing : Takes g (.group c b (depth + 1) row) _ _ :=
        takes_inner (Token.isOperator_of_ne hclosing (b.opening_ne_closing b').symm)
          (Token.isOperator_of_ne hclosing hneClosing)
          (by simp [(Token.isOperator_iff.mp hclosing).1])
            (by simp [(Token.isOperator_iff.mp hclosing).1])
      exact .cons hpassOpening ((ihinner depth).append (.cons hpassClosing (ih depth)))

/-! ## Arguments -/

theorem Reader.step_call {r : Reader} (hr : r.phase = .call c) (ht : t.isGap = false) :
    r.step g t = r.inCall g c t := by
  unfold Reader.step Reader.dispatch
  rw [hr]
  cases hkind : t.kind <;> simp [Token.isGap, hkind] at ht <;> simp [Reader.handle, hr]

theorem Breaks.leads (h : Breaks ts) (g : Reading) (c : OpenCall) :
    Leads g (.call c) ts (.call c) := by
  induction ts with
  | nil => exact .nil g _
  | cons t ts ih =>
    have hkind := h t List.mem_cons_self
    refine .cons ?_ (ih fun u hu => h u (List.mem_cons_of_mem t hu))
    rintro ⟨_, pending, messages, warnings⟩ rfl
    simp [Reader.step, Reader.dispatch, hkind]

theorem leads_brackets {inner breaks : List Token} {b : Bracket} {row : Nat} (hinner : Nested inner)
    (hclosing : t.isOperator b.closing = true) (hbreaks : Breaks breaks) :
    Leads g (.group c b 1 row) (inner ++ t :: breaks) (.call (c.add .other row)) :=
  (hinner.leads g c b 0 row).append (.cons (takes_closing hclosing) (hbreaks.leads g _))

/-- Strings next to each other are read as one argument with their joined text. -/
theorem Strings.leads {s : String} {row : Nat} (h : Strings ts s row) (g : Reading)
    (hc : c.inString = false) :
    Leads g (.call c) ts
      (.call { c.add (.text s) row with inArgument := true, inString := true }) := by
  induction h with
  | one hkind hvalue hbreaks =>
    refine .cons ?_ (hbreaks.leads g _)
    rintro ⟨_, pending, messages, warnings⟩ rfl
    rw [Reader.step_call rfl (by simp [Token.isGap, hkind])]
    simp [Reader.inCall, Reader.stringInCall, Reader.literalValue, hkind, hvalue, hc, OpenCall.add]
  | more _ hkind hvalue hbreaks ih =>
    refine ih.append (.cons ?_ (hbreaks.leads g _))
    rintro ⟨_, pending, messages, warnings⟩ rfl
    rw [Reader.step_call rfl (by simp [Token.isGap, hkind])]
    simp [Reader.inCall, Reader.stringInCall, Reader.literalValue, hkind, hvalue, OpenCall.add,
      Reader.joinValues]
    rfl

theorem takes_name (hkind : t.kind = .name) :
    Takes g (.call c) t (.name { c with inArgument := true, inString := false } t.text t.row) := by
  rintro ⟨_, pending, messages, warnings⟩ rfl
  rw [Reader.step_call rfl (by simp [Token.isGap, hkind])]
  simp [Reader.inCall, hkind]

theorem takes_bracket {b : Bracket} (h : t.isOperator b.opening = true) :
    Takes g (.call c) t (.group { c with inArgument := true, inString := false } b 1 t.row) := by
  obtain ⟨hkind, htext⟩ := Token.isOperator_iff.mp h
  rintro ⟨_, pending, messages, warnings⟩ rfl
  rw [Reader.step_call rfl (by simp [Token.isGap, hkind])]
  cases b <;> simp [Reader.inCall, Bracket.opened?, Token.isOperator, hkind, htext, Bracket.opening]

section

variable {name : String} {row : Nat}

theorem takes_dot (h : t.isOperator "." = true) :
    Takes g (.name c name row) t (.call { c with inString := false }) := by
  obtain ⟨hkind, htext⟩ := Token.isOperator_iff.mp h
  rintro ⟨_, pending, messages, warnings⟩ rfl
  simp [Reader.step, Reader.afterName, Reader.dispatch, Reader.handle, Reader.inCall,
    Token.isOperator, hkind, htext]

theorem takes_calling (h : t.isOperator "(" = true) :
    Takes g (.name c name row) t (.group c .round 1 row) := by
  obtain ⟨hkind, htext⟩ := Token.isOperator_iff.mp h
  rintro ⟨_, pending, messages, warnings⟩ rfl
  simp [Reader.step, Reader.afterName, Token.isOperator, hkind, htext]

theorem takes_equals (h : t.isOperator "=" = true) (hnone : c.argumentName = none) :
    Takes g (.name c name row) t (.call { c with argumentName := some name }) := by
  obtain ⟨hkind, htext⟩ := Token.isOperator_iff.mp h
  rintro ⟨_, pending, messages, warnings⟩ rfl
  simp [Reader.step, Reader.afterName, Token.isOperator, hkind, htext, hnone]

theorem Dotted.leads (h : Dotted ts row) (g : Reading) (c : OpenCall) :
    ∃ name, Leads g (.call c) ts
      (.name { c with inArgument := true, inString := false } name row) := by
  induction h with
  | name hkind => exact ⟨_, (takes_name hkind).leads⟩
  | member _ hdot hbreaks hkind ih =>
    obtain ⟨name, hname⟩ := ih
    exact ⟨_, hname.append
      (.cons (takes_dot hdot) ((hbreaks.leads g _).append (takes_name hkind).leads))⟩

end

/-- The call that is being read, with the name before this place as an argument. -/
def Phase.reached? : Phase → Option OpenCall
  | .call c => some { c with inString := false }
  | .name c _ row => some { c.add .other row with inString := false }
  | _ => none

/-- The closing bracket ends the call with all arguments that have been reached. -/
theorem ended?_of_reached? (h : p.reached? = some c) (hclosing : t.isOperator ")" = true) :
    p.ended? t = some c := by
  unfold Phase.ended?
  rw [if_pos hclosing]
  cases p <;> simp_all [Phase.reached?]

theorem takes_comma (h : p.reached? = some c) (hinside : c.inArgument = true)
    (hcomma : t.isOperator "," = true) :
    Takes g p t (.call { c with inArgument := false }) := by
  obtain ⟨hkind, htext⟩ := Token.isOperator_iff.mp hcomma
  rintro ⟨phase, pending, messages, warnings⟩ rfl
  cases phase with
  | idle | definition | keyword | group => cases h
  | call c' =>
    cases h
    rw [Reader.step_call rfl (by simp [Token.isGap, hkind])]
    simp_all [Reader.inCall]
  | name c' name row =>
    cases h
    simp_all [Reader.step, Reader.afterName, Reader.dispatch, Reader.handle, Reader.inCall]

/-- What is given for an argument is read with its value, and the call may go on or end. -/
theorem Given.leads {value : ArgumentValue} {row : Nat} (h : Given ts value row) (g : Reading)
    (hc : c.inString = false) :
    ∃ q, Leads g (.call c) ts q ∧ q.reached? =
      some { c.add value row with inArgument := true } := by
  cases h with
  | strings h =>
    refine ⟨_, h.leads g hc, ?_⟩
    simp [Phase.reached?, OpenCall.add, hc]
  | name h =>
    obtain ⟨name, hname⟩ := h.leads g c
    refine ⟨_, hname, ?_⟩
    simp [Phase.reached?, OpenCall.add, hc]
  | call h hopening hinner hclosing hbreaks =>
    obtain ⟨name, hname⟩ := h.leads g c
    refine ⟨_, hname.append
      (.cons (takes_calling hopening) (leads_brackets hinner hclosing hbreaks)), ?_⟩
    simp [Phase.reached?, OpenCall.add, hc]
  | group b hopening hinner hclosing hbreaks =>
    refine ⟨_, .cons (takes_bracket hopening) (leads_brackets hinner hclosing hbreaks), ?_⟩
    simp [Phase.reached?, OpenCall.add, hc]

/-- An argument is added to those of the call, with its name if it has one. -/
theorem ArgumentTokens.leads {a : Argument} (h : ArgumentTokens ts a) (g : Reading)
    (hc : c.inString = false) (hnone : c.argumentName = none) :
    ∃ q, Leads g (.call c) ts q ∧
      q.reached? = some { c with arguments := c.arguments ++ [a], inArgument := true } := by
  cases h with
  | plain h =>
    obtain ⟨q, hq, hreached⟩ := h.leads g hc
    refine ⟨q, hq, ?_⟩
    simp [hreached, OpenCall.add, hnone]
  | named hname hequals hbreaks h =>
    rename_i name equals breaks ts value row
    obtain ⟨q, hq, hreached⟩ :=
      h.leads (c :=
        { c with inArgument := true, inString := false, argumentName := some name.text }) g rfl
    refine ⟨q, .cons (takes_name hname)
      (.cons (takes_equals hequals hnone) ((hbreaks.leads g _).append hq)), ?_⟩
    simp [hreached, OpenCall.add, hc, hnone]

/-- The arguments of a call are read in order, and nothing else about the call changes. -/
theorem ArgumentList.leads {as : List Argument} (h : ArgumentList ts as) (g : Reading)
    (hc : c.inString = false) (hnone : c.argumentName = none) (hinside : c.inArgument = false) :
    ∃ q c', Leads g (.call c) ts q ∧ q.reached? = some c' ∧
      c'.keyword = c.keyword ∧ c'.row = c.row ∧
      c'.arguments = c.arguments ++ as := by
  induction h generalizing c with
  | empty hbreaks => exact ⟨_, _, hbreaks.leads g c, rfl, rfl, rfl, (List.append_nil _).symm⟩
  | last hbreaks h =>
    obtain ⟨q, hq, hreached⟩ := h.leads g hc hnone
    exact ⟨q, _, (hbreaks.leads g c).append hq, hreached, rfl, rfl, rfl⟩
  | @more breaks ts us a comma as hbreaks h hcomma _ ih =>
    obtain ⟨q, hq, hreached⟩ := h.leads g hc hnone
    have htakes := takes_comma (g := g) hreached rfl hcomma
    obtain ⟨q', c', hq', hreached', hkeyword, hrow, harguments⟩ :=
      ih (c := { c with arguments := c.arguments ++ [a], inArgument := false }) hc hnone rfl
    refine ⟨q', c', (hbreaks.leads g c).append (hq.append (.cons htakes hq')), hreached',
      hkeyword, hrow, ?_⟩
    rw [harguments]
    simp

/-! ## Calls -/

theorem isNone_translationString {as : List Argument} (h : as = [] ∨ ∃ a ∈ as, a.name = none) :
    (translationString as).isNone = false := by
  unfold translationString
  rcases h with rfl | ⟨a, ha, hname⟩
  · rfl
  · have hmem : a ∈ as.filter (·.name.isNone) := List.mem_filter.mpr ⟨ha, by rw [hname]; rfl⟩
    rw [if_neg (by simp [List.ne_nil_of_mem ha])]
    cases hplain : as.filter (·.name.isNone) with
    | nil => simp [hplain] at hmem
    | cons first more =>
      dsimp only
      split
      · rfl
      · split <;> rfl

/-- A marked call is read as its arguments are written, and behind its closing bracket the reader is
outside of calls again, whatever follows. -/
theorem run_marked_call (g : Reading) (r : Reader) {name opening closing : Token}
    {body : List Token}
    {as : List Argument} (hidle : r.phase = .idle) (hname : name.Marks g.keywords)
    (hopening : opening.isOperator "(" = true)
    (hbody : ArgumentList body as) (hclosing : closing.isOperator ")" = true)
    (htext : ∀ k, g.keywords.get? name.text = some k → k.text ≠ 0)
    (hplain : g.keywords.get? name.text = none → as = [] ∨ ∃ a ∈ as, a.name = none) :
    ∃ q c r', r.run g (name :: opening :: body) =
      ({ r with phase := q }, none) ∧ q.ended? closing = some c ∧
      c.keyword = g.keywords.get? name.text ∧ c.row = name.row ∧ c.arguments = as ∧
      r.closeCall g c = .ok r' ∧ r'.phase = .idle ∧
      ∀ rest, r.run g (name :: opening :: (body ++ closing :: rest)) = r'.run g rest := by
  have hstart :
      Leads g .idle [name, opening]
      (.call { keyword := g.keywords.get? name.text, row := name.row }) := by
    refine .cons (q := .keyword (g.keywords.get? name.text) name.row) ?_ (Takes.leads ?_)
    · rintro ⟨_, pending, messages, warnings⟩ rfl
      simp [Reader.step, Reader.dispatch, Reader.handle, hname.1, hname.2]
    · rintro ⟨_, pending, messages, warnings⟩ rfl
      simp [Reader.step, Reader.dispatch, Reader.handle, hopening,
        (Token.isOperator_iff.mp hopening).1]
  obtain ⟨q, c, hbody, hreached, hkeyword, hrow, harguments⟩ :=
    hbody.leads g (c := { keyword := g.keywords.get? name.text, row := name.row }) rfl rfl rfl
  have hcall := hstart.append hbody
  have hended := ended?_of_reached? hreached hclosing
  have htext' : c.HasText := fun k hk => htext k (hkeyword.symm.trans hk)
  -- A call without a keyword must have an argument without a name.
  have hstring : c.isOnlyNamed = false := by
    unfold OpenCall.isOnlyNamed
    rw [hkeyword, harguments]
    cases hget : g.keywords.get? name.text with
    | some k => rfl
    | none => exact isNone_translationString (hplain hget)
  obtain ⟨r', hclosed, hphase⟩ := Reader.exists_closeCall (g := g) (r := r) htext' hstring
  refine ⟨q, c, r', ?_, hended, hkeyword, hrow, harguments, hclosed, hphase, fun rest => ?_⟩
  · have hrun := hcall r hidle []
    rwa [List.append_nil] at hrun
  · have hrun := hcall r hidle (closing :: rest)
    have hstep : Reader.step g { r with phase := q } closing = .ok r' :=
      (Reader.step_of_ended hended).trans hclosed
    rw [Reader.run_cons hstep] at hrun
    rw [← hrun]
    rfl

theorem run_marked_call_twoArguments :
    ∃ q c r', Reader.run ⟨{}, .builtin, "f", 0⟩ {}
      [⟨.name, "_", 1, 0⟩, ⟨.operator, "(", 1, 1⟩, ⟨.string, "'a'", 1, 2⟩,
        ⟨.string, "'b'", 1, 6⟩, ⟨.operator, ",", 1, 9⟩, ⟨.breakOnly, "\n", 1, 10⟩,
          ⟨.name, "n", 2, 0⟩,
        ⟨.operator, "=", 2, 1⟩, ⟨.operator, "[", 2, 2⟩, ⟨.name, "x", 2, 3⟩, ⟨.operator, "]", 2, 4⟩,
        ⟨.operator, ",", 2, 5⟩] = ({ phase := q }, none) ∧
      q.ended? ⟨.operator, ")", 2, 6⟩ = some c ∧ c.keyword = none ∧ c.row = 1 ∧
      c.arguments = [⟨none, .text "ab", 1⟩, ⟨some "n", .other, 2⟩] ∧
      Reader.closeCall ⟨{}, .builtin, "f", 0⟩ {} c = .ok r' ∧ r'.phase = .idle := by
  have hnone : Breaks [] := nofun
  have hbreak : Breaks [⟨.breakOnly, "\n", 1, 10⟩] := fun t ht => by rw [List.mem_singleton.mp ht]
  have hfirst : Strings [⟨.string, "'a'", 1, 2⟩] "a" 1 := .one rfl rfl hnone
  have hvalue : evaluate (Token.mk .string "'b'" 1 6).text.toList =
    .ok (.constant (.text "b")) := rfl
  have hstrings := Strings.more hfirst rfl hvalue hnone
  have hinner : Nested [⟨.name, "x", 2, 3⟩] :=
    .plain (fun _ => rfl) (fun _ => rfl) (by decide) (by decide) .nil
  have hgroup :
      Given [⟨.operator, "[", 2, 2⟩, ⟨.name, "x", 2, 3⟩, ⟨.operator, "]", 2, 4⟩] .other 2 :=
    .group .square rfl hinner rfl hnone
  have hnamed : ArgumentTokens [⟨.name, "n", 2, 0⟩, ⟨.operator, "=", 2, 1⟩, ⟨.operator, "[", 2, 2⟩,
      ⟨.name, "x", 2, 3⟩, ⟨.operator, "]", 2, 4⟩] ⟨some "n", .other, 2⟩ :=
        .named rfl rfl hnone hgroup
  have hcomma : (Token.mk .operator "," 1 9).isOperator "," = true := rfl
  have hcomma' : (Token.mk .operator "," 2 5).isOperator "," = true := rfl
  have hlist :=
    ArgumentList.more hnone (.plain (.strings hstrings)) hcomma
    (.more hbreak hnamed hcomma' (.empty hnone))
  have hname : (Token.mk .name "_" 1 0).Marks KeywordTable.builtin := ⟨rfl, .inr rfl⟩
  have hopening : (Token.mk .operator "(" 1 1).isOperator "(" = true := rfl
  have hclosing : (Token.mk .operator ")" 2 6).isOperator ")" = true := rfl
  obtain ⟨q, c, r', hrun, hended, hkeyword, hrow, harguments, hclosed, hphase, -⟩ :=
    run_marked_call ⟨{}, .builtin, "f", 0⟩ {} rfl hname hopening hlist hclosing (by decide)
      fun _ => .inr ⟨_, List.mem_cons_self, rfl⟩
  exact ⟨q, c, r', hrun, hended, hkeyword, hrow, harguments, hclosed, hphase⟩

end Harvest.Source
