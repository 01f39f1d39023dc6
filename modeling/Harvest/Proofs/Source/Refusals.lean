import Harvest.Proofs.Keywords
import Harvest.Proofs.Source.Breaks
import Harvest.Proofs.Source.ScannedSymbols

/-!
# Refused tokens

Outside of marked calls the reader takes every token. Inside of one it takes names, strings,
attributes and arguments in brackets, and of numbers only those that start an argument. If the
tokens of a source are the symbols of an expression, then reading stops at a token that a call does
not take, and at no other.
-/

namespace Harvest.Source

/-! ## Tokens that a call does not take -/

/-- Does a call without a keyword end here although all its arguments have names? -/
def OpenCall.isOnlyNamed (c : OpenCall) : Bool :=
  c.keyword.isNone && (translationString c.arguments).isNone

/-- A token that a call does not take; `last` is the token before it, apart from comments and
layout. -/
def OpenCall.refuses (c : OpenCall) (last : Option Token) (t : Token) : Bool :=
  match t.kind with
  | .operator =>
      if t.text = ")" then c.isOnlyNamed
      else if t.text = "," then last.any (·.kind == .number)
      else t.text ≠ "." && (Bracket.opened? t).isNone
  | .number => c.inArgument
  | .string => isFormatted t.text.toList
  | _ => false

/-- A token at which reading stops. After a name an equals sign is taken too, unless the argument
has a name. -/
def Phase.refuses (last : Option Token) (t : Token) : Phase → Bool
  | .call c => c.refuses last t
  | .name c _ row =>
      if t.isOperator "=" then c.argumentName.isSome else (c.add .other row).refuses last t
  | _ => false

def Reader.obstructed (g : Reading) : Option Token → Reader → List Token → Bool
  | _, _, [] => false
  | last, r, t :: ts =>
      r.phase.refuses last t ||
        match r.step g t with
        | .ok r' => obstructed g (if t.isGap then last else some t) r' ts
        | .error _ => false

/-! ## Where the reader stands -/

/-- A call between two tokens: `last` is the token before, and `symbol` the symbol that it is. -/
structure OpenCall.Ready (c : OpenCall) (last : Option Token) (symbol : Option Symbol) : Prop where
  text : c.HasText
  /-- Nothing has been read of an argument only at its start, or behind a number. -/
  started : c.inArgument = true ∨ last.any (·.kind == .number) = true ∨
    symbol.any Symbol.endsItem = false
  number : last.any (·.kind == .number) = true → c.inArgument = false
  /-- A string is followed by others of its kind. -/
  string : c.inString = true → c.inArgument = true ∧ ∃ l a, symbol = some (.string l) ∧
    c.arguments.getLast? = some a ∧ IsStringValue (isBytes l) a.value

def Bracket.close : Bracket → Char
  | .round => ')'
  | .square => ']'
  | .curly => '\x7d'

/-- Where a reader stands among the brackets that are to be closed. -/
def Phase.Fits (brackets : List Char) (last : Option Token) (symbol : Option Symbol) : Phase → Prop
  | .idle | .definition => True
  | .keyword found _ => ∀ k, found = some k → k.text ≠ 0
  | .call c => (∃ outer, brackets = ')' :: outer) ∧ c.Ready last symbol
  | .name c _ _ => (∃ outer, brackets = ')' :: outer) ∧ c.HasText ∧ c.inArgument = true ∧
      c.inString = false ∧
      last.any (·.kind == .number) = false
  | .group c bracket depth _ =>
      (∃ inner outer, brackets = inner ++ bracket.close :: ')' :: outer ∧
      depth = inner.count bracket.close + 1) ∧
        c.HasText ∧ c.inArgument = true ∧ c.inString = false

/-! ## Calls that are closed -/

namespace Reader

variable {g : Reading} {r r' : Reader} {t : Token} {c : OpenCall}

theorem closeCall_of_isOnlyNamed (h : c.isOnlyNamed = true) :
    ∃ fault, r.closeCall g c = .error fault := by
  simp only [OpenCall.isOnlyNamed, Bool.and_eq_true, Option.isNone_iff_eq_none] at h
  unfold closeCall
  rw [h.1, h.2]
  exact ⟨_, rfl⟩

/-- A call with a text can be closed unless all its arguments have names. -/
theorem exists_closeCall (htext : c.HasText) (h : c.isOnlyNamed = false) :
    ∃ r', r.closeCall g c = .ok r' ∧ r'.phase = .idle := by
  have hclosed : ∃ r', r.closeCall g c = .ok r' := by
    cases hparts : c.parts? with
    | some parts =>
      rw [closeCall_of_parts? hparts]
      cases hwanted : wantsDomain g.options parts.domain with
      | false => exact ⟨_, addMessage_of_unwanted hwanted _ c⟩
      | true =>
        have hsome :=
          isSome_message? g { r with phase := .idle } c (isSome_text_of_parts? htext hparts)
        obtain ⟨m, hm⟩ := Option.isSome_iff_exists.mp hsome
        rw [addMessage_of_wanted hwanted, hm]
        exact ⟨_, rfl⟩
    | none =>
      have hrefusal : ∃ lines, c.refusal g.file g.firstLine = .ok lines := by
        unfold OpenCall.refusal
        cases hkeyword : c.keyword with
        | some k =>
          dsimp only
          cases k.pick c.arguments <;> exact ⟨_, rfl⟩
        | none =>
          cases hstring : translationString c.arguments with
          | some inner => exact ⟨_, rfl⟩
          | none => simp [OpenCall.isOnlyNamed, hkeyword, hstring] at h
      obtain ⟨lines, hlines⟩ := hrefusal
      rw [closeCall_of_refusal hparts, hlines]
      exact ⟨_, rfl⟩
  obtain ⟨r', hr'⟩ := hclosed
  exact ⟨r', hr', (closeCall_places hr').1⟩

variable {brackets brackets' : List Char} {last : Option Token}
    {symbol : Option Symbol} {x : Symbol}

theorem text_ne_zero_of_builtin {name : String} {k : Keyword}
    (h : KeywordTable.builtin.get? name = some k) :
    k.text ≠ 0 := by
  have hall : ∀ entry ∈ KeywordTable.builtin.entries, entry.2.text ≠ 0 := by decide
  exact hall _ (KeywordTable.mem_entries_of_get? h)

theorem isOperator_of_isGap (ht : t.isGap = true) (text : String) : t.isOperator text = false := by
  cases hkind : t.kind <;> simp [Token.isGap, hkind] at ht <;> simp [Token.isOperator, hkind]

theorem refuses_of_gap (ht : t.isGap = true) (last : Option Token) (p : Phase) :
    p.refuses last t = false := by
  have hcall (c : OpenCall) : c.refuses last t = false := by
    unfold OpenCall.refuses
    cases hkind : t.kind <;> simp [Token.isGap, hkind] at ht <;> rfl
  cases p with
  | call c => exact hcall c
  | name c name row =>
    simp only [Phase.refuses, isOperator_of_isGap ht, Bool.false_eq_true, if_false, hcall]
  | idle | definition | keyword | group => rfl

theorem any_number_of_ne (h : t.kind ≠ .number) : (some t).any (·.kind == .number) = false := by
  rw [Option.any_some, beq_eq_false_iff_ne]
  exact h

theorem ready_of_inArgument (htext : c.HasText) (hinside : c.inArgument = true)
    (hstring : c.inString = false)
    (hlast : last.any (·.kind == .number) = false) : c.Ready last symbol := by
  refine ⟨htext, .inl hinside, fun hnumber => ?_, fun hstring' => ?_⟩
  · rw [hlast] at hnumber
    cases hnumber
  · rw [hstring] at hstring'
    cases hstring'

theorem ready_of_name {name : String} {row : Nat}
    (h : (Phase.name c name row).Fits brackets last symbol) :
    c.Ready last symbol := by
  obtain ⟨-, htext, hinside, hstring, hlast⟩ := h
  exact ready_of_inArgument htext hinside hstring hlast

theorem fits_settled {p : Phase} (h : p.Fits brackets last symbol) :
    p.settled.Fits brackets last symbol := by
  cases p with
  | name c name row => exact ⟨h.1, ready_of_name h⟩
  | idle | definition | keyword | call | group => exact h

theorem step_gap_of_heeds (ht : t.isGap = true) (hheeds : r.phase.heeds = true) :
    ∃ r', r.step g t = .ok r' ∧ r'.phase = r.phase.settled := by
  by_cases hcomment : t.kind = .comment
  · exact ⟨_, step_of_comment hcomment hheeds, (comment_keeps _ _ _).1⟩
  · have hlayout : ∀ q : Reader, q.dispatch g t = .ok q := by
      intro q
      unfold dispatch
      cases hkind : t.kind with
      | comment => exact absurd hkind hcomment
      | indent | dedent | newline | breakOnly => rfl
      | name | number | string | operator | stray | finish => simp [Token.isGap, hkind] at ht
    refine ⟨{ r with phase := r.phase.settled }, ?_, rfl⟩
    unfold step
    cases hphase : r.phase with
    | group =>
      rw [hphase] at hheeds
      cases hheeds
    | name c name row =>
      unfold afterName
      simp only [isOperator_of_isGap ht, Bool.or_self, Bool.false_eq_true, if_false,
        hlayout, Phase.settled]
    | idle | definition | keyword | call =>
      dsimp only [Phase.settled]
      rw [hlayout, ← hphase]

theorem fits_gap (h : r.phase.Fits brackets last symbol) (ht : t.isGap = true)
    (hblock : t.kind = .dedent → brackets = []) :
    ∃ r', r.step g t = .ok r' ∧ r'.phase.Fits brackets last symbol := by
  cases hheeds : r.phase.heeds with
  | true =>
    obtain ⟨r', hstep, hphase⟩ := step_gap_of_heeds (g := g) ht hheeds
    exact ⟨r', hstep, hphase ▸ fits_settled h⟩
  | false =>
    cases hphase : r.phase with
    | group c bracket depth row =>
      rw [hphase] at h
      refine ⟨r, ?_, hphase ▸ h⟩
      obtain ⟨⟨inner, outer, hbrackets, -⟩, -⟩ := h
      unfold step inGroup
      simp only [hphase, isOperator_of_isGap ht, Bool.false_eq_true, if_false]
      cases hkind : t.kind with
      | dedent =>
        rw [hblock hkind] at hbrackets
        simp at hbrackets
      | finish => simp [Token.isGap, hkind] at ht
      | comment | indent | newline | breakOnly | name | number | string | operator | stray => rfl
    | idle | definition | keyword | call | name =>
      rw [hphase] at hheeds
      cases hheeds

/-! ## Tokens that are symbols -/

theorem text_of_spelledBy {op : String} (h : (Symbol.operator op).SpelledBy t.text.toList) :
    t.text = op := by
  rw [← h.1, String.ofList_toList]

theorem text_of_opened? {bracket : Bracket} (h : Bracket.opened? t = some bracket) :
    t.text = bracket.opening := by
  unfold Bracket.opened? at h
  simp only [Token.isOperator, Bool.and_eq_true, beq_iff_eq] at h
  split at h
  · rename_i hround
    cases h
    exact hround.2
  · split at h
    · rename_i hcurly
      cases h
      exact hcurly.2
    · split at h
      · rename_i hsquare
        cases h
        exact hsquare.2
      · cases h

theorem after?_opening {bracket : Bracket} (h :
    (Symbol.operator bracket.opening).after? brackets = some brackets') :
    brackets' = bracket.close :: brackets := by
  have hopen : (Symbol.operator bracket.opening).after? brackets =
      if brackets.length < maxBrackets then some (bracket.close :: brackets) else none := by
    cases bracket <;> rfl
  rw [hopen] at h
  obtain ⟨-, heq⟩ := Option.ite_none_right_eq_some.mp h
  exact (Option.some.inj heq).symm

theorem inCall_operator {outer : List Char} {op : String} (hready : c.Ready last symbol)
    (hbrackets : brackets = ')' :: outer) (hkind : t.kind = .operator) (htext : t.text = op)
    (hcomma : op = "," → symbol.any Symbol.endsItem = true)
    (hafter : (Symbol.operator op).after? brackets = some brackets') :
    (c.refuses last t = true ∧ ∃ fault, r.inCall g c t = .error fault) ∨
      c.refuses last t = false ∧
        ∃ r', r.inCall g c t = .ok r' ∧ r'.phase.Fits brackets' (some t) (some (.operator op)) := by
  unfold OpenCall.refuses inCall
  simp only [hkind, htext]
  have hplain : (c.inString && TokenKind.operator == .string) = false := by
    rw [show (TokenKind.operator == TokenKind.string) = false from rfl, Bool.and_false]
  rw [hplain]
  by_cases hclose : op = ")"
  · rw [if_pos hclose, if_pos hclose]
    cases hnamed : c.isOnlyNamed with
    | true => exact .inl ⟨rfl, closeCall_of_isOnlyNamed hnamed⟩
    | false =>
      obtain ⟨r', hr', hphase⟩ :=
        exists_closeCall (g := g) (r := r) (c := { c with inString := false }) hready.text hnamed
      exact .inr ⟨rfl, r', hr', hphase ▸ trivial⟩
  rw [if_neg hclose, if_neg hclose]
  by_cases hnext : op = ","
  · rw [if_pos hnext, if_pos hnext]
    have hsame : brackets' = brackets := by
      subst hnext
      exact (Option.some.inj hafter).symm
    -- A number leaves the call outside of arguments, so that a comma behind it is taken for a stray
    -- one.
    cases hlast : last.any (·.kind == .number) with
    | true =>
      have houtside := hready.number hlast
      rw [houtside]
      exact .inl ⟨rfl, _, rfl⟩
    | false =>
      have hinside : c.inArgument = true := by
        rcases hready.started with h | h | h
        · exact h
        · rw [hlast] at h
          cases h
        · rw [hcomma hnext] at h
          cases h
      rw [hinside]
      refine .inr ⟨rfl, _, rfl, ⟨outer, hsame.trans hbrackets⟩, hready.text, .inr (.inr ?_),
        fun _ => rfl, nofun⟩
      rw [hnext]
      rfl
  rw [if_neg hnext, if_neg hnext]
  by_cases hdot : op = "."
  · have hsame : brackets' = brackets := by
      subst hdot
      exact (Option.some.inj hafter).symm
    rw [if_pos hdot]
    refine .inr ⟨by simp [hdot], _, rfl, ⟨outer, hsame.trans hbrackets⟩, hready.text,
      .inr (.inr ?_), ?_, nofun⟩
    · rw [hdot]
      rfl
    · rw [any_number_of_ne (by rw [hkind]; decide)]
      nofun
  rw [if_neg hdot]
  cases hopened : Bracket.opened? t with
  | none => exact .inl ⟨by simp [hdot], _, rfl⟩
  | some bracket =>
    have hopen : brackets' = bracket.close :: brackets := by
      rw [← htext, text_of_opened? hopened] at hafter
      exact after?_opening hafter
    refine .inr ⟨by simp, _, rfl, ⟨[], outer, by rw [hopen, hbrackets]; rfl, ?_⟩,
      hready.text, rfl, rfl⟩
    simp

theorem stringInCall_spelled {depth : Nat} {l : List Char} (hready : c.Ready last symbol)
    (htext : t.text = String.ofList l) (hliteral : IsLiteral l (.string l))
    (hformatted : isFormatted l = false)
    (hfollows : (Symbol.string l).Follows (joinStrings (isFieldExpression depth)) symbol) :
    ∃ c', stringInCall c t = .ok c' ∧ c'.HasText ∧ c'.inArgument = true ∧
      ∃ a, c'.arguments.getLast? = some a ∧ IsStringValue (isBytes l) a.value := by
  obtain ⟨literals, e, hjoin, hmem, hbefore⟩ := hfollows
  obtain ⟨v, hv, hkind⟩ := hliteral.literalValue_string hformatted hjoin hmem
  unfold stringInCall
  rw [htext, hv]
  cases hstring : c.inString with
  | false =>
    refine ⟨_, rfl, hready.text, rfl, ⟨c.argumentName, v, t.row⟩, ?_, hkind⟩
    simp [OpenCall.add]
  | true =>
    obtain ⟨hinside, l', a, hlast, hargument, hvalue⟩ := hready.string hstring
    have hsame : isBytes l' = isBytes l := isBytes_eq_of_joinStrings hjoin (hbefore l' hlast) hmem
    obtain ⟨joined, hjoined, hjoinedKind⟩ := (hsame ▸ hvalue).joinValues hkind
    rw [hargument]
    refine ⟨{ c with
      arguments := c.arguments.dropLast ++ [{ a with value := joined }], inString := true }, ?_,
      hready.text, hinside, { a with value := joined }, ?_, hjoinedKind⟩
    · change Except.bind (joinValues a.value v) _ = _
      rw [hjoined, ← hstring]
      rfl
    · simp

theorem inCall_goes {outer : List Char} {depth : Nat} (hready : c.Ready last symbol)
    (hbrackets : brackets = ')' :: outer) (hkind : t.kind = x.kind) (hne : x ≠ .newline)
    (hx : x.SpelledBy t.text.toList)
    (hfollows : x.Follows (joinStrings (isFieldExpression depth)) symbol)
    (hafter : x.after? brackets = some brackets') :
    (c.refuses last t = true ∧ ∃ fault, r.inCall g c t = .error fault) ∨
      c.refuses last t = false ∧ ∃ r', r.inCall g c t = .ok r' ∧
        r'.phase.Fits brackets' (some t) (some x) := by
  cases x with
  | newline => exact absurd rfl hne
  | operator op =>
    exact inCall_operator hready hbrackets hkind (text_of_spelledBy hx) hfollows hafter
  | name text | keyword text =>
    have hkind : t.kind = .name := hkind
    cases hafter
    refine .inr ⟨by simp [OpenCall.refuses, hkind], ?_⟩
    unfold inCall
    simp only [hkind]
    exact ⟨_, rfl, ⟨outer, hbrackets⟩, hready.text, rfl, Bool.and_false _,
      any_number_of_ne (by rw [hkind]; decide)⟩
  | number value =>
    have hkind : t.kind = .number := hkind
    cases hafter
    obtain ⟨v, hv⟩ := IsLiteral.literalValue_number hx
    rw [String.ofList_toList] at hv
    unfold OpenCall.refuses inCall
    simp only [hkind]
    -- A number may only start an argument.
    cases hinside : c.inArgument with
    | true => exact .inl ⟨rfl, _, rfl⟩
    | false =>
      rw [hv]
      refine .inr ⟨rfl, _, rfl, ⟨outer, hbrackets⟩, hready.text, .inr (.inl ?_), fun _ => rfl, ?_⟩
      · rw [Option.any_some, hkind]
        rfl
      · intro hstring
        have hstring : (c.inString && false) = true := hstring
        rw [Bool.and_false] at hstring
        cases hstring
  | string l =>
    have hkind : t.kind = .string := hkind
    cases hafter
    obtain ⟨htext, hliteral, hbytes⟩ := hx
    have htext' : t.text = String.ofList l := by rw [← htext, String.ofList_toList]
    have hsame : { c with inString := c.inString && TokenKind.string == .string } = c := by
      rw [show (TokenKind.string == TokenKind.string) = true from rfl, Bool.and_true]
    unfold OpenCall.refuses inCall
    simp only [hkind, htext]
    rw [hsame]
    -- A formatted string has no value that could be taken.
    cases hformatted : isFormatted l with
    | true =>
      obtain ⟨fault, hfault⟩ := hliteral.literalValue_formatted hformatted (hbytes hformatted)
      refine .inl ⟨rfl, fault, ?_⟩
      unfold stringInCall
      rw [htext', hfault]
      rfl
    | false =>
      obtain ⟨c', hc', htext, hinside, a, ha, hvalue⟩ :=
        stringInCall_spelled hready htext' hliteral hformatted hfollows
      rw [hc']
      refine .inr ⟨rfl, _, rfl, ⟨outer, hbrackets⟩, htext, .inl hinside, ?_, fun _ =>
        ⟨hinside, l, a, rfl, ha, hvalue⟩⟩
      rw [any_number_of_ne (by rw [hkind]; decide)]
      nofun

theorem isOperator_iff (hkind : t.kind = x.kind) (hx : x.SpelledBy t.text.toList) {text : String} :
    t.isOperator text = true ↔ x = .operator text := by
  simp only [Token.isOperator, hkind, Bool.and_eq_true, beq_iff_eq]
  cases x with
  | operator op => simp [Symbol.kind, text_of_spelledBy hx]
  | name | keyword | number | string | newline => simp [Symbol.kind]

theorem after?_closing {bracket : Bracket} (h :
    (Symbol.operator bracket.closing).after? brackets = some brackets') :
    brackets = bracket.close :: brackets' := by
  have hclose : ∀ close outer, (Symbol.operator bracket.closing).after? (close :: outer) =
      if bracket.close = close then some outer else none := by
    cases bracket <;> exact fun _ _ => rfl
  cases brackets with
  | nil => cases bracket <;> cases h
  | cons close outer =>
    rw [hclose] at h
    obtain ⟨rfl, heq⟩ := Option.ite_none_right_eq_some.mp h
    rw [Option.some.inj heq]

theorem close_injective {b b' : Bracket} (h : b.close = b'.close) : b = b' := by
  revert h
  cases b <;> cases b' <;> decide

theorem after?_operator {op : String} (hop : op ∈ operators)
    (h : (Symbol.operator op).after? brackets = some brackets') :
    (∃ b : Bracket, op = b.opening ∧ brackets' = b.close :: brackets) ∨
      (∃ b : Bracket, op = b.closing ∧ brackets = b.close :: brackets') ∨ brackets' = brackets := by
  have hall : ∀ op ∈ operators, op.toList.head?.any "([\x7b)]\x7d".toList.contains = true →
      op.toList.tail = [] := by
    decide
  obtain ⟨c, hc, h⟩ := Option.bind_eq_some_iff.mp h
  have hsingle (hmem : c ∈ "([\x7b)]\x7d".toList) : op = String.ofList [c] := by
    have htail : op.toList.tail = [] :=
      hall op hop (by rw [hc]; exact List.contains_iff_mem.mpr hmem)
    obtain ⟨ds, hop⟩ := List.head?_eq_some_iff.mp hc
    rw [hop, List.tail_cons] at htail
    rw [← String.ofList_toList (s := op), hop, htail]
  unfold bracketsAfter? at h
  cases hopen : closingBracket? c with
  | some close =>
    rw [hopen] at h
    obtain ⟨-, heq⟩ := Option.ite_none_right_eq_some.mp h
    cases heq
    unfold closingBracket? at hopen
    split at hopen
    · cases hopen
      exact .inl ⟨.round, hsingle (by decide), rfl⟩
    · cases hopen
      exact .inl ⟨.square, hsingle (by decide), rfl⟩
    · cases hopen
      exact .inl ⟨.curly, hsingle (by decide), rfl⟩
    · cases hopen
  | none =>
    rw [hopen] at h
    dsimp only at h
    split at h
    · rename_i hclose
      split at h
      · rename_i close outer
        obtain ⟨rfl, heq⟩ := Option.ite_none_right_eq_some.mp h
        cases heq
        simp only [String.reduceToList, List.contains_cons, List.contains_nil,
          Bool.or_false, Bool.or_eq_true,
          beq_iff_eq] at hclose
        rcases hclose with rfl | rfl | rfl
        · exact .inr (.inl ⟨.round, hsingle (by decide), rfl⟩)
        · exact .inr (.inl ⟨.square, hsingle (by decide), rfl⟩)
        · exact .inr (.inl ⟨.curly, hsingle (by decide), rfl⟩)
      · cases h
    · cases h
      exact .inr (.inr rfl)

/-- Of the brackets to be closed, those above the argument in brackets change as its depth does. -/
theorem inGroup_goes {bracket : Bracket} {depth row : Nat} {inner outer : List Char}
    (htext : c.HasText) (hinside : c.inArgument = true) (hstring : c.inString = false)
    (hbrackets : brackets = inner ++ bracket.close :: ')' :: outer)
    (hdepth : depth = inner.count bracket.close + 1)
    (hphase : r.phase = .group c bracket depth row) (hkind : t.kind = x.kind) (hne : x ≠ .newline)
    (hx : x.SpelledBy t.text.toList) (hafter : x.after? brackets = some brackets') :
    ∃ r', r.inGroup c bracket depth row t = .ok r' ∧ r'.phase.Fits brackets' (some t) (some x) := by
  have hgroup (inner' : List Char) {depth' : Nat} (hbrackets' : brackets' = inner' ++
    bracket.close :: ')' :: outer)
      (hdepth' : depth' = inner'.count bracket.close + 1) :
      (Phase.group c bracket depth' row).Fits brackets' (some t) (some x) :=
    ⟨⟨inner', outer, hbrackets', hdepth'⟩, htext, hinside, hstring⟩
  have hoperator (text : String) : t.isOperator text = true ↔
    x = .operator text := isOperator_iff hkind hx
  unfold inGroup
  by_cases hopen : t.isOperator bracket.opening = true
  · rw [if_pos hopen]
    rw [(hoperator _).mp hopen] at hafter
    refine ⟨_, rfl, hgroup (bracket.close :: inner) ?_ ?_⟩
    · rw [after?_opening hafter, hbrackets]
      rfl
    · rw [List.count_cons_self, hdepth]
  rw [if_neg hopen]
  by_cases hclose : t.isOperator bracket.closing = true
  · rw [if_pos hclose]
    rw [(hoperator _).mp hclose] at hafter
    have hpopped := after?_closing hafter
    cases inner with
    | nil =>
      rw [hbrackets] at hpopped
      rw [if_pos (by rw [hdepth]; exact Nat.le_refl 1)]
      refine ⟨_, rfl, ⟨outer, (List.cons.inj hpopped).2.symm⟩,
        ready_of_inArgument htext hinside hstring ?_⟩
      exact any_number_of_ne (by rw [hkind, (hoperator _).mp hclose]; nofun)
    | cons d inner =>
      rw [hbrackets] at hpopped
      obtain ⟨rfl, htail⟩ := List.cons.inj hpopped
      rw [List.count_cons_self] at hdepth
      rw [if_neg (by omega)]
      exact ⟨_, rfl, hgroup inner htail.symm (by omega)⟩
  rw [if_neg hclose]
  -- Brackets of other kinds come and go above the one that is counted, and leave its count as it
  -- is.
  have hstay : ∃ inner', brackets' = inner' ++ bracket.close :: ')' :: outer ∧
      inner'.count bracket.close = inner.count bracket.close := by
    cases x with
    | newline => exact absurd rfl hne
    | name | keyword | number | string =>
      cases hafter
      exact ⟨inner, hbrackets, rfl⟩
    | operator op =>
      have hother (b : Bracket) (hb : op = b.opening ∨ op = b.closing) :
          b.close ≠ bracket.close := by
        intro heq
        obtain rfl := close_injective heq
        rcases hb with rfl | rfl
        · exact hopen ((hoperator _).mpr rfl)
        · exact hclose ((hoperator _).mpr rfl)
      rcases after?_operator hx.2 hafter with ⟨b, hb, rfl⟩ | ⟨b, hb, heq⟩ | rfl
      · refine ⟨b.close :: inner, by rw [hbrackets]; rfl,
          List.count_cons_of_ne (hother b (.inl hb))⟩
      · cases inner with
        | nil =>
          rw [hbrackets] at heq
          exact absurd (List.cons.inj heq).1.symm (hother b (.inr hb))
        | cons d inner =>
          rw [hbrackets] at heq
          obtain ⟨rfl, htail⟩ := List.cons.inj heq
          exact ⟨inner, htail.symm, (List.count_cons_of_ne (hother b (.inr hb))).symm⟩
      · exact ⟨inner, hbrackets, rfl⟩
  obtain ⟨inner', hbrackets', hcount⟩ := hstay
  refine ⟨r, ?_, ?_⟩
  · cases x with
    | newline => exact absurd rfl hne
    | name | keyword | number | string | operator => rw [hkind]; rfl
  · rw [hphase]
    exact hgroup inner' hbrackets' (hcount ▸ hdepth)

theorem fits_add {name : String} {row : Nat} (h : (Phase.name c name row).Fits brackets last symbol)
    (value : ArgumentValue) : (Phase.name (c.add value row) name row).Fits brackets last symbol := h

theorem refuses_name (c : OpenCall) (name : String) (row : Nat) :
    (Phase.name c name row).refuses last t =
      if t.isOperator "=" then c.argumentName.isSome else (c.add .other row).refuses last t := rfl

theorem refuses_add (h : t.isOperator ")" = false) (value : ArgumentValue) (row : Nat) :
    (c.add value row).refuses last t = c.refuses last t := by
  unfold OpenCall.refuses
  cases hkind : t.kind with
  | operator =>
    have htext : t.text ≠ ")" := by simpa [Token.isOperator, hkind] using h
    simp only [if_neg htext]
  | name | number | string | comment | breakOnly | newline | indent | dedent | stray | finish => rfl

theorem afterName_goes {name : String} {row depth : Nat}
    (h : (Phase.name c name row).Fits brackets last symbol)
    (hkind : t.kind = x.kind) (hne : x ≠ .newline) (hx : x.SpelledBy t.text.toList)
    (hfollows : x.Follows (joinStrings (isFieldExpression depth)) symbol)
    (hafter : x.after? brackets = some brackets') :
    ((Phase.name c name row).refuses last t = true ∧
    ∃ fault, r.afterName g c name row t = .error fault) ∨
      (Phase.name c name row).refuses last t = false ∧
        ∃ r', r.afterName g c name row t = .ok r' ∧ r'.phase.Fits brackets' (some t) (some x) := by
  have hoperator (text : String) : t.isOperator text = true ↔
    x = .operator text := isOperator_iff hkind hx
  obtain ⟨⟨outer, hbrackets⟩, htext, hinside, hstring, hnumber⟩ := id h
  have hdispatch (r : Reader) (c : OpenCall) :
      { r with phase := .call c }.dispatch g t = { r with phase := .call c }.inCall g c t :=
    dispatch_of_not_gap (Symbol.kind_isGap hne hkind) _
  unfold afterName
  rw [refuses_name]
  by_cases hequals : t.isOperator "=" = true
  · -- The name of an argument, unless it has one.
    have hsymbol := (hoperator _).mp hequals
    have hother {text : String} (htext : text ≠ "=") : t.isOperator text = false := by
      rw [← Bool.not_eq_true, hoperator, hsymbol]
      exact fun heq => htext (Symbol.operator.inj heq).symm
    have hsame : brackets' = brackets := by
      rw [hsymbol] at hafter
      exact (Option.some.inj hafter).symm
    rw [if_pos hequals, hother (by decide), hother (by decide), hother (by decide)]
    simp only [Bool.or_self, Bool.false_eq_true, if_false, hequals, if_true]
    cases hnamed : c.argumentName.isSome with
    | true => exact .inl ⟨rfl, _, rfl⟩
    | false =>
      refine .inr ⟨rfl, _, rfl, ⟨outer, hsame.trans hbrackets⟩,
        ready_of_inArgument htext hinside hstring ?_⟩
      exact any_number_of_ne (by rw [hkind, hsymbol]; nofun)
  rw [if_neg hequals]
  by_cases hends : (t.isOperator "," || t.isOperator ")") = true
  · -- The name was an argument, which is added before the token is looked at.
    rw [if_pos hends, hdispatch]
    exact inCall_goes (ready_of_name (fits_add h .other)) hbrackets hkind hne hx hfollows hafter
  have hclose : t.isOperator ")" = false := by
    rw [Bool.or_eq_true, not_or] at hends
    simpa using hends.2
  rw [if_neg hends, refuses_add hclose]
  by_cases hopen : t.isOperator "(" = true
  · have hsymbol := (hoperator _).mp hopen
    have hpushed : brackets' = ')' :: brackets := @after?_opening _ _ .round (hsymbol ▸ hafter)
    rw [if_pos hopen]
    refine .inr ⟨?_, _, rfl, ⟨[], outer, by rw [hpushed, hbrackets]; rfl, by simp⟩,
      htext, hinside, hstring⟩
    have hkind : t.kind = .operator := by rw [hkind, hsymbol]; rfl
    have htext : t.text = "(" := text_of_spelledBy (hsymbol ▸ hx)
    simp [OpenCall.refuses, Bracket.opened?, Token.isOperator, hkind, htext]
  rw [if_neg hopen, if_neg hequals, hdispatch]
  exact inCall_goes (ready_of_name h) hbrackets hkind hne hx hfollows hafter

theorem handle_goes (hkeywords : g.keywords = .builtin) (h : r.phase.Fits brackets last symbol)
    (houtside : r.phase.isOutside = true) (hkind : t.kind = x.kind) (hx : x.SpelledBy t.text.toList)
    (hafter : x.after? brackets = some brackets') :
    ∃ r', r.handle g t = .ok r' ∧ r'.phase.Fits brackets' (some t) (some x) := by
  unfold handle
  cases hphase : r.phase with
  | idle =>
    dsimp only
    split
    · refine ⟨_, rfl, fun k hk => ?_⟩
      rw [hkeywords] at hk
      exact text_ne_zero_of_builtin hk
    · split
      · exact ⟨_, rfl, trivial⟩
      · exact ⟨r, rfl, hphase ▸ trivial⟩
  | definition => exact ⟨_, rfl, trivial⟩
  | keyword found row =>
    rw [hphase] at h
    dsimp only
    split
    · rename_i hopen
      have hsymbol := (isOperator_iff hkind hx).mp hopen
      subst hsymbol
      refine ⟨_, rfl, ⟨brackets, @after?_opening _ _ .round hafter⟩, h, .inr (.inr rfl),
        fun _ => rfl, nofun⟩
    · exact ⟨_, rfl, trivial⟩
  | call | name | group =>
    rw [hphase] at houtside
    cases houtside

theorem fits_nil {p : Phase} (h : p.Fits [] last symbol) :
    p.isOutside = true ∧ ∀ last' symbol', p.Fits [] last' symbol' := by
  cases p with
  | idle | definition | keyword => exact ⟨rfl, fun _ _ => h⟩
  | call c =>
    obtain ⟨⟨_, hbrackets⟩, -⟩ := h
    cases hbrackets
  | name c name row =>
    obtain ⟨⟨_, hbrackets⟩, -⟩ := h
    cases hbrackets
  | group c bracket depth row =>
    obtain ⟨⟨_, _, hbrackets, -⟩, -⟩ := h
    simp at hbrackets

theorem refuses_of_isOutside {p : Phase} (h : p.isOutside = true) : p.refuses last t = false := by
  cases p with
  | idle | definition | keyword => rfl
  | call | name | group => cases h

theorem step_goes {depth : Nat} (hkeywords : g.keywords = .builtin)
    (h : r.phase.Fits brackets last symbol)
    (hkind : t.kind = x.kind) (hne : x ≠ .newline) (hx : x.SpelledBy t.text.toList)
    (hfollows : x.Follows (joinStrings (isFieldExpression depth)) symbol)
    (hafter : x.after? brackets = some brackets') :
    (r.phase.refuses last t = true ∧ ∃ fault, r.step g t = .error fault) ∨
      r.phase.refuses last t = false ∧ ∃ r', r.step g t = .ok r' ∧
        r'.phase.Fits brackets' (some t) (some x) := by
  have hdispatch : r.dispatch g t = r.handle g t :=
    dispatch_of_not_gap (Symbol.kind_isGap hne hkind) r
  cases hphase : r.phase with
  | idle | definition | keyword =>
    have houtside : r.phase.isOutside = true := by rw [hphase]; rfl
    obtain ⟨r', hr', hfits⟩ := handle_goes hkeywords h houtside hkind hx hafter
    refine .inr ⟨rfl, r', ?_, hfits⟩
    unfold step
    rw [hphase, ← hr', ← hdispatch]
  | call c =>
    rw [hphase] at h
    obtain ⟨⟨outer, hbrackets⟩, hready⟩ := h
    have hstep : r.step g t = r.inCall g c t := by
      unfold step
      rw [hphase]
      dsimp only
      rw [hdispatch, handle, hphase]
    rw [hstep]
    exact inCall_goes hready hbrackets hkind hne hx hfollows hafter
  | name c name row =>
    rw [hphase] at h
    have hstep : r.step g t = r.afterName g c name row t := by
      unfold step
      rw [hphase]
    rw [hstep]
    exact afterName_goes h hkind hne hx hfollows hafter
  | group c bracket depth row =>
    rw [hphase] at h
    obtain ⟨⟨inner, outer, hbrackets, hdepth⟩, htext, hinside, hstring⟩ := h
    have hstep : r.step g t = r.inGroup c bracket depth row t := by
      unfold step
      rw [hphase]
    rw [hstep]
    exact .inr ⟨rfl, inGroup_goes htext hinside hstring hbrackets hdepth hphase hkind hne hx hafter⟩

/-- Reading the tokens of an expression stops exactly at a token that is refused. -/
theorem run_of_spells {depth : Nat} {ts : List Token} {symbols : List Symbol}
    (hkeywords : g.keywords = .builtin)
    (h : Spells brackets ts symbols)
    (horder : InOrder (joinStrings (isFieldExpression depth)) symbol symbols)
    (hfits : r.phase.Fits brackets last symbol) :
    (r.run g ts).2 = none ↔ r.obstructed g last ts = false := by
  -- Only a symbol changes what came last, so comments and layout keep the place of the reader.
  induction h generalizing r last symbol with
  | done ht =>
    obtain ⟨houtside, -⟩ := fits_nil hfits
    obtain ⟨r', hstep, -⟩ := step_finish (g := g) ht houtside
    rw [run_cons hstep, obstructed, refuses_of_isOutside houtside, hstep]
    exact ⟨fun _ => rfl, fun _ => rfl⟩
  | gap ht hblock h ih =>
    obtain ⟨r', hstep, hfits'⟩ := fits_gap (g := g) hfits ht hblock
    rw [run_cons hstep, ih horder hfits', obstructed, refuses_of_gap ht, hstep]
    simp only [ht, if_true, Bool.false_or]
  | lineEnd h ih => exact ih horder.2 ((fits_nil hfits).2 last (some .newline))
  | symbol hkind hne hx hafter h ih =>
    obtain ⟨hfollows, horder⟩ := horder
    rcases step_goes hkeywords hfits hkind hne hx hfollows hafter with ⟨hrefuses, fault, hstep⟩ |
      ⟨hrefuses, r', hstep, hfits'⟩
    · rw [run, hstep, obstructed, hrefuses]
      simp
    · rw [run_cons hstep, ih horder hfits', obstructed, hrefuses, hstep]
      simp only [Symbol.kind_isGap hne hkind, Bool.false_eq_true, if_false, Bool.false_or]

end Reader

/-! ## Sources that are expressions -/

/-- Are the names of the text made of letters, digits and underscores? -/
def hasPlainNames (s : List Char) : Bool :=
  (symbols? s).any fun symbols => symbols.all Symbol.isPlain

/-- A valid text is an expression made of symbols, and has no null character. -/
theorem exists_symbols_of_valid {s : List Char} (h : verdict s = .valid) :
    '\x00' ∉ s ∧ ∃ symbols e, symbols? s = some symbols ∧
      expressionOf? s.length symbols = some e := by
  unfold verdict at h
  split at h
  · cases h
  · rename_i hnull
    split at h
    · rename_i hexpression
      obtain ⟨e, he⟩ := Option.isSome_iff_exists.mp hexpression
      obtain ⟨symbols, hsymbols, he⟩ := Option.bind_eq_some_iff.mp he
      exact ⟨by simpa using hnull, symbols, e, hsymbols, he⟩
    · cases h

/-- The messages of a text that is an expression can be extracted unless a line is indented to a
column that no block has, or a marked call holds a token that is refused. Carriage returns are left
out: alone they end a line of an expression, but not a line of the source. -/
theorem extractText_of_valid {s : List Char} (hvalid : verdict s = .valid) (hreturn : '\r' ∉ s)
    (hnames : hasPlainNames s = true) {options : Options} (hkeywords : options.keywords = [])
    {session : Session} (hbuiltin : session.keywords = .builtin) (file : String) (firstLine : Int) :
    (∃ ms session', (ExceptT.run (extractText options file firstLine s)).run session =
      (.ok ms, session')) ↔
      (scan (textLines s)).fault ≠ some .badDedent ∧
        Reader.obstructed ⟨options, .builtin, file, firstLine⟩ none {}
          (scan (textLines s)).tokens = false := by
  obtain ⟨hnull, symbols, e, hsymbols, he⟩ := exists_symbols_of_valid hvalid
  have hplain : ∀ x ∈ symbols, x.isPlain = true := by simpa [hasPlainNames, hsymbols] using hnames
  have hclean : ∀ d ∈ s, d ≠ '\r' ∧ d ≠ '\x00' :=
    fun d hd => ⟨ne_of_mem_of_not_mem hd hreturn, ne_of_mem_of_not_mem hd hnull⟩
  have hadded : session.keywords.addSpecs options.keywords =
    (.builtin, none) := by rw [hkeywords, hbuiltin]; rfl
  have hok {ms : List Message} {session' : Session} :=
    @run_extract_ok_iff options file firstLine (textLines s) session session' ms
  rw [hadded] at hok
  have hrun (h : Spells [] (scan (textLines s)).tokens symbols) :
      (Reader.run ⟨options, .builtin, file, firstLine⟩ {} (scan (textLines s)).tokens).2 = none ↔
        Reader.obstructed ⟨options, .builtin, file, firstLine⟩ none {} (scan (textLines s)).tokens =
            false :=
    Reader.run_of_spells rfl h (inOrder_of_expressionOf? he) trivial
  constructor
  · rintro ⟨ms, session', h⟩
    obtain ⟨_, r, ⟨⟩, hfault, hread, -⟩ := hok.mp h
    refine ⟨by rw [hfault]; nofun, ?_⟩
    rcases scan_spells hsymbols hclean hplain with hbad | ⟨-, hspells⟩
    · rw [hfault] at hbad
      cases hbad
    · exact (hrun hspells).mp (by rw [hread])
  · rintro ⟨hfault, hobstructed⟩
    obtain ⟨hfault, hspells⟩ := (scan_spells hsymbols hclean hplain).resolve_left hfault
    have hread := (hrun hspells).mpr hobstructed
    exact ⟨_, _, hok.mpr ⟨_, _, rfl, hfault, Prod.ext rfl hread, rfl, rfl⟩⟩

/-- A source with marked calls that hold names, groups, numbers, strings next to each other and
comments. -/
def readableCalls : List Char :=
  "(_(u'a' 'b',  # first\n  default='d'), ngettext('one', \"more\", len(x.y)), _('c', 1), f(2, k=3) + 1)\n".toList

theorem extractText_of_valid_readableCalls :
    ∃ ms session', (ExceptT.run (extractText {} "f" 0 readableCalls)).run {} =
      (.ok ms, session') := by
  refine (extractText_of_valid ?_ ?_ ?_ rfl rfl "f" 0).mpr ⟨?_, ?_⟩
  all_goals decide +kernel

/-- A number as a named argument is refused, though the source is an expression. -/
theorem extractText_named_number :
    verdict "_('x', count=1)\n".toList = .valid ∧
    (ExceptT.run (extractText {} "f" 0 "_('x', count=1)\n".toList)).run {} =
      (.error (.exit 1),
      { printed := { err := "Aborting due to parse error in f[1]: Unexpected number: 1\n" } }) := by
  refine ⟨?_, Prod.ext_iff.mpr ?_⟩
  all_goals decide +kernel

end Harvest.Source
