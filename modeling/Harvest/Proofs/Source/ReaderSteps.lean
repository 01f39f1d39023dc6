import Harvest.Proofs.Outcomes
import Harvest.Source.Extract

/-!
# What a token does to a reader

A comment may change what a reader has found, and so may a bracket that closes a call. Any other
token only moves the reader on, and where it goes then depends on nothing but its phase and the
keywords. So the calls that are read, and whether reading stops at a fault, are the same whatever is
done with comments and with the messages of calls.
-/

namespace Harvest.Source

/-! ## Calls -/

/-- A name that marks the messages of the call that follows it. -/
def Token.Marks (keywords : KeywordTable) (t : Token) : Prop :=
  t.kind = .name ∧ ((keywords.get? t.text).isSome ∨ t.text = "_")

/-- Comments and layout, which may stand between a name and its bracket. -/
def Token.isGap (t : Token) : Bool :=
  t.kind = .comment || t.kind = .indent || t.kind = .dedent || t.kind = .newline ||
    t.kind = .breakOnly

def Phase.ended? (p : Phase) (t : Token) : Option OpenCall :=
  if t.isOperator ")" then
    match p with
    | .call c => some { c with inString := false }
    | .name c _ row => some { c.add .other row with inString := false }
    | _ => none
  else none

/-- Is a comment looked at? It is passed over inside an argument in brackets. -/
def Phase.heeds : Phase → Bool
  | .group .. => false
  | _ => true

def Phase.settled : Phase → Phase
  | .name c _ _ => .call c
  | p => p

/-- The keyword of the call that is being read, and the row on which its name stands. -/
def Phase.head? : Phase → Option (Option Keyword × Nat)
  | .keyword found row => some (found, row)
  | .call c => some (c.keyword, c.row)
  | .name c _ _ => some (c.keyword, c.row)
  | .group c _ _ _ => some (c.keyword, c.row)
  | _ => none

def Phase.row? : Phase → Option Nat
  | .keyword _ row => some row
  | .call c => some c.row
  | .name c _ _ => some c.row
  | .group c _ _ _ => some c.row
  | _ => none

def Phase.callRow? : Phase → Option Nat
  | .call c => some c.row
  | .name c _ _ => some c.row
  | .group c _ _ _ => some c.row
  | _ => none

def OpenCall.parts? (c : OpenCall) : Option MessageParts :=
  match c.keyword with
  | some keyword => (keyword.pick c.arguments).toOption
  | none => (translationString c.arguments).join

/-- What is said about a call that gives no message, unless reading stops at it. -/
def OpenCall.refusal (c : OpenCall) (file : String) (firstLine : Int) :
    Except ReadFault (List String) :=
  match c.keyword with
  | some keyword =>
      match keyword.pick c.arguments with
      | .ok _ => .ok []
      | .error fault => .ok (fault.warning? file firstLine).toList
  | none =>
      match translationString c.arguments with
      | none => .error (.failure .onlyNamed)
      | some _ => .ok []

def OpenCall.HasText (c : OpenCall) : Prop := ∀ k, c.keyword = some k → k.text ≠ 0

def bare (m : Message) : Message := { m with flags := [], comment := "" }

/-- A call that gives a message: the row of its name, and the parts of the message. -/
structure MarkedCall where
  row : Nat
  parts : MessageParts
deriving DecidableEq, Repr

def MarkedCall.message (file : String) (firstLine : Int) (c : MarkedCall) : Message :=
  { context := c.parts.context, text := c.parts.text, plural := c.parts.plural
    location := ⟨file, firstLine + c.row⟩ }

/-! ## Closing a call -/

namespace Reader

variable {g : Reading} {r r' : Reader} {t : Token}

def places (r : Reader) : List Location := r.messages.map (·.location)

/-- The message of a call that is asked for, if it has a text or its flags say all about
its format. -/
def message? (g : Reading) (r : Reader) (c : OpenCall) (parts : MessageParts) : Option Message :=
  let remark := r.remarkFor c.row
  let comments := (if parts.comment.isEmpty then [] else [parts.comment]) ++
    (remark.map (·.text)).toList
  (Message.withFormatFlags parts.text (Catalog.distinct ((remark.map (·.flags)).getD []))).map
    fun flags =>
    { context := parts.context, text := parts.text, plural := parts.plural, flags
      comment := "\n".intercalate comments
      location := ⟨g.file, g.firstLine + c.row⟩ }

theorem addMessage_of_unwanted {parts : MessageParts}
    (h : wantsDomain g.options parts.domain = false)
    (r : Reader) (c : OpenCall) : r.addMessage g c parts = .ok r := by
  rw [addMessage, h]
  rfl

theorem addMessage_of_wanted {parts : MessageParts} (h : wantsDomain g.options parts.domain = true)
    (r : Reader) (c : OpenCall) :
    r.addMessage g c parts = (r.message? g c parts).elim (.error (.failure .noText)) fun m =>
      .ok { r with messages := r.messages ++ [m] } := by
  rw [addMessage, h]
  unfold message?
  dsimp only
  cases Message.withFormatFlags parts.text
    (Catalog.distinct (((r.remarkFor c.row).map (·.flags)).getD [])) <;> rfl

theorem addMessage_cases {c : OpenCall} {parts : MessageParts} {r' : Reader}
    (h : r.addMessage g c parts = .ok r') :
    wantsDomain g.options parts.domain = false ∧ r' = r ∨
      ∃ m, wantsDomain g.options parts.domain = true ∧ r.message? g c parts = some m ∧
        r' = { r with messages := r.messages ++ [m] } := by
  cases hwanted : wantsDomain g.options parts.domain with
  | false =>
    rw [addMessage_of_unwanted hwanted] at h
    exact .inl ⟨rfl, (Except.ok.inj h).symm⟩
  | true =>
    rw [addMessage_of_wanted hwanted] at h
    cases hm : r.message? g c parts with
    | none =>
      rw [hm] at h
      cases h
    | some m =>
      rw [hm] at h
      exact .inr ⟨m, rfl, rfl, (Except.ok.inj h).symm⟩

theorem addMessage_places {call : OpenCall} {parts : MessageParts}
    (h : r.addMessage g call parts = .ok r') :
    r'.phase = r.phase ∧
      (r'.places = r.places ∨ r'.places = r.places ++ [⟨g.file, g.firstLine + call.row⟩]) := by
  unfold addMessage at h
  split at h
  · cases h
    exact ⟨rfl, .inl rfl⟩
  · dsimp only at h
    split at h
    · cases h
    · cases h
      exact ⟨rfl, .inr (by simp [places])⟩

theorem bare_of_message? {c : OpenCall} {parts : MessageParts} {m : Message}
    (h : r.message? g c parts = some m) :
    bare m = MarkedCall.message g.file g.firstLine ⟨c.row, parts⟩ := by
  unfold message? at h
  obtain ⟨flags, -, rfl⟩ := Option.map_eq_some_iff.mp h
  rfl

theorem closeCall_of_parts? {c : OpenCall} {parts : MessageParts} (h : c.parts? = some parts)
    (g : Reading) (r : Reader) :
    r.closeCall g c = { r with phase := .idle }.addMessage g c parts := by
  unfold OpenCall.parts? at h
  unfold closeCall
  cases hkeyword : c.keyword with
  | some keyword =>
    rw [hkeyword] at h
    dsimp only at h ⊢
    cases hpick : keyword.pick c.arguments with
    | ok picked =>
      rw [hpick] at h
      cases h
      rfl
    | error fault =>
      rw [hpick] at h
      cases h
  | none =>
    rw [hkeyword] at h
    dsimp only at h ⊢
    cases hstring : translationString c.arguments with
    | none =>
      rw [hstring] at h
      cases h
    | some inner =>
      rw [hstring] at h
      cases h
      rfl

theorem closeCall_of_refusal {c : OpenCall} (h : c.parts? = none) (g : Reading) (r : Reader) :
    r.closeCall g c = (c.refusal g.file g.firstLine).map fun lines =>
      { r with phase := .idle, warnings := r.warnings ++ lines } := by
  unfold OpenCall.parts? at h
  unfold closeCall OpenCall.refusal
  cases hkeyword : c.keyword with
  | some keyword =>
    rw [hkeyword] at h
    dsimp only at h ⊢
    cases hpick : keyword.pick c.arguments with
    | ok picked =>
      rw [hpick] at h
      cases h
    | error fault => rfl
  | none =>
    rw [hkeyword] at h
    dsimp only at h ⊢
    cases hstring : translationString c.arguments with
    | none => rfl
    | some inner =>
      rw [hstring] at h
      cases inner with
      | some parts => cases h
      | none =>
        change Except.ok _ = .ok { r with phase := .idle, warnings := r.warnings ++ [] }
        rw [List.append_nil]

theorem closeCall_places {c : OpenCall} (h : r.closeCall g c = .ok r') :
    r'.phase = .idle ∧
      (r'.places = r.places ∨ r'.places = r.places ++ [⟨g.file, g.firstLine + c.row⟩]) := by
  cases hparts : c.parts? with
  | some parts =>
    rw [closeCall_of_parts? hparts] at h
    exact addMessage_places h
  | none =>
    rw [closeCall_of_refusal hparts] at h
    obtain ⟨lines, -, rfl⟩ := exists_of_map_eq_ok h
    exact ⟨rfl, .inl rfl⟩

theorem partText_of_pick {k : Keyword} {args : List Argument} {parts : MessageParts}
    (h : k.pick args = .ok parts) : partText args .text (some k.text) = .ok parts.text := by
  unfold Keyword.pick at h
  split at h
  · cases h
  · obtain ⟨domain, -, h⟩ := Except.bind_eq_ok h
    obtain ⟨text, htext, h⟩ := Except.bind_eq_ok h
    obtain ⟨plural, -, h⟩ := Except.bind_eq_ok h
    obtain ⟨context, -, h⟩ := Except.bind_eq_ok h
    cases h
    exact htext

/-- A translation string never gives an empty text. -/
theorem exists_text_of_translationString {args : List Argument} {parts : MessageParts}
    (h : translationString args = some (some parts)) :
    ∃ text, parts.text = some text ∧ text.isEmpty = false := by
  unfold translationString at h
  split at h
  · cases h
  · split at h
    · cases h
    · dsimp only at h
      split at h
      · cases h
      · split at h
        · cases h
        · rename_i hne
          cases h
          exact ⟨_, rfl, Bool.eq_false_iff.mpr hne⟩

theorem isSome_text_of_pick {k : Keyword} (hk : k.text ≠ 0) {args : List Argument}
    {parts : MessageParts} (h : k.pick args = .ok parts) : parts.text.isSome = true := by
  have htext := partText_of_pick h
  unfold partText at htext
  dsimp only at htext
  rw [if_neg hk] at htext
  split at htext
  · cases htext
  · split at htext
    · rw [← Except.ok.inj htext]
      rfl
    · cases htext

theorem isSome_text_of_parts? {c : OpenCall} (htext : c.HasText) {parts : MessageParts}
    (h : c.parts? = some parts) : parts.text.isSome = true := by
  unfold OpenCall.parts? at h
  cases hkeyword : c.keyword with
  | some k =>
    rw [hkeyword] at h
    exact isSome_text_of_pick (htext k hkeyword) (toOption_eq_some_iff.mp h)
  | none =>
    rw [hkeyword] at h
    obtain ⟨text, htext, -⟩ := exists_text_of_translationString (Option.join_eq_some_iff.mp h)
    rw [htext]
    rfl

/-! ## Remarks -/

def held (pending : Option Pending) (text : Remark) (row : Nat) : Pending :=
  match pending with
  | some p =>
      if p.row + 1 = row then
        ⟨row, ⟨text.flags ++ p.remark.flags, p.remark.text ++ " " ++ text.text⟩⟩
      else ⟨row, text⟩
  | none => ⟨row, text⟩

theorem remark_of_last {before : List Message} {last : Message} {row : Nat}
    (hmessages : r.messages = before ++ [last]) (hline : last.location.line = g.firstLine + row)
    (text : Remark) :
    r.remark g text row = { r with
      messages := before ++ [{ last with comment := joinComments last.comment text.text }] } := by
  unfold remark
  rw [hmessages, List.getLast?_concat, List.dropLast_concat]
  exact if_pos hline

theorem remark_of_apart {row : Nat}
    (h : ∀ m, r.messages.getLast? = some m → m.location.line ≠ g.firstLine + row) (text : Remark) :
    r.remark g text row = { r with pending := some (held r.pending text row) } := by
  unfold remark
  extract_lets keep
  have hkeep : keep = { r with pending := some (held r.pending text row) } := by
    unfold keep held
    cases r.pending with
    | none => rfl
    | some p =>
      dsimp only
      split <;> rfl
  split
  · rename_i last hlast
    rw [if_neg (h last hlast), hkeep]
  · exact hkeep

theorem remark_cases (g : Reading) (r : Reader) (row : Nat) :
    (∃ before last, r.messages = before ++ [last] ∧ last.location.line = g.firstLine + row) ∨
      ∀ m, r.messages.getLast? = some m → m.location.line ≠ g.firstLine + row := by
  by_cases h : ∀ m, r.messages.getLast? = some m → m.location.line ≠ g.firstLine + row
  · exact .inr h
  · simp only [Classical.not_forall, Decidable.not_not] at h
    obtain ⟨last, hlast, hline⟩ := h
    obtain ⟨before, hmessages⟩ := List.getLast?_eq_some_iff.mp hlast
    exact .inl ⟨before, last, hmessages, hline⟩

theorem remark_keeps (g : Reading) (r : Reader) (text : Remark) (row : Nat) :
    (r.remark g text row).phase = r.phase ∧ (r.remark g text row).places = r.places := by
  unfold remark
  extract_lets keep
  have hkeep : keep.phase = r.phase ∧ keep.places = r.places := by
    unfold keep
    split
    · split <;> exact ⟨rfl, rfl⟩
    · exact ⟨rfl, rfl⟩
  split
  · rename_i last hlast
    split
    · -- Only the comment of the last message is changed.
      obtain ⟨before, hmessages⟩ := List.getLast?_eq_some_iff.mp hlast
      refine ⟨rfl, ?_⟩
      simp [places, hmessages]
    · exact hkeep
  · exact hkeep

theorem comment_keeps (g : Reading) (r : Reader) (t : Token) :
    (r.comment g t).phase = r.phase ∧ (r.comment g t).places = r.places := by
  unfold comment
  split
  · exact remark_keeps g r _ _
  · exact ⟨rfl, rfl⟩

/-! ## Tokens -/

theorem step_of_comment (hkind : t.kind = .comment) (hheeds : r.phase.heeds = true) :
    r.step g t = .ok ({ r with phase := r.phase.settled }.comment g t) := by
  have hoperator (text : String) : t.isOperator text = false := by simp [Token.isOperator, hkind]
  obtain ⟨phase, pending, messages, warnings⟩ := r
  cases phase with
  | group => cases hheeds
  | name c name row => simp [step, afterName, hoperator, dispatch, hkind, Phase.settled]
  | _ => simp [step, dispatch, hkind, Phase.settled]

/-- The token that ends a call closes it. -/
theorem step_of_ended {c : OpenCall} (h : r.phase.ended? t = some c) :
    r.step g t = r.closeCall g c := by
  unfold Phase.ended? at h
  split at h
  · rename_i hclosing
    have hkind : t.kind = .operator := by
      simp only [Token.isOperator, Bool.and_eq_true, beq_iff_eq] at hclosing
      exact hclosing.1
    have htext : t.text = ")" := by
      simp only [Token.isOperator, Bool.and_eq_true, beq_iff_eq] at hclosing
      exact hclosing.2
    have hstring : (TokenKind.operator == TokenKind.string) = false := rfl
    split at h
    · rename_i call hphase
      cases h
      simp [step, hphase, dispatch, handle, inCall, hkind, htext, closeCall, hstring]
    · rename_i call name row hphase
      cases h
      simp [step, hphase, afterName, dispatch, handle, inCall, hkind, htext, closeCall, hstring,
        Token.isOperator]
    · cases h
  · cases h

/-- A step that only moves a reader on: to this phase, or to this fault. It reads no call but the
one that the reader is in, if any, or one whose name is on the row of the token and is looked up
among the keywords. The brackets of a call are not left. -/
structure Moves (keywords : KeywordTable) (p : Phase) (row : Nat)
    (f : Reading → Reader → Except ReadFault Reader) (next : Except ReadFault Phase) : Prop where
  eq : ∀ g r, g.keywords = keywords → r.phase = p →
    f g r = next.map fun p' => { r with phase := p' }
  head : ∀ p', next = .ok p' → ∀ h, p'.head? = some h → p.head? = some h ∨
    ∃ name, h = (keywords.get? name, row)
  goes : ∀ p', next = .ok p' → ∀ k, p.callRow? = some k → p'.callRow? = some k

theorem row?_eq_some_iff {p : Phase} {k : Nat} :
    p.row? = some k ↔ ∃ found, p.head? = some (found, k) := by
  cases p <;> simp [Phase.row?, Phase.head?]

theorem Moves.row {keywords : KeywordTable} {p p' : Phase} {here : Nat}
    {f : Reading → Reader → Except ReadFault Reader} {next : Except ReadFault Phase}
    (hf : Moves keywords p here f next) (hp' : next = .ok p') (k : Nat) (hk : p'.row? = some k) :
    p.row? = some k ∨ k = here := by
  obtain ⟨found, hhead⟩ := row?_eq_some_iff.mp hk
  rcases hf.head p' hp' _ hhead with hsame | ⟨name, hnew⟩
  · exact .inl (row?_eq_some_iff.mpr ⟨found, hsame⟩)
  · exact .inr (congrArg Prod.snd hnew)

variable {keywords : KeywordTable} {p : Phase} {row : Nat}

theorem Moves.ok {f : Reading → Reader → Except ReadFault Reader} (p' : Phase)
    (hf : ∀ g r, g.keywords = keywords → r.phase = p → f g r = .ok { r with phase := p' })
    (hhead : ∀ h, p'.head? = some h → p.head? = some h ∨ ∃ name, h = (keywords.get? name, row))
    (hgoes : ∀ k, p.callRow? = some k → p'.callRow? = some k) : Moves keywords p row f (.ok p') :=
  ⟨hf, by rintro _ ⟨⟩; exact hhead, by rintro _ ⟨⟩; exact hgoes⟩

theorem Moves.within {f : Reading → Reader → Except ReadFault Reader} (p' : Phase)
    (hf : ∀ g r, g.keywords = keywords → r.phase = p → f g r = .ok { r with phase := p' })
    (hhead : p'.head? = p.head?) (hrow : p'.callRow? = p.callRow?) :
        Moves keywords p row f (.ok p') :=
  .ok p' hf (fun _ hh => .inl (hhead ▸ hh)) fun _ hk => hrow ▸ hk

theorem Moves.stay {f : Reading → Reader → Except ReadFault Reader}
    (hf : ∀ g r, g.keywords = keywords → r.phase = p → f g r = .ok r) :
    Moves keywords p row f (.ok p) := by
  refine .within p ?_ rfl rfl
  intro g r hg hr
  rw [hf g r hg hr, ← hr]

theorem Moves.error {f : Reading → Reader → Except ReadFault Reader} (fault : ReadFault)
    (hf : ∀ g r, g.keywords = keywords → r.phase = p → f g r = .error fault) :
    Moves keywords p row f (.error fault) :=
  ⟨hf, by rintro _ ⟨⟩, by rintro _ ⟨⟩⟩

theorem Moves.congr {f f' : Reading → Reader → Except ReadFault Reader}
    {next : Except ReadFault Phase}
    (hf : Moves keywords p row f next) (hsame : ∀ g r, r.phase = p → f' g r = f g r) :
    Moves keywords p row f' next :=
  ⟨fun g r hg hr => (hsame g r hr).trans (hf.eq g r hg hr), hf.head, hf.goes⟩

theorem stringInCall_keeps {call call' : OpenCall} (h : stringInCall call t = .ok call') :
    call'.keyword = call.keyword ∧ call'.row = call.row := by
  unfold stringInCall at h
  cases hvalue : literalValue t.text with
  | error fault =>
    rw [hvalue] at h
    cases h
  | ok value =>
    rw [hvalue] at h
    dsimp only [bind, Except.bind] at h
    split at h
    · split at h
      · cases h
      · cases h
        exact ⟨rfl, rfl⟩
    · cases h
      exact ⟨rfl, rfl⟩

theorem exists_moves_inCall (keywords : KeywordTable) {call : OpenCall}
    (hhead : some (call.keyword, call.row) = p.head?) (hrow : some call.row = p.callRow?)
    (hclosing : t.isOperator ")" = false) :
    ∃ next, Moves keywords p t.row (fun g r => r.inCall g call t) next := by
  unfold inCall
  cases hkind : t.kind with
  | operator =>
    have hclose : t.text ≠ ")" := by simpa [Token.isOperator, hkind] using hclosing
    dsimp only
    simp only [if_neg hclose]
    by_cases hcomma : t.text = ","
    · simp only [if_pos hcomma]
      by_cases hargument : call.inArgument = true
      · exact ⟨_, .within (.call _) (fun g r _ _ => if_pos hargument) hhead hrow⟩
      · exact ⟨_, .error _ fun g r _ _ => if_neg hargument⟩
    · simp only [if_neg hcomma]
      by_cases hpoint : t.text = "."
      · exact ⟨_, .within (.call _) (fun g r _ _ => if_pos hpoint) hhead hrow⟩
      · simp only [if_neg hpoint]
        cases Bracket.opened? t with
        | some bracket =>
          exact ⟨_, .within (.group _ bracket 1 t.row) (fun _ _ _ _ => rfl) hhead hrow⟩
        | none => exact ⟨_, .error _ fun _ _ _ _ => rfl⟩
  | string =>
    dsimp only
    cases hcall :
      stringInCall { call with inString := call.inString && TokenKind.string == .string } t with
    | ok call' =>
      obtain ⟨hkeyword, hsame⟩ := stringInCall_keeps hcall
      refine ⟨_, .within (.call call') (fun _ _ _ _ => rfl) (Eq.trans ?_ hhead) (Eq.trans ?_ hrow)⟩
      · rw [Phase.head?, hkeyword, hsame]
      · rw [Phase.callRow?, hsame]
    | error fault => exact ⟨_, .error fault fun _ _ _ _ => rfl⟩
  | number =>
    dsimp only
    by_cases hargument : call.inArgument = true
    · exact ⟨_, .error _ fun _ _ _ _ => by rw [if_pos hargument]; rfl⟩
    · simp only [if_neg hargument]
      cases literalValue t.text with
      | ok value => exact ⟨_, .within (.call _) (fun _ _ _ _ => rfl) hhead hrow⟩
      | error fault => exact ⟨_, .error fault fun _ _ _ _ => rfl⟩
  | name => exact ⟨_, .within (.name _ t.text t.row) (fun _ _ _ _ => rfl) hhead hrow⟩
  | comment | breakOnly | newline | indent | dedent | stray | finish =>
    exact ⟨_, .error _ fun _ _ _ _ => rfl⟩

theorem exists_moves_inGroup (keywords : KeywordTable) (call : OpenCall) (bracket : Bracket)
    (depth start : Nat) (t : Token) :
    ∃ next, Moves keywords (.group call bracket depth start) t.row
      (fun _ r => r.inGroup call bracket depth start t) next := by
  unfold inGroup
  dsimp only
  by_cases hopening : t.isOperator bracket.opening = true
  · exact ⟨_, .within (.group call bracket (depth + 1) start)
      (fun _ _ _ _ => if_pos hopening) rfl rfl⟩
  · simp only [if_neg hopening]
    by_cases hclosing : t.isOperator bracket.closing = true
    · simp only [if_pos hclosing]
      by_cases hdepth : depth ≤ 1
      · exact ⟨_, .within (.call (call.add .other start)) (fun _ _ _ _ => if_pos hdepth) rfl rfl⟩
      · exact ⟨_, .within (.group call bracket (depth - 1) start)
          (fun _ _ _ _ => if_neg hdepth) rfl rfl⟩
    · simp only [if_neg hclosing]
      cases t.kind with
      | finish => exact ⟨_, .error _ fun _ _ _ _ => rfl⟩
      | dedent => exact ⟨_, .error _ fun _ _ _ _ => rfl⟩
      | name | number | string | operator | comment | breakOnly | newline | indent | stray =>
        exact ⟨_, .stay fun _ _ _ _ => rfl⟩

theorem exists_moves_handle (keywords : KeywordTable) (h : p.ended? t = none) :
    ∃ next, Moves keywords p t.row (fun g r => r.handle g t) next := by
  unfold handle
  cases p with
  | idle =>
    by_cases hmarks : (decide (t.kind = .name) && ((keywords.get? t.text).isSome || t.text = "_")) =
      true
    · refine ⟨_, .ok (.keyword (keywords.get? t.text) t.row) ?_
        (fun _ hh => .inr ⟨t.text, (Option.some.inj hh).symm⟩) nofun⟩
      intro g r hg hr
      simp only [hr, hg]
      exact if_pos hmarks
    · by_cases hdef : (decide (t.kind = .name) && decide (t.text = "def")) = true
      · refine ⟨_, .within .definition ?_ rfl rfl⟩
        intro g r hg hr
        simp only [hr, hg, if_neg hmarks]
        exact if_pos hdef
      · refine ⟨_, .stay ?_⟩
        intro g r hg hr
        simp only [hr, hg, if_neg hmarks]
        exact if_neg hdef
  | definition => exact ⟨_, .within .idle (fun g r _ hr => by simp only [hr]) rfl rfl⟩
  | keyword keyword row =>
    by_cases hbracket : t.isOperator "(" = true
    · refine ⟨_, .ok (.call { keyword, row }) ?_ (fun _ hh => .inl hh) nofun⟩
      intro g r _ hr
      simp only [hr]
      exact if_pos hbracket
    · refine ⟨_, .ok .idle ?_ nofun nofun⟩
      intro g r _ hr
      simp only [hr]
      exact if_neg hbracket
  | call call =>
    have hclosing : t.isOperator ")" = false := by
      cases hc : t.isOperator ")" with
      | false => rfl
      | true => simp [Phase.ended?, hc] at h
    obtain ⟨next, hnext⟩ := exists_moves_inCall (p := .call call) keywords rfl rfl hclosing
    exact ⟨next, hnext.congr fun g r hr => by simp only [hr]⟩
  | name call name row =>
    have hclosing : t.isOperator ")" = false := by
      cases hc : t.isOperator ")" with
      | false => rfl
      | true => simp [Phase.ended?, hc] at h
    obtain ⟨next, hnext⟩ := exists_moves_inCall (p := .name call name row) keywords rfl rfl hclosing
    exact ⟨next, hnext.congr fun g r hr => by simp only [hr]⟩
  | group call bracket depth row =>
    obtain ⟨next, hnext⟩ := exists_moves_inGroup keywords call bracket depth row t
    exact ⟨next, hnext.congr fun g r hr => by simp only [hr]⟩

theorem exists_moves_dispatch (keywords : KeywordTable) (hcomment : t.kind ≠ .comment)
    (h : p.ended? t = none) :
    ∃ next, Moves keywords p t.row (fun g r => r.dispatch g t) next := by
  obtain ⟨next, hnext⟩ := exists_moves_handle keywords h
  unfold dispatch
  cases hkind : t.kind with
  | comment => exact absurd hkind hcomment
  | indent | dedent | newline | breakOnly => exact ⟨_, .stay fun _ _ _ _ => rfl⟩
  | name | number | string | operator | stray | finish => exact ⟨next, hnext⟩

theorem Moves.after {f : Reading → Reader → Except ReadFault Reader} {next : Except ReadFault Phase}
    {p' : Phase} (hf : Moves keywords p' row f next) (hhead : p'.head? = p.head?)
    (hrow : p'.callRow? = p.callRow?) :
    Moves keywords p row (fun g r => f g { r with phase := p' }) next :=
  ⟨fun g r hg _ => hf.eq g { r with phase := p' } hg rfl, fun q hq h hh =>
    hhead ▸ hf.head q hq h hh,
    fun q hq k hk => hf.goes q hq k (hrow ▸ hk)⟩

/-- A token that neither ends a call nor is a comment to look at only moves the reader on. -/
theorem exists_moves_step (keywords : KeywordTable) (hcomment : t.kind = .comment → p.heeds = false)
    (h : p.ended? t = none) :
    ∃ next, Moves keywords p t.row (fun g r => r.step g t) next := by
  have hdispatch (hheeds : p.heeds = true) (hstep : ∀ (g : Reading) (r : Reader), r.phase = p →
      r.step g t = r.dispatch g t) : ∃ next,
          Moves keywords p t.row (fun g r => r.step g t) next := by
    have hkind : t.kind ≠ .comment := by
      intro hkind
      rw [hcomment hkind] at hheeds
      cases hheeds
    obtain ⟨next, hnext⟩ := exists_moves_dispatch keywords hkind h
    exact ⟨next, hnext.congr hstep⟩
  cases p with
  | idle | definition | keyword | call =>
    exact hdispatch rfl fun g r hr => by simp only [step, hr]
  | group call bracket depth row =>
    obtain ⟨next, hnext⟩ := exists_moves_inGroup keywords call bracket depth row t
    exact ⟨next, hnext.congr fun g r hr => by simp only [step, hr]⟩
  | name call name row =>
    have hkind : t.kind ≠ .comment := fun hkind => nomatch hcomment hkind
    have hclosing : t.isOperator ")" = false := by
      cases hc : t.isOperator ")" with
      | false => rfl
      | true => simp [Phase.ended?, hc] at h
    -- After a name the token is looked at again, as one in the call.
    have hopen (c : OpenCall) (hhead : (Phase.call c).head? = (Phase.name call name row).head?)
        (hrow : (Phase.call c).callRow? = (Phase.name call name row).callRow?) :
        ∃ next, Moves keywords (.name call name row) t.row
          (fun g r => { r with phase := .call c }.dispatch g t) next := by
      have hended : (Phase.call c).ended? t = none := by simp [Phase.ended?, hclosing]
      obtain ⟨next, hnext⟩ := exists_moves_dispatch keywords hkind hended
      exact ⟨next, hnext.after hhead hrow⟩
    suffices hafter : ∃ next, Moves keywords (.name call name row) t.row
        (fun g r => r.afterName g call name row t) next by
      obtain ⟨next, hnext⟩ := hafter
      exact ⟨next, hnext.congr fun g r hr => by simp only [step, hr]⟩
    unfold afterName
    by_cases hcomma : (t.isOperator "," || t.isOperator ")") = true
    · simp only [if_pos hcomma]
      exact hopen _ rfl rfl
    · simp only [if_neg hcomma]
      by_cases hbracket : t.isOperator "(" = true
      · exact ⟨_, .within (.group call .round 1 row) (fun _ _ _ _ => if_pos hbracket) rfl rfl⟩
      · simp only [if_neg hbracket]
        by_cases hequals : t.isOperator "=" = true
        · simp only [if_pos hequals]
          by_cases hnamed : call.argumentName.isSome = true
          · exact ⟨_, .error _ fun _ _ _ _ => if_pos hnamed⟩
          · exact ⟨_, .within (.call { call with argumentName := some name })
              (fun _ _ _ _ => if_neg hnamed) rfl rfl⟩
        · simp only [if_neg hequals]
          exact hopen call rfl rfl

/-- The four things that a token may do. -/
theorem token_cases (p : Phase) (t : Token) :
    (t.kind = .comment ∧ p.heeds = true) ∨
      (∃ c parts, p.ended? t = some c ∧ c.parts? = some parts) ∨
      (∃ c, p.ended? t = some c ∧ c.parts? = none) ∨
      ((t.kind = .comment → p.heeds = false) ∧ p.ended? t = none) := by
  by_cases hcomment : t.kind = .comment ∧ p.heeds = true
  · exact .inl hcomment
  · cases hended : p.ended? t with
    | some c =>
      cases hparts : c.parts? with
      | some parts => exact .inr (.inl ⟨c, parts, rfl, hparts⟩)
      | none => exact .inr (.inr (.inl ⟨c, rfl, hparts⟩))
    | none =>
      refine .inr (.inr (.inr ⟨fun hkind => ?_, rfl⟩))
      cases hheeds : p.heeds with
      | false => rfl
      | true => exact absurd ⟨hkind, hheeds⟩ hcomment

theorem head?_settled : p.settled.head? = p.head? := by
  cases p <;> rfl

theorem head?_of_ended? {c : OpenCall} (h : p.ended? t = some c) :
    p.head? = some (c.keyword, c.row) := by
  unfold Phase.ended? at h
  split at h
  · split at h
    · cases h
      rfl
    · cases h
      rfl
    · cases h
  · cases h

theorem ended?_of_comment (hkind : t.kind = .comment) : p.ended? t = none := by
  simp [Phase.ended?, Token.isOperator, hkind]

theorem row?_of_callRow? {k : Nat} (h : p.callRow? = some k) : p.row? = some k := by
  cases p <;> first | exact h | cases h

/-- What a token does to the places of messages: nothing, where at most a call on its own row is
begun and the call that is being read goes on or is over; or it closes that call, whose message is
added. -/
theorem step_places (h : r.step g t = .ok r') :
    (r'.places = r.places ∧ (∀ k, r'.phase.row? = some k → r.phase.row? = some k ∨ k = t.row) ∧
        ∀ k, r.phase.callRow? = some k → r'.phase.callRow? = some k ∨ r'.phase = .idle) ∨
      ∃ k, r.phase.row? = some k ∧ r'.phase = .idle ∧ r'.places = r.places ++
        [⟨g.file, g.firstLine + k⟩] := by
  by_cases hcomment : t.kind = .comment ∧ r.phase.heeds = true
  · rw [step_of_comment hcomment.1 hcomment.2] at h
    cases h
    obtain ⟨hphase, hplaces⟩ := comment_keeps g { r with phase := r.phase.settled } t
    refine .inl ⟨hplaces, fun k hk => .inl ?_, fun k hk => .inl ?_⟩
    · rwa [hphase, row?_eq_some_iff, head?_settled, ← row?_eq_some_iff] at hk
    · rw [hphase, ← hk]
      cases r.phase <;> rfl
  · cases hended : r.phase.ended? t with
    | some c =>
      rw [step_of_ended hended] at h
      obtain ⟨hidle, hplaces | hplaces⟩ := closeCall_places h
      · refine .inl ⟨hplaces, fun k hk => ?_, fun _ _ => .inr hidle⟩
        rw [hidle] at hk
        cases hk
      · exact .inr ⟨c.row, row?_eq_some_iff.mpr ⟨c.keyword, head?_of_ended? hended⟩, hidle, hplaces⟩
    | none =>
      have hheeds : t.kind = .comment → r.phase.heeds = false := by simpa using hcomment
      obtain ⟨next, hnext⟩ := exists_moves_step g.keywords hheeds hended
      rw [hnext.eq g r rfl rfl] at h
      obtain ⟨p', hp', rfl⟩ := exists_of_map_eq_ok h
      exact .inl ⟨rfl, hnext.row hp', fun k hk => .inl (hnext.goes p' hp' k hk)⟩

end Reader

end Harvest.Source
