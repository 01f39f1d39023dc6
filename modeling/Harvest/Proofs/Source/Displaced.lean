import Harvest.Proofs.Source.ReaderRuns

/-!
# Readers of tokens that stand elsewhere

Which messages a reader finds does not depend on the rows of arguments, and the row of a call only
says where its message is. So a reader of the same tokens further down finds the same messages
further down. This is for readers that keep no comments; which comment goes to which message does
depend on rows.
-/

namespace Harvest

/-! ## Arguments without rows -/

def Argument.unrowed (a : Argument) : Argument := { a with row := 0 }

theorem argumentAt?_map (f : Argument → Argument) (args : List Argument) (place : Int) :
    argumentAt? (args.map f) place = (argumentAt? args place).map f := by
  unfold argumentAt?
  simp only [List.length_map, List.getElem?_map]
  generalize (if place - 1 < 0 then place - 1 + args.length else place - 1) = index
  split <;> rfl

theorem toOption_partText_unrowed (args : List Argument) (part : Part) (place : Option Int) :
    (partText (args.map Argument.unrowed) part place).toOption =
      (partText args part place).toOption := by
  unfold partText
  cases place with
  | none => rfl
  | some place =>
    dsimp only
    split
    · rfl
    · rw [argumentAt?_map]
      cases argumentAt? args place with
      | none => rfl
      | some a =>
        dsimp only [Option.map_some, Argument.unrowed]
        cases a.value <;> rfl

theorem toOption_pick_unrowed (k : Keyword) (args : List Argument) :
    (k.pick (args.map Argument.unrowed)).toOption = (k.pick args).toOption := by
  unfold Keyword.pick
  rw [List.length_map]
  split
  · rfl
  · simp only [toOption_bind, toOption_partText_unrowed]

theorem namedText?_unrowed (args : List Argument) (name : String) :
    namedText? (args.map Argument.unrowed) name = namedText? args name := by
  have hnamed : ((fun a : Argument => a.name == some name) ∘ Argument.unrowed) =
      fun a => a.name == some name := rfl
  unfold namedText?
  rw [← List.map_reverse, List.find?_map, hnamed]
  cases args.reverse.find? (fun a => a.name == some name) <;> rfl

theorem translationString_unrowed (args : List Argument) :
    translationString (args.map Argument.unrowed) = translationString args := by
  have hunnamed : (args.map Argument.unrowed).filter (·.name.isNone) =
      (args.filter (·.name.isNone)).map Argument.unrowed := List.filter_map
  unfold translationString
  rw [List.isEmpty_map, hunnamed]
  simp only [namedText?_unrowed]
  cases args.filter (·.name.isNone) with
  | nil => rfl
  | cons first more =>
    have hsecond : ((more.map Argument.unrowed)[1]?).bind (·.value.text?) =
        (more[1]?).bind (·.value.text?) := by
      rw [List.getElem?_map]
      cases more[1]? <;> rfl
    simp only [List.map_cons, hsecond]
    rfl

namespace Source

/-! ## The same further down -/

def Token.shift (t : Token) (k : Nat) : Token := { t with row := t.row + k }

/-- The second call has been read as far as the first and is `k` rows further down. Its arguments
may stand on any rows. -/
structure OpenCall.Alike (k : Nat) (c d : OpenCall) : Prop where
  keyword : d.keyword = c.keyword
  row : d.row = c.row + k
  arguments : d.arguments.map Argument.unrowed = c.arguments.map Argument.unrowed
  argumentName : d.argumentName = c.argumentName
  inArgument : d.inArgument = c.inArgument
  inString : d.inString = c.inString

inductive Phase.Alike (k : Nat) : Phase → Phase → Prop
  | idle : Alike k .idle .idle
  | definition : Alike k .definition .definition
  | keyword (keyword : Option Keyword) (row : Nat) :
      Alike k (.keyword keyword row) (.keyword keyword (row + k))
  | call {c d : OpenCall} (h : c.Alike k d) : Alike k (.call c) (.call d)
  | name {c d : OpenCall} (h : c.Alike k d) (name : String) (row : Nat) :
      Alike k (.name c name row) (.name d name (row + k))
  | group {c d : OpenCall} (h : c.Alike k d) (bracket : Bracket) (depth row row' : Nat) :
      Alike k (.group c bracket depth row) (.group d bracket depth row')

namespace OpenCall

variable {k : Nat} {c d : OpenCall}

theorem Alike.parts? (h : c.Alike k d) : d.parts? = c.parts? := by
  have hpick (keyword : Keyword) :
      (keyword.pick d.arguments).toOption = (keyword.pick c.arguments).toOption := by
    rw [← toOption_pick_unrowed, h.arguments, toOption_pick_unrowed]
  have hstring : translationString d.arguments = translationString c.arguments := by
    rw [← translationString_unrowed, h.arguments, translationString_unrowed]
  unfold OpenCall.parts?
  rw [h.keyword, hstring]
  cases c.keyword with
  | some keyword => exact hpick keyword
  | none => rfl

theorem Alike.refusal (h : c.Alike k d) (file file' : String) (firstLine firstLine' : Int) :
    (∃ lines lines', c.refusal file firstLine = .ok lines ∧
    d.refusal file' firstLine' = .ok lines') ∨
      ∃ cause, c.refusal file firstLine = .error (.failure cause) ∧
        d.refusal file' firstLine' = .error (.failure cause) := by
  have hstring : translationString d.arguments = translationString c.arguments := by
    rw [← translationString_unrowed, h.arguments, translationString_unrowed]
  unfold OpenCall.refusal
  rw [h.keyword, hstring]
  cases c.keyword with
  | some keyword =>
    left
    dsimp only
    cases keyword.pick c.arguments <;> cases keyword.pick d.arguments <;> exact ⟨_, _, rfl, rfl⟩
  | none =>
    cases translationString c.arguments with
    | none => exact .inr ⟨_, rfl, rfl⟩
    | some parts => exact .inl ⟨_, _, rfl, rfl⟩

theorem Alike.add (h : c.Alike k d) (value : ArgumentValue) (row row' : Nat) :
    (c.add value row).Alike k (d.add value row') := by
  refine ⟨h.keyword, h.row, ?_, rfl, h.inArgument, h.inString⟩
  unfold OpenCall.add
  rw [List.map_append, List.map_append, h.arguments, h.argumentName]
  rfl

theorem Alike.withInArgument (h : c.Alike k d) (inArgument : Bool) :
    OpenCall.Alike k { c with inArgument } { d with inArgument } :=
  ⟨h.keyword, h.row, h.arguments, h.argumentName, rfl, h.inString⟩

theorem Alike.withInString (h : c.Alike k d) (inString : Bool) :
    OpenCall.Alike k { c with inString } { d with inString } :=
  ⟨h.keyword, h.row, h.arguments, h.argumentName, h.inArgument, rfl⟩

end OpenCall

namespace Reader

/-- The second reader is as far as the first, `k` rows further down, and has found `earlier`
messages before. -/
structure Alike (k : Nat) (earlier : List Message) (r q : Reader) : Prop where
  phase : r.phase.Alike k q.phase
  pending : r.pending = none
  pending' : q.pending = none
  messages : q.messages = earlier ++ r.messages

abbrev AlikeStep (k : Nat) (earlier : List Message) :
    Except ReadFault Reader → Except ReadFault Reader → Prop :=
  Matched k (Reader.Alike k earlier)

variable {k : Nat} {earlier : List Message} {g : Reading} {r q : Reader}
    {c d : OpenCall} {t : Token}

theorem Alike.at (h : r.Alike k earlier q) {p p' : Phase} (hp : p.Alike k p') :
    Reader.Alike k earlier { r with phase := p } { q with phase := p' } :=
  ⟨hp, h.pending, h.pending', h.messages⟩

theorem Alike.ok (h : r.Alike k earlier q) {p p' : Phase} (hp : p.Alike k p') :
    AlikeStep k earlier (.ok { r with phase := p }) (.ok { q with phase := p' }) :=
  .ok (h.at hp)

theorem Alike.message? (h : r.Alike k earlier q) (hc : c.Alike k d) (parts : MessageParts) :
    q.message? g d parts = r.message? (g.below k) c parts := by
  have hrow : g.firstLine + (c.row + k : Nat) = g.firstLine + k + c.row := by
    rw [Int.natCast_add]
    omega
  unfold Reader.message? remarkFor Reading.below
  simp only [h.pending, h.pending', hc.row, hrow]

/-- A call that is closed gives the same message further down, or the same fault. -/
theorem Alike.closeCall (h : r.Alike k earlier q) (hc : c.Alike k d) :
    AlikeStep k earlier (r.closeCall (g.below k) c) (q.closeCall g d) := by
  have hidle : Reader.Alike k earlier { r with phase := .idle } { q with phase := .idle } :=
    h.at .idle
  cases hparts : c.parts? with
  | some parts =>
    rw [closeCall_of_parts? hparts, closeCall_of_parts? (hc.parts?.trans hparts)]
    cases hwanted : wantsDomain g.options parts.domain with
    | false =>
      rw [addMessage_of_unwanted hwanted, addMessage_of_unwanted (g := g.below k) hwanted]
      exact .ok hidle
    | true =>
      rw [addMessage_of_wanted hwanted, addMessage_of_wanted (g := g.below k) hwanted,
        hidle.message? hc]
      cases Reader.message? (g.below k) { r with phase := .idle } c parts with
      | none => exact .error (.failure .noText)
      | some m =>
        refine .ok ⟨.idle, h.pending, h.pending', ?_⟩
        change q.messages ++ [m] = earlier ++ (r.messages ++ [m])
        rw [h.messages, List.append_assoc]
  | none =>
    rw [closeCall_of_refusal hparts, closeCall_of_refusal (hc.parts?.trans hparts)]
    rcases hc.refusal (g.below k).file g.file (g.below k).firstLine g.firstLine with
      ⟨lines, lines', hlines, hlines'⟩ | ⟨cause, hcause, hcause'⟩
    · rw [hlines, hlines']
      exact .ok ⟨.idle, h.pending, h.pending', h.messages⟩
    · rw [hcause, hcause']
      exact .error (.failure cause)

theorem literalValue_matched (k : Nat) (text : String) :
    Matched k Eq (literalValue text) (literalValue text) := by
  unfold literalValue
  split
  · exact .error (.failure _)
  all_goals exact .ok rfl

theorem joinValues_matched (k : Nat) (a b : ArgumentValue) :
    Matched k Eq (joinValues a b) (joinValues a b) := by
  unfold joinValues
  split
  · exact .ok rfl
  · exact .ok rfl
  · exact .error (.failure .mixedStrings)

theorem arguments_alike (hc : c.Alike k d) :
    (c.arguments = [] ∧ d.arguments = []) ∨
      ∃ as a bs b, c.arguments = as ++ [a] ∧ d.arguments = bs ++ [b] ∧
        bs.map Argument.unrowed = as.map Argument.unrowed ∧ b.unrowed = a.unrowed := by
  have harguments := hc.arguments
  rcases List.eq_nil_or_concat c.arguments with hnil | ⟨as, a, ha⟩
  · rw [hnil, List.map_nil, List.map_eq_nil_iff] at harguments
    exact .inl ⟨hnil, harguments⟩
  · rcases List.eq_nil_or_concat d.arguments with hnil' | ⟨bs, b, hb⟩
    · rw [hnil', List.map_nil, eq_comm, List.map_eq_nil_iff] at harguments
      rw [harguments] at ha
      simp at ha
    · rw [List.concat_eq_append] at ha hb
      rw [ha, hb, List.map_append, List.map_append] at harguments
      obtain ⟨hinit, hlast⟩ := List.append_inj' harguments rfl
      exact .inr ⟨as, a, bs, b, ha, hb, hinit, (List.cons.inj hlast).1⟩

theorem stringInCall_alike (hc : c.Alike k d) (t : Token) :
    Matched k (OpenCall.Alike k) (stringInCall c t) (stringInCall d (t.shift k)) := by
  unfold stringInCall
  refine (literalValue_matched k t.text).bind ?_
  rintro value _ rfl
  have hnew : OpenCall.Alike k { c.add value t.row with inArgument := true, inString := true }
      { d.add value (t.shift k).row with inArgument := true, inString := true } :=
    ((hc.add value t.row (t.shift k).row).withInArgument true).withInString true
  rw [hc.inString]
  rcases arguments_alike hc with ⟨hnil, hnil'⟩ | ⟨as, a, bs, b, ha, hb, hinit, hlast⟩
  · rw [hnil, hnil']
    cases c.inString <;> exact .ok hnew
  · rw [ha, hb, List.getLast?_concat, List.getLast?_concat]
    cases c.inString with
    | false => exact .ok hnew
    | true =>
      have hvalue : b.unrowed.value = a.unrowed.value := congrArg Argument.value hlast
      have hname : b.unrowed.name = a.unrowed.name := congrArg Argument.name hlast
      dsimp only [Argument.unrowed] at hvalue hname ⊢
      rw [hvalue]
      refine (joinValues_matched k a.value value).bind ?_
      rintro joined _ rfl
      refine .ok ⟨hc.keyword, hc.row, ?_, hc.argumentName, hc.inArgument, rfl⟩
      rw [List.dropLast_concat, List.dropLast_concat, List.map_append, List.map_append, hinit]
      simp only [List.map_cons, List.map_nil, Argument.unrowed, hname]

/-! ## Steps -/

theorem Alike.inCall (h : r.Alike k earlier q) (hc : c.Alike k d) (t : Token) :
    AlikeStep k earlier (r.inCall (g.below k) c t) (q.inCall g d (t.shift k)) := by
  obtain ⟨kind, text, row, column⟩ := t
  have hset (more : Bool) : OpenCall.Alike k { c with inString := c.inString && more }
      { d with inString := d.inString && more } := by
    rw [hc.inString]
    exact hc.withInString _
  have hunexpected (what : String) : AlikeStep k earlier (.error (.unexpected what row))
      (.error (.unexpected what (row + k))) := .error (.unexpected what row)
  have hargument : d.inArgument = true ↔ c.inArgument = true := by rw [hc.inArgument]
  change AlikeStep k earlier _ (q.inCall g d ⟨kind, text, row + k, column⟩)
  unfold Reader.inCall
  cases kind with
  | operator =>
    refine .ite Iff.rfl (h.closeCall (hset _))
      (.ite Iff.rfl ?_ (.ite Iff.rfl (h.ok (.call (hset _))) ?_))
    · exact .ite hargument (h.ok (.call ((hset _).withInArgument false))) (hunexpected _)
    · have hopened : Bracket.opened? ⟨.operator, text, row + k, column⟩ =
          Bracket.opened? ⟨.operator, text, row, column⟩ := rfl
      rw [hopened]
      cases Bracket.opened? ⟨.operator, text, row, column⟩ with
      | some bracket => exact h.ok (.group ((hset _).withInArgument true) bracket 1 _ _)
      | none => exact hunexpected _
  | string =>
    refine (stringInCall_alike (hset _) ⟨.string, text, row, column⟩).bind ?_
    intro c' d' hc'
    exact h.ok (.call hc')
  | number =>
    refine .ite hargument (hunexpected _) ((literalValue_matched k text).bind ?_)
    rintro value _ rfl
    exact h.ok (.call ((hset _).add value _ _))
  | name => exact h.ok (.name ((hset _).withInArgument true) text row)
  | comment | breakOnly | newline | indent | dedent | stray | finish => exact hunexpected _

theorem Alike.inGroup (h : r.Alike k earlier q) (hc : c.Alike k d) (bracket : Bracket)
    (depth row row' : Nat) (t : Token) :
    AlikeStep k earlier (r.inGroup c bracket depth row t)
      (q.inGroup d bracket depth row' (t.shift k)) := by
  unfold Reader.inGroup
  refine .ite Iff.rfl (h.ok (.group hc bracket (depth + 1) _ _))
    (.ite Iff.rfl (.ite Iff.rfl ?_ ?_) ?_)
  · exact h.ok (.call (hc.add .other _ _))
  · exact h.ok (.group hc bracket (depth - 1) _ _)
  · have hkind : (t.shift k).kind = t.kind := rfl
    rw [hkind]
    cases t.kind with
    | finish => exact .error (.unexpected "Unexpected end of file" t.row)
    | dedent => exact .error (.unexpected "Unexpected dedent" t.row)
    | name | number | string | operator | comment | breakOnly | newline | indent | stray =>
      exact .ok h

theorem Alike.handle (h : r.Alike k earlier q) (t : Token) :
    AlikeStep k earlier (r.handle (g.below k) t) (q.handle g (t.shift k)) := by
  have hphase := h.phase
  unfold Reader.handle
  generalize r.phase = p, q.phase = p' at hphase
  cases hphase with
  | idle => exact .ite Iff.rfl (h.ok (.keyword _ _)) (.ite Iff.rfl (h.ok .definition) (.ok h))
  | definition => exact h.ok .idle
  | keyword keyword row =>
    exact .ite Iff.rfl (h.ok (.call ⟨rfl, rfl, rfl, rfl, rfl, rfl⟩)) (h.ok .idle)
  | call hc => exact h.inCall hc t
  | name hc name row => exact h.inCall hc t
  | group hc bracket depth row row' => exact h.inGroup hc bracket depth row row' t

theorem Alike.refl (hpending : r.pending = none) : r.Alike 0 [] r := by
  have hcall (c : OpenCall) : c.Alike 0 c := ⟨rfl, rfl, rfl, rfl, rfl, rfl⟩
  refine ⟨?_, hpending, hpending, rfl⟩
  cases r.phase with
  | idle => exact .idle
  | definition => exact .definition
  | keyword keyword row => exact .keyword keyword row
  | call c => exact .call (hcall c)
  | name c name row => exact .name (hcall c) name row
  | group c bracket depth row => exact .group (hcall c) bracket depth row row

theorem comment_of_none (hnone : g.options.comments = .none) (r : Reader) (t : Token) :
    r.comment g t = r := by
  unfold Reader.comment commentText?
  rw [hnone]

variable (hnone : g.options.comments = .none)

include hnone

theorem Alike.dispatch (h : r.Alike k earlier q) (t : Token) :
    AlikeStep k earlier (r.dispatch (g.below k) t) (q.dispatch g (t.shift k)) := by
  have hhandle := h.handle (g := g) t
  have hkind : (t.shift k).kind = t.kind := rfl
  unfold Reader.dispatch
  rw [hkind]
  cases t.kind with
  | comment =>
    dsimp only
    rw [comment_of_none hnone, comment_of_none (g := g.below k) hnone]
    exact .ok h
  | indent | dedent | newline | breakOnly => exact .ok h
  | name | number | string | operator | stray | finish => exact hhandle

/-- One token keeps a reader and the one further down alike. -/
theorem Alike.step (h : r.Alike k earlier q) (t : Token) :
    AlikeStep k earlier (r.step (g.below k) t) (q.step g (t.shift k)) := by
  have hphase := h.phase
  have hdispatch := h.dispatch hnone t
  unfold Reader.step
  generalize r.phase = p, q.phase = p' at hphase
  cases hphase with
  | idle | definition | keyword | call => exact hdispatch
  | group hc bracket depth row row' => exact h.inGroup hc bracket depth row row' t
  | name hc name row =>
    unfold Reader.afterName
    refine .ite Iff.rfl ?_ (.ite Iff.rfl ?_ (.ite Iff.rfl (.ite ?_ ?_ ?_) ?_))
    · exact Alike.dispatch hnone (h.at (.call (hc.add .other _ _))) t
    · exact h.ok (.group hc .round 1 _ _)
    · rw [hc.argumentName]
    · exact .error (.unexpected _ _)
    · exact h.ok (.call ⟨hc.keyword, hc.row, hc.arguments, rfl, hc.inArgument, hc.inString⟩)
    · exact Alike.dispatch hnone (h.at (.call hc)) t

theorem Alike.step_zero (h : r.Alike 0 [] q) (t : Token) :
    AlikeStep 0 [] (r.step g t) (q.step g t) := by
  have hbelow : g.below (0 : Nat) = g := by simp [Reading.below]
  have hstep := h.step hnone t
  rwa [hbelow] at hstep

/-- Comments and layout only take the name before them out of sight. A dedent stops a reader inside
an argument in brackets. -/
theorem step_gap (ht : t.isGap = true) (hheeds : t.kind = .dedent → r.phase.heeds = true) :
    r.step g t = .ok { r with phase := r.phase.settled } := by
  have hkind : t.kind = .comment ∨ t.kind = .indent ∨ t.kind = .dedent ∨ t.kind = .newline ∨
      t.kind = .breakOnly := by
    simpa [Token.isGap, or_assoc] using ht
  have hoperator (text : String) : t.isOperator text = false := by
    rcases hkind with hkind | hkind | hkind | hkind | hkind <;> simp [Token.isOperator, hkind]
  have hdispatch (r : Reader) : r.dispatch g t = .ok r := by
    unfold dispatch
    rcases hkind with hkind | hkind | hkind | hkind | hkind
    · rw [hkind]
      exact congrArg Except.ok (comment_of_none hnone r t)
    all_goals rw [hkind]
  obtain ⟨phase, pending, messages, warnings⟩ := r
  unfold step
  cases phase with
  | idle | definition | keyword | call => exact hdispatch _
  | name c name row =>
    change Reader.afterName g _ c name row t = _
    unfold afterName
    simp only [hoperator, Bool.or_false, Bool.false_eq_true, if_false]
    exact hdispatch _
  | group c bracket depth row =>
    have hdedent : t.kind ≠ .dedent := fun h => Bool.false_ne_true (hheeds h)
    change Reader.inGroup _ c bracket depth row t = _
    unfold inGroup
    simp only [hoperator, Bool.false_eq_true, if_false]
    rcases hkind with hkind | hkind | hkind | hkind | hkind
    · rw [hkind]
      rfl
    · rw [hkind]
      rfl
    · exact absurd hkind hdedent
    all_goals
      rw [hkind]
      rfl

end Reader

end Source

end Harvest
