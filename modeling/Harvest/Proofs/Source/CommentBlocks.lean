import Harvest.Proofs.Source.CallSites
import Harvest.Proofs.Source.Succession

/-!
# Comments before a call

Comments on rows below each other wait for a call as one remark. The next call takes it over if it
stands on the row right below them, and otherwise none of it.
-/

namespace Harvest.Source

/-- What a comment says: its text without the hash and the blanks around it, and without flags. -/
def Token.remark (t : Token) : Remark :=
  .ofComment (String.ofList (Text.trim (t.text.toList.drop 1)))

/-- What comments below each other say: the flags of the last come first, and the texts follow each
other. -/
def together (comments : List Token) : Remark :=
  ⟨comments.reverse.flatMap (·.remark.flags), " ".intercalate (comments.map (·.remark.text))⟩

def comments (ts : List Token) : List Token := ts.filter (·.kind = .comment)

namespace Reader

def nextCall? (g : Reading) : Reader → List Token → Option (OpenCall × List Token)
  | _, [] => none
  | r, t :: ts =>
      match r.phase.ended? t with
      | some c => some (c, ts)
      | none =>
          match r.step g t with
          | .ok r' => nextCall? g r' ts
          | .error _ => none

variable {g : Reading} {r r' : Reader} {t : Token} {ts : List Token} {c : OpenCall}

/-! ## What a token does to remarks and messages -/

/-- What a token does to the remark that waits and to the messages. -/
inductive Effect (g : Reading) (t : Token) (r r' : Reader) : Prop
  | nothing (hmessages : r'.messages = r.messages) (hpending : r'.pending = r.pending)
  | message (m : Message) (hmessages : r'.messages = r.messages ++ [m])
      (hpending : r'.pending = r.pending)
  | keep (hkind : t.kind = .comment) (p : Pending) (hrow : p.row = t.row)
      (hmessages : r'.messages = r.messages) (hpending : r'.pending = some p)
  | trail (hkind : t.kind = .comment) (before : List Message) (last : Message) (text : String)
      (hlast : r.messages = before ++ [last]) (hline : last.location.line = g.firstLine + t.row)
      (hmessages : r'.messages = before ++ [{ last with comment := text }])
      (hpending : r'.pending = r.pending)

theorem row_held (pending : Option Pending) (text : Remark) (row : Nat) :
    (held pending text row).row = row := by
  unfold held
  split
  · split <;> rfl
  · rfl

theorem effect_step (h : r.step g t = .ok r') : Effect g t r r' := by
  rcases token_cases r.phase t with ⟨hkind, hheeds⟩ | ⟨c, parts, hended, hparts⟩ |
    ⟨c, hended, hparts⟩ | ⟨hcomment, hended⟩
  · rw [step_of_comment hkind hheeds] at h
    cases h
    unfold comment
    split
    · rename_i text _
      rcases remark_cases g r t.row with ⟨before, last, hmessages, hline⟩ | hapart
      · rw [remark_of_last (r := { r with phase := r.phase.settled }) hmessages hline]
        exact .trail hkind before last _ hmessages hline rfl rfl
      · rw [remark_of_apart (r := { r with phase := r.phase.settled }) hapart]
        exact .keep hkind _ (row_held _ _ _) rfl rfl
    · exact .nothing rfl rfl
  · rw [step_of_ended hended, closeCall_of_parts? hparts] at h
    rcases addMessage_cases h with ⟨-, rfl⟩ | ⟨m, -, -, rfl⟩
    · exact .nothing rfl rfl
    · exact .message m rfl rfl
  · rw [step_of_ended hended, closeCall_of_refusal hparts] at h
    obtain ⟨lines, -, rfl⟩ := exists_of_map_eq_ok h
    exact .nothing rfl rfl
  · obtain ⟨next, hnext⟩ := exists_moves_step g.keywords hcomment hended
    rw [hnext.eq g r rfl rfl] at h
    obtain ⟨p', -, rfl⟩ := exists_of_map_eq_ok h
    exact .nothing rfl rfl

theorem pending_run_cases (ts : List Token) {p : Pending} (h : (r.run g ts).1.pending = some p) :
    r.pending = some p ∨ ∃ t ∈ ts, t.kind = .comment ∧ t.row = p.row := by
  induction ts generalizing r with
  | nil => exact .inl h
  | cons t ts ih =>
    cases hstep : r.step g t with
    | error fault =>
      rw [run, hstep] at h
      exact .inl h
    | ok r' =>
      rw [run_cons hstep] at h
      rcases ih h with hpending | ⟨u, hu, hkind, hrow⟩
      · cases effect_step hstep with
        | nothing _ hsame => exact .inl (hsame ▸ hpending)
        | message _ _ hsame => exact .inl (hsame ▸ hpending)
        | trail _ _ _ _ _ _ _ hsame => exact .inl (hsame ▸ hpending)
        | keep hkind p' hrow _ hkept =>
          rw [hkept] at hpending
          cases hpending
          exact .inr ⟨t, List.mem_cons_self, hkind, hrow.symm⟩
      · exact .inr ⟨u, List.mem_cons_of_mem t hu, hkind, hrow⟩

/-- A message stays as it is, unless a comment follows on its row. -/
theorem messages_run (ts : List Token) {earlier later : List Message} {m : Message}
    (h : r.messages = earlier ++ m :: later)
    (hrow : ∀ t ∈ ts, t.kind = .comment → m.location.line ≠ g.firstLine + t.row) :
    ∃ later', (r.run g ts).1.messages = earlier ++ m :: later' := by
  induction ts generalizing r later with
  | nil => exact ⟨later, h⟩
  | cons t ts ih =>
    cases hstep : r.step g t with
    | error fault =>
      rw [run, hstep]
      exact ⟨later, h⟩
    | ok r' =>
      rw [run_cons hstep]
      have hnext : ∃ later', r'.messages = earlier ++ m :: later' := by
        cases effect_step hstep with
        | nothing hsame => exact ⟨later, hsame.trans h⟩
        | keep _ _ _ hsame => exact ⟨later, hsame.trans h⟩
        | message m' hadded => exact ⟨later ++ [m'], by rw [hadded, h]; simp⟩
        | trail hkind before last text hlast hline hmessages =>
          -- The last message is another one, for it is on the row of the comment.
          rcases List.eq_nil_or_concat later with rfl | ⟨init, last', rfl⟩
          · obtain ⟨-, hm⟩ := List.append_inj' (h.symm.trans hlast) rfl
            cases hm
            exact absurd hline (hrow t List.mem_cons_self hkind)
          · have hsplit : (earlier ++ m :: init) ++ [last'] = before ++ [last] := by
              rw [← hlast, h]
              simp
            obtain ⟨rfl, -⟩ := List.append_inj' hsplit rfl
            exact ⟨init ++ [{ last with comment := text }], by rw [hmessages]; simp⟩
      obtain ⟨later', hlater⟩ := hnext
      exact ih hlater fun u hu => hrow u (List.mem_cons_of_mem t hu)

/-! ## What has been read before -/

section

variable {before : List Token} (hbefore : Reader.run g {} before = (r, none))
include hbefore

theorem run_append (ts : List Token) : Reader.run g {} (before ++ ts) = r.run g ts := by
  have hends : (Reader.run g {} (before ++ [])).2 = none := by rw [List.append_nil, hbefore]
  obtain ⟨r', -, hrest⟩ := exists_run_append hends
  have hsame := hrest []
  rw [List.append_nil, hbefore] at hsame
  cases hsame
  exact hrest ts

/-- No message that has been found is on a row without a name. -/
theorem line_ne_of_run {m : Message} (hm : m ∈ r.messages) {row : Nat}
    (hnames : ∀ t ∈ before, t.kind = .name → t.row ≠ row) :
    m.location.line ≠ g.firstLine + row := by
  intro hline
  have hstart : Sited g [] {} := ⟨nofun, nofun, nofun⟩
  have hplace : m.location ∈ (Reader.run g {} before).1.places := by
    rw [hbefore]
    exact List.mem_map_of_mem hm
  obtain ⟨found, hfound, hlocation⟩ := hstart.run before _ hplace
  obtain ⟨t, ht, hkind, hrow⟩ := hfound.exists_name
  rw [hlocation] at hline
  dsimp only at hline
  exact hnames t ht hkind (by omega)

end

/-! ## The block of comments -/

/-- What waits after comments on the rows from `row` on: all that they say, or nothing from the row
above. -/
def Gathered (row : Nat) (seen : List Token) (pending : Option Pending) : Prop :=
  if seen = [] then ∀ p, pending = some p → p.row + 1 ≠ row
  else pending = some ⟨row + seen.length - 1, together seen⟩

/-- Where no comment is on the row above, nothing waits that a new comment could go on with. -/
theorem gathered_of_run {before : List Token} {row : Nat}
    (hbefore : Reader.run g {} before = (r, none))
    (habove : ∀ t ∈ before, t.kind = .comment → t.row + 1 ≠ row) : Gathered row [] r.pending := by
  intro p hp hrow
  have hreader : (Reader.run g {} before).1.pending = some p := by rw [hbefore, hp]
  rcases pending_run_cases before hreader with hnone | ⟨t, ht, hkind, hrow'⟩
  · cases hnone
  · exact habove t ht hkind (by omega)

theorem together_concat (hne : ts ≠ []) (t : Token) :
    together (ts ++ [t]) =
      ⟨t.remark.flags ++ (together ts).flags, (together ts).text ++ " " ++ t.remark.text⟩ := by
  have htexts : ts.map (·.remark.text) ≠ [] := by simpa using hne
  unfold together
  rw [List.map_append, List.map_singleton,
    String.intercalate_append_of_ne_nil htexts (List.cons_ne_nil _ _),
    String.intercalate_singleton]
  simp

theorem Gathered.concat {row : Nat} {pending : Option Pending} (h : Gathered row ts pending)
    (hrow : t.row = row + ts.length) :
    Gathered row (ts ++ [t]) (some (held pending t.remark t.row)) := by
  unfold Gathered at h ⊢
  rw [if_neg (by simp), hrow, List.length_append, List.length_singleton, ← Nat.add_assoc,
    Nat.add_sub_cancel]
  split at h
  · rename_i hnil
    subst hnil
    have hfresh : held pending t.remark row = ⟨row, t.remark⟩ := by
      unfold held
      split
      · rw [if_neg (h _ rfl)]
      · rfl
    rw [List.length_nil, Nat.add_zero, hfresh]
    simp [together]
  · rename_i hne
    have hpos : 0 < ts.length := List.length_pos_iff.mpr hne
    have hbelow : row + ts.length - 1 + 1 = row + ts.length := by omega
    rw [h, together_concat hne]
    simp [held, hbelow]

theorem comment_of_all (hall : g.options.comments = .all) (r : Reader) (t : Token) :
    r.comment g t = r.remark g t.remark t.row := by
  unfold comment commentText?
  rw [hall]
  rfl

theorem nextCall?_cons (hended : r.phase.ended? t = none) (hstep : r.step g t = .ok r')
    (ts : List Token) :
    r.nextCall? g (t :: ts) = r'.nextCall? g ts := by
  rw [nextCall?, hended, hstep]

/-- Comments on rows below each other are gathered, and the next call is the same as without them.
-/
theorem exists_gathered {row k : Nat} {seen block : List Token} (hall : g.options.comments = .all)
    (hidle : r.phase = .idle) (hgap : ∀ t ∈ block, t.isGap = true)
    (hrows : (comments block).map (·.row) = List.range' (row + seen.length) k)
    (hgathered : Gathered row seen r.pending)
    (hapart : ∀ m ∈ r.messages, ∀ t ∈ comments block, m.location.line ≠ g.firstLine + t.row) :
    ∃ pending, Gathered row (seen ++ comments block) pending ∧ ∀ rest,
      r.run g (block ++ rest) = { r with pending }.run g rest ∧
      r.nextCall? g (block ++ rest) = { r with pending }.nextCall? g rest := by
  -- Each comment goes on with those seen before it, since it is on the row below the last of them.
  induction block generalizing r seen k with
  | nil => exact ⟨r.pending, by simpa [comments] using hgathered, fun rest => ⟨rfl, rfl⟩⟩
  | cons t block ih =>
    have hended : r.phase.ended? t = none := by
      rw [hidle]
      unfold Phase.ended?
      split <;> rfl
    rw [List.forall_mem_cons] at hgap
    by_cases hkind : t.kind = .comment
    · have hcomments : comments (t :: block) = t :: comments block := by simp [comments, hkind]
      rw [hcomments] at hrows hapart ⊢
      cases k with
      | zero => cases hrows
      | succ k =>
        rw [List.map_cons, List.range'_succ, List.cons.injEq] at hrows
        obtain ⟨hrow, hrows⟩ := hrows
        have hstep : r.step g t =
            .ok { r with pending := some (held r.pending t.remark t.row) } := by
          have hlast : ∀ m, r.messages.getLast? = some m →
            m.location.line ≠ g.firstLine + t.row := fun m hm =>
            hapart m (List.mem_of_getLast? hm) t List.mem_cons_self
          have hheeds : r.phase.heeds = true := by rw [hidle]; rfl
          have hsame : { r with phase := r.phase.settled } = r := by
            obtain ⟨phase, pending, messages, warnings⟩ := r
            cases hidle
            rfl
          rw [step_of_comment hkind hheeds, hsame, comment_of_all hall, remark_of_apart hlast]
        have hrows' : (comments block).map (·.row) =
            List.range' (row + (seen ++ [t]).length) k := by
          rw [hrows, List.length_append, List.length_singleton, Nat.add_assoc]
        obtain ⟨pending, hpending, hrest⟩ :=
          ih (r := { r with pending := some (held r.pending t.remark t.row) }) hidle
          hgap.2 hrows' (hgathered.concat hrow) fun m hm u hu =>
            hapart m hm u (List.mem_cons_of_mem t hu)
        refine ⟨pending, by simpa using hpending, fun rest => ?_⟩
        rw [List.cons_append, run_cons hstep, nextCall?_cons hended hstep]
        exact hrest rest
    · have hcomments : comments (t :: block) = comments block := by simp [comments, hkind]
      have hstep : r.step g t = .ok r := by
        unfold step dispatch
        rw [hidle]
        cases hcase : t.kind <;> simp [Token.isGap, hcase] at hgap hkind ⊢
      rw [hcomments] at hrows hapart ⊢
      obtain ⟨pending, hpending, hrest⟩ := ih hidle hgap.2 hrows hgathered hapart
      refine ⟨pending, hpending, fun rest => ?_⟩
      rw [List.cons_append, run_cons hstep, nextCall?_cons hended hstep]
      exact hrest rest

/-! ## The call below it -/

theorem length_of_nextCall? {rest : List Token} (h : r.nextCall? g ts = some (c, rest)) :
    rest.length < ts.length := by
  induction ts generalizing r with
  | nil => cases h
  | cons t ts ih =>
    rw [nextCall?] at h
    split at h
    · cases h
      exact Nat.lt_succ_self _
    · split at h
      · exact Nat.lt_succ_of_lt (ih h)
      · cases h

/-- Without comments in between, the reader comes to the end of the next call and closes it. -/
theorem exists_run_of_nextCall? {during after : List Token} {close : Token}
    (hquiet : ∀ t ∈ during, t.kind ≠ .comment)
    (h : r.nextCall? g (during ++ close :: after) = some (c, after)) :
    ∃ q, q.ended? close = some c ∧
      r.run g (during ++ close :: after) = { r with phase := q }.run g (close :: after) := by
  induction during generalizing r with
  | nil =>
    rw [List.nil_append, nextCall?] at h
    split at h
    · rename_i c' hended
      cases h
      exact ⟨r.phase, hended, rfl⟩
    · split at h
      · exact absurd (length_of_nextCall? h) (Nat.lt_irrefl _)
      · cases h
  | cons t during ih =>
    rw [List.forall_mem_cons] at hquiet
    rw [List.cons_append, nextCall?] at h
    split at h
    · have hlength := congrArg (List.length ∘ Prod.snd) (Option.some.inj h)
      simp at hlength
      omega
    · rename_i hended
      obtain ⟨next, hnext⟩ :=
        exists_moves_step g.keywords (fun hkind => absurd hkind hquiet.1) hended
      have hstep := hnext.eq g r rfl rfl
      rw [hstep] at h
      cases next with
      | error fault => cases h
      | ok p' =>
        obtain ⟨q, hq, hrun⟩ := ih hquiet.2 h
        exact ⟨q, hq, by rw [List.cons_append, run_cons hstep, hrun]⟩

theorem prefix_withFormatFlags {text : String} {flags flags' : List String}
    (h : Message.withFormatFlags (some text) flags = some flags') : flags <+: flags' := by
  cases h
  have hpercent : flags <+: Message.withPercentFlag text flags := by
    unfold Message.withPercentFlag
    split
    · exact List.prefix_rfl
    · split
      · exact List.prefix_append _ _
      · exact List.prefix_rfl
  refine hpercent.trans ?_
  unfold Message.withBraceFlag
  split
  · exact List.prefix_rfl
  · split
    · exact List.prefix_append _ _
    · exact List.prefix_rfl

/-- A call of `gettext` with one text gives a message with that text and the remark that waits. -/
theorem exists_closeCall_gettext {name : Option String} {s : String} {argumentRow : Int}
    (g : Reading) (r : Reader) (hkeyword : c.keyword = KeywordTable.builtin.get? "gettext")
    (harguments : c.arguments = [⟨name, .text s, argumentRow⟩]) :
    ∃ m, r.closeCall g c = .ok { r with phase := .idle, messages := r.messages ++ [m] } ∧
      m.text = some s ∧
      m.location = ⟨g.file, g.firstLine + c.row⟩ ∧
        m.comment = ((r.remarkFor c.row).map (·.text)).getD "" ∧
      Message.withFormatFlags (some s)
          (Catalog.distinct (((r.remarkFor c.row).map (·.flags)).getD [])) = some m.flags := by
  have hparts : c.parts? = some { text := some s } := by
    unfold OpenCall.parts?
    rw [hkeyword, harguments]
    rfl
  have hwanted : wantsDomain g.options none = true := by
    unfold wantsDomain
    cases g.options.domain <;> rfl
  rw [closeCall_of_parts? hparts, addMessage_of_wanted hwanted]
  refine ⟨_, rfl, rfl, rfl, ?_, rfl⟩
  have hsame : Reader.remarkFor { r with phase := .idle } c.row = r.remarkFor c.row := rfl
  dsimp only
  rw [hsame]
  cases r.remarkFor c.row <;> rfl

/-- The comments on the rows right above a call are its comment, and their flags come first among
its flags. A call further below has nothing of them. -/
theorem message_below_comments {before block during after : List Token}
    {close : Token} {row k : Nat}
    {name : Option String} {s : String} {argumentRow : Int} (hall : g.options.comments = .all)
    (hbefore : Reader.run g {} before = (r, none))
    (hidle : r.phase = .idle) (hgap : ∀ t ∈ block, t.isGap = true)
    (hrows : (comments block).map (·.row) = List.range' row k) (hk : 0 < k)
    (habove : ∀ t ∈ before, t.kind = .comment → t.row + 1 ≠ row)
    (honly : ∀ t ∈ before, t.kind = .name → t.row ∉ List.range' row k)
    (hcall : r.nextCall? g (block ++ (during ++ close :: after)) = some (c, after))
    (hkeyword : c.keyword = KeywordTable.builtin.get? "gettext")
    (harguments : c.arguments = [⟨name, .text s, argumentRow⟩])
    (hquiet : ∀ t ∈ during, t.kind ≠ .comment)
    (hbeside : ∀ t ∈ after, t.kind = .comment → t.row ≠ c.row) :
    ∃ m later,
      (Reader.run g {} (before ++ (block ++ (during ++ close :: after)))).1.messages =
        r.messages ++ m :: later ∧
      m.text = some s ∧ m.location = ⟨g.file, g.firstLine + c.row⟩ ∧
      (c.row = row + k → m.comment = " ".intercalate ((comments block).map (·.remark.text)) ∧
        Catalog.distinct ((comments block).reverse.flatMap (·.remark.flags)) <+: m.flags) ∧
      (row + k < c.row → m.comment = "" ∧ Message.withFormatFlags (some s) [] = some m.flags) := by
  have hgathered : Gathered row [] r.pending := gathered_of_run hbefore habove
  -- No comment of the block is beside an earlier message, so all of them wait for the call.
  have hapart : ∀ m ∈ r.messages, ∀ t ∈ comments block, m.location.line ≠ g.firstLine + t.row := by
    intro m hm t ht
    have hin : t.row ∈ List.range' row k := hrows ▸ List.mem_map_of_mem ht
    exact line_ne_of_run hbefore hm fun u hu hkind hrow => honly u hu hkind (hrow ▸ hin)
  have hlength : (comments block).length = k := by simpa using congrArg List.length hrows
  have hrows' : (comments block).map (·.row) =
    List.range' (row + ([] : List Token).length) k := hrows
  obtain ⟨pending, hpending, hrest⟩ := exists_gathered hall hidle hgap hrows' hgathered hapart
  have hne : comments block ≠ [] := fun hnil => by simp [hnil] at hlength; omega
  rw [List.nil_append, Gathered, if_neg hne, hlength] at hpending
  rw [(hrest _).2] at hcall
  obtain ⟨q, hended, hcalled⟩ := exists_run_of_nextCall? hquiet hcall
  obtain ⟨m, hclosed, htext, hlocation, hcomment, hflags⟩ :=
    exists_closeCall_gettext g { r with pending, phase := q } hkeyword harguments
  have hstep := (step_of_ended (g := g) (r := { r with pending, phase := q }) hended).trans hclosed
  have hmessage : m.location.line = g.firstLine + c.row := by rw [hlocation]
  have hadded : Reader.messages { r with pending, phase := .idle, messages := r.messages ++ [m] } =
      r.messages ++ m :: [] := rfl
  -- Nor can a later comment change the message, since none is on its row.
  have hafter : ∀ t ∈ after, t.kind = .comment → m.location.line ≠ g.firstLine + t.row := by
    intro t ht hkind hline
    have hrow := hbeside t ht hkind
    omega
  obtain ⟨later, hlater⟩ := messages_run after hadded hafter
  refine ⟨m, later, ?_, htext, hlocation, fun hright => ?_, fun hfar => ?_⟩
  · rw [run_append hbefore, (hrest _).1, hcalled, run_cons hstep]
    exact hlater
  · have htakes : Reader.remarkFor { r with pending, phase := q } c.row =
        some (together (comments block)) := by
      unfold remarkFor
      rw [hpending]
      exact if_pos (show row + k - 1 + 1 ≥ c.row by omega)
    rw [htakes] at hcomment hflags
    exact ⟨hcomment, prefix_withFormatFlags hflags⟩
  · have hnone : Reader.remarkFor { r with pending, phase := q } c.row = none := by
      unfold remarkFor
      rw [hpending]
      exact if_neg (show ¬row + k - 1 + 1 ≥ c.row by omega)
    rw [hnone] at hcomment hflags
    exact ⟨hcomment, hflags⟩

theorem message_below_two_comments :
    ∃ m later, (Reader.run ⟨{ comments := .all }, .builtin, "f", 0⟩ {}
      [⟨.comment, "# [fuzzy] Greets", 1, 0⟩, ⟨.breakOnly, "\n", 1, 16⟩,
        ⟨.comment, "# the user", 2, 0⟩, ⟨.breakOnly, "\n", 2, 10⟩, ⟨.name, "gettext", 3, 0⟩,
        ⟨.operator, "(", 3, 7⟩, ⟨.string, "'x'", 3, 8⟩, ⟨.operator, ")", 3, 11⟩]).1.messages =
          m :: later ∧
      m.comment = "Greets the user" ∧ ["fuzzy"] <+: m.flags := by
  have hcall : Reader.nextCall? ⟨{ comments := .all }, .builtin, "f", 0⟩ {}
    ([⟨.comment, "# [fuzzy] Greets", 1, 0⟩, ⟨.breakOnly, "\n", 1, 16⟩,
      ⟨.comment, "# the user", 2, 0⟩, ⟨.breakOnly, "\n", 2, 10⟩] ++
      ([⟨.name, "gettext", 3, 0⟩, ⟨.operator, "(", 3, 7⟩, ⟨.string, "'x'", 3, 8⟩] ++
        ⟨.operator, ")", 3, 11⟩ :: [])) =
      some (⟨some { function := "gettext" }, 3, [⟨none, .text "x", 3⟩], none, true, false⟩, []) :=
        rfl
  have hbefore : Reader.run ⟨{ comments := .all }, .builtin, "f", 0⟩ {} [] = ({}, none) := rfl
  have hrows : (comments [⟨.comment, "# [fuzzy] Greets", 1, 0⟩, ⟨.breakOnly, "\n", 1, 16⟩,
      ⟨.comment, "# the user", 2, 0⟩, ⟨.breakOnly, "\n", 2, 10⟩]).map (·.row) =
        List.range' 1 2 := rfl
  obtain ⟨m, later, hmessages, -, -, hright, -⟩ :=
    message_below_comments rfl hbefore rfl (by decide) hrows (by decide)
    nofun nofun hcall rfl rfl (by decide) nofun
  obtain ⟨hcomment, hflags⟩ := hright rfl
  exact ⟨m, later, hmessages, hcomment, hflags⟩

end Reader

end Harvest.Source
