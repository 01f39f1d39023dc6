import Harvest.Proofs.Source.ReaderRuns
import Harvest.Proofs.Source.RowOrder

/-!
# Extracting one domain of a source

A comment at the end of a line goes to the last message that has been found, if that is on the same
line, and else it waits for the next call. When only one domain is extracted, the message whose line
it is may not have been added, and then the comment goes elsewhere. Where this does not happen, to
extract one domain is to leave out the messages of the others.
-/

namespace Harvest.Source

def MarkedCall.isOf (domain : String) (c : MarkedCall) : Bool :=
  c.parts.domain = none || c.parts.domain = some "" || c.parts.domain = some domain

def onlyOf (domain : String) (ms : List Message) (calls : List MarkedCall) : List Message :=
  ((ms.zip calls).filter (·.2.isOf domain)).map (·.1)

theorem MarkedCall.wanted_of_none {options : Options} (h : options.domain = none) (c : MarkedCall) :
    c.wanted options = true := by
  unfold MarkedCall.wanted Reader.wantsDomain
  rw [h]

theorem MarkedCall.wanted_of_some {options : Options} {domain : String}
    (h : options.domain = some domain) (c : MarkedCall) : c.wanted options = c.isOf domain := by
  unfold MarkedCall.wanted Reader.wantsDomain MarkedCall.isOf
  rw [h]
  cases c.parts.domain with
  | none => rfl
  | some given =>
    have hempty : given.isEmpty = decide (given = "") := by
      rw [Bool.eq_iff_iff]
      simp
    simp [hempty, Bool.beq_eq_decide_eq]

section OnlyOf

variable {domain : String} {ms : List Message} {calls : List MarkedCall}

theorem onlyOf_concat (h : ms.length = calls.length) (m : Message) (c : MarkedCall) :
    onlyOf domain (ms ++ [m]) (calls ++ [c]) =
      onlyOf domain ms calls ++ if c.isOf domain then [m] else [] := by
  unfold onlyOf
  rw [List.zip_append h, List.filter_append, List.map_append]
  congr 1
  cases hc : c.isOf domain <;> simp [hc]

/-- What messages have in common with their calls, the messages of one domain have too. -/
theorem map_onlyOf {β : Type} {f : Message → β} {f' : MarkedCall → β}
    (h : ms.map f = calls.map f') :
    (onlyOf domain ms calls).map f = (calls.filter (·.isOf domain)).map f' := by
  induction ms generalizing calls with
  | nil =>
    rw [List.map_nil, eq_comm, List.map_eq_nil_iff] at h
    rw [h]
    rfl
  | cons m ms ih =>
    cases calls with
    | nil => cases h
    | cons c calls =>
      have hhead : f m = f' c := (List.cons.inj h).1
      have htail := ih (List.cons.inj h).2
      unfold onlyOf at htail ⊢
      cases hc : c.isOf domain <;> simp [hc, hhead, htail]

end OnlyOf

namespace Reader

/-! ## Where the calls are -/

/-- The calls that a reader has come upon are on rows in order, and none is below the row that has
been reached; a call that is still open comes after them. -/
structure Passed (p : Phase) (calls : List MarkedCall) (row : Nat) : Prop where
  rising : calls.Pairwise (·.row ≤ ·.row)
  below : ∀ c ∈ calls, c.row ≤ row
  opened : ∀ k, p.row? = some k → k ≤ row ∧ ∀ c ∈ calls, c.row ≤ k

variable {g : Reading} {r r' : Reader} {t : Token} {ts : List Token}
    {calls : List MarkedCall} {row : Nat}

theorem row?_settled {p : Phase} : p.settled.row? = p.row? := by
  cases p <;> rfl

theorem row?_of_ended? {p : Phase} {c : OpenCall} (h : p.ended? t = some c) : p.row? = some c.row :=
  row?_eq_some_iff.mpr ⟨c.keyword, head?_of_ended? h⟩

/-- One token keeps the calls on rows in order. -/
theorem Passed.step (h : Passed r.phase calls row) (hrow : row ≤ t.row)
    (hstep : r.step g t = .ok r') :
    Passed r'.phase (calls ++ (r.phase.marked? t).toList) t.row := by
  have hbelow (c : MarkedCall) (hc : c ∈ calls) : c.row ≤ t.row := by
    have := h.below c hc
    omega
  -- A phase that is in no other call than before, or in one of this row.
  have hmoved {p : Phase} (hp : ∀ k, p.row? = some k → r.phase.row? = some k ∨ k = t.row) :
      Passed p calls t.row := by
    refine ⟨h.rising, hbelow, fun k hk => ?_⟩
    rcases hp k hk with hsame | rfl
    · have hopened := h.opened k hsame
      exact ⟨by omega, hopened.2⟩
    · exact ⟨Nat.le_refl _, hbelow⟩
  rcases token_cases r.phase t with ⟨hkind, hheeds⟩ | ⟨c, parts, hended, hparts⟩ |
    ⟨c, hended, hparts⟩ | ⟨hcomment, hended⟩
  · rw [step_of_comment hkind hheeds] at hstep
    cases hstep
    rw [marked?_of_ended?_eq_none (ended?_of_comment hkind), (comment_keeps _ _ _).1]
    exact (List.append_nil calls).symm ▸ hmoved fun k hk => .inl (row?_settled ▸ hk)
  · have hphase : r'.phase = .idle := by
      rw [step_of_ended hended, closeCall_of_parts? hparts] at hstep
      exact (addMessage_places hstep).1
    have hopened := h.opened c.row (row?_of_ended? hended)
    rw [marked?_of_ended? hended, hparts, hphase]
    refine ⟨List.pairwise_append.mpr ⟨h.rising, List.pairwise_singleton _ _, ?_⟩, ?_, nofun⟩
    · intro earlier hearlier d hd
      rw [List.mem_singleton.mp hd]
      exact hopened.2 earlier hearlier
    · intro d hd
      rcases List.mem_append.mp hd with hd | hd
      · exact hbelow d hd
      · rw [List.mem_singleton.mp hd]
        exact Nat.le_trans hopened.1 hrow
  · rw [step_of_ended hended, closeCall_of_refusal hparts] at hstep
    obtain ⟨lines, -, rfl⟩ := exists_of_map_eq_ok hstep
    rw [marked?_of_ended? hended, hparts]
    exact (List.append_nil calls).symm ▸ hmoved nofun
  · obtain ⟨next, hnext⟩ := exists_moves_step g.keywords hcomment hended
    rw [hnext.eq g r rfl rfl] at hstep
    obtain ⟨p', hp', rfl⟩ := exists_of_map_eq_ok hstep
    rw [marked?_of_ended?_eq_none hended]
    exact (List.append_nil calls).symm ▸ hmoved (hnext.row hp')

/-! ## Comments behind calls -/

def noted (g : Reading) (r : Reader) (t : Token) : Bool :=
  t.kind = .comment && r.phase.heeds && (commentText? g.options.comments t.text).isSome

/-- The calls with a comment behind them: it is on the row of the call, and no other call with a
message is in between. `last` is the last call so far. -/
def commented (g : Reading) : Option MarkedCall → Reader → List Token → List MarkedCall
  | _, _, [] => []
  | last, r, t :: ts =>
      match r.step g t with
      | .ok r' =>
          (if r.noted g t then (last.filter (·.row = t.row)).toList else []) ++
            commented g ((r.phase.marked? t).or last) r' ts
      | .error _ => []

theorem commented_cons (h : r.step g t = .ok r') (last : Option MarkedCall) (ts : List Token) :
    commented g last r (t :: ts) =
      (if r.noted g t then (last.filter (·.row = t.row)).toList else []) ++
        commented g ((r.phase.marked? t).or last) r' ts := by
  rw [commented, h]

/-! ## One domain -/

def only (g : Reading) (domain : String) : Reading :=
  { g with options := { g.options with domain := some domain } }

variable {domain : String} {q : Reader}

theorem step_only (hall : g.options.domain = none)
    (h : ∀ c ∈ r.phase.marked? t, MarkedCall.isOf domain c) :
    r.step (only g domain) t = r.step g t := by
  rcases token_cases r.phase t with ⟨hkind, hheeds⟩ | ⟨c, parts, hended, hparts⟩ |
    ⟨c, hended, hparts⟩ | ⟨hcomment, hended⟩
  · rw [step_of_comment hkind hheeds, step_of_comment hkind hheeds]
    rfl
  · have hof : MarkedCall.isOf domain ⟨c.row, parts⟩ := by
      apply h
      rw [marked?_of_ended? hended, hparts]
      rfl
    have hwanted : MarkedCall.wanted (only g domain).options ⟨c.row, parts⟩ = true :=
      (MarkedCall.wanted_of_some rfl _).trans hof
    rw [step_of_ended hended, step_of_ended hended, closeCall_of_parts? hparts,
      closeCall_of_parts? hparts,
      addMessage_of_wanted (MarkedCall.wanted_of_none hall ⟨c.row, parts⟩),
        addMessage_of_wanted hwanted]
    rfl
  · rw [step_of_ended hended, step_of_ended hended, closeCall_of_refusal hparts,
      closeCall_of_refusal hparts]
    rfl
  · obtain ⟨next, hnext⟩ := exists_moves_step g.keywords hcomment hended
    rw [hnext.eq g r rfl rfl, hnext.eq (only g domain) r rfl rfl]

theorem run_only (hall : g.options.domain = none)
    (h : ∀ c ∈ r.calls g ts, MarkedCall.isOf domain c) :
    r.run (only g domain) ts = r.run g ts := by
  induction ts generalizing r with
  | nil => rfl
  | cons t ts ih =>
    have hstep : r.step (only g domain) t = r.step g t := by
      refine step_only hall fun c hc => h c ?_
      rw [calls]
      exact List.mem_append_left _ (Option.mem_toList.mpr hc)
    rw [run, run, hstep]
    cases hnext : r.step g t with
    | error fault => rfl
    | ok r' =>
      refine ih fun c hc => h c ?_
      rw [calls_cons hnext]
      exact List.mem_append_right _ hc

/-- The second reader is as far as the first and has found the messages of one domain only. -/
structure Selects (g : Reading) (domain : String) (calls : List MarkedCall) (r q : Reader) :
    Prop where
  phase : q.phase = r.phase
  pending : q.pending = r.pending
  warnings : q.warnings = r.warnings
  messages : q.messages = onlyOf domain r.messages calls
  lines : r.messages.map (·.location.line) = calls.map fun c => g.firstLine + c.row

theorem Selects.length_eq (h : Selects g domain calls r q) : r.messages.length = calls.length := by
  have := congrArg List.length h.lines
  simpa using this

/-- A comment goes to the same message with and without a choice of the domain, unless the call
right before it is of another domain. -/
theorem Selects.remark (h : Selects g domain calls r q) (hpassed : Passed r.phase calls t.row)
    (hlast : ∀ c, calls.getLast? = some c → c.row = t.row → c.isOf domain) (text : Remark) :
    Selects g domain calls (r.remark g text t.row) (q.remark (only g domain) text t.row) := by
  have hlines := h.lines
  rcases remark_cases g r t.row with ⟨before, last, hmessages, hline⟩ | hapart
  · -- The last message is there for both.
    rcases List.eq_nil_or_concat calls with rfl | ⟨earlier, c, rfl⟩
    · rw [hmessages] at hlines
      simp at hlines
    · rw [List.concat_eq_append] at *
      rw [hmessages, List.map_append, List.map_append] at hlines
      obtain ⟨hbefore, hc⟩ := List.append_inj' hlines rfl
      have hc : last.location.line = g.firstLine + c.row := (List.cons.inj hc).1
      have hof : c.isOf domain := hlast c List.getLast?_concat (by omega)
      have hlength : before.length = earlier.length := by
        have := congrArg List.length hbefore
        simpa using this
      have hkept (m : Message) : onlyOf domain (before ++ [m]) (earlier ++ [c]) =
          onlyOf domain before earlier ++ [m] := by
        rw [onlyOf_concat hlength, if_pos hof]
      have hmessages' : q.messages = onlyOf domain before earlier ++ [last] := by
        rw [h.messages, hmessages, hkept]
      rw [remark_of_last hmessages hline, remark_of_last (g := only g domain) hmessages' hline]
      refine ⟨h.phase, h.pending, h.warnings, (hkept _).symm, ?_⟩
      dsimp only
      rw [← h.lines, hmessages]
      simp
  · -- Neither the last message nor an earlier one is on this row.
    have hapart' (m : Message) (hm : q.messages.getLast? = some m) :
        m.location.line ≠ (only g domain).firstLine + t.row := by
      have hmem : m.location.line ∈ q.messages.map (·.location.line) :=
        List.mem_map_of_mem (List.mem_of_getLast? hm)
      rw [h.messages, map_onlyOf hlines] at hmem
      obtain ⟨c, hc, hcline⟩ := List.mem_map.mp hmem
      have hmemc : c ∈ calls := (List.mem_filter.mp hc).1
      rcases List.eq_nil_or_concat calls with rfl | ⟨earlier, d, rfl⟩
      · cases hmemc
      · rw [List.concat_eq_append] at *
        have hd : d.row ≤ t.row :=
          hpassed.below d (List.mem_append_right _ (List.mem_singleton_self d))
        have hcd : c.row ≤ d.row := by
          rcases List.mem_append.mp hmemc with hmemc | hmemc
          · exact (List.pairwise_append.mp hpassed.rising).2.2 c hmemc d (List.mem_singleton_self d)
          · have hrow : c.row = d.row := congrArg MarkedCall.row (List.mem_singleton.mp hmemc)
            omega
        have hne : g.firstLine + d.row ≠ g.firstLine + t.row := by
          have hlastline : (r.messages.map (·.location.line)).getLast? =
              some (g.firstLine + d.row) := by
            rw [hlines, List.map_append, List.map_singleton, List.getLast?_concat]
          rw [List.getLast?_map] at hlastline
          obtain ⟨m, hm, hmline⟩ := Option.map_eq_some_iff.mp hlastline
          exact hmline ▸ hapart m hm
        change m.location.line ≠ g.firstLine + t.row
        omega
    rw [remark_of_apart hapart, remark_of_apart hapart', h.pending]
    exact ⟨h.phase, rfl, h.warnings, h.messages, h.lines⟩

/-- One token keeps a reader for one domain in step with a reader for all of them. -/
theorem Selects.step (h : Selects g domain calls r q) (hall : g.options.domain = none)
    (hpassed : Passed r.phase calls t.row)
    (hlast : r.noted g t → ∀ c, calls.getLast? = some c → c.row = t.row → c.isOf domain)
    (hstep : r.step g t = .ok r') :
    ∃ q', q.step (only g domain) t = .ok q' ∧
      Selects g domain (calls ++ (r.phase.marked? t).toList) r' q' := by
  rcases token_cases r.phase t with ⟨hkind, hheeds⟩ | ⟨c, parts, hended, hparts⟩ |
    ⟨c, hended, hparts⟩ | ⟨hcomment, hended⟩
  · -- A comment: the message that it goes to is of the domain, by `hlast`.
    rw [step_of_comment hkind hheeds] at hstep
    cases hstep
    rw [marked?_of_ended?_eq_none (ended?_of_comment hkind), Option.toList_none, List.append_nil]
    refine ⟨_, step_of_comment hkind (h.phase ▸ hheeds), ?_⟩
    have hsettled : Selects g domain calls { r with phase := r.phase.settled }
        { q with phase := q.phase.settled } :=
      ⟨by rw [h.phase], h.pending, h.warnings, h.messages, h.lines⟩
    unfold Reader.comment only
    dsimp only
    cases htext : commentText? g.options.comments t.text with
    | none => exact hsettled
    | some text =>
      have hnoted : r.noted g t := by simp [noted, hkind, hheeds, htext]
      refine hsettled.remark ⟨hpassed.rising, hpassed.below, fun k hk => ?_⟩ (hlast hnoted) _
      exact hpassed.opened k (row?_settled ▸ hk)
  · -- A call that gives a message: the second reader keeps it just if it is of the domain.
    rw [step_of_ended hended, closeCall_of_parts? hparts] at hstep
    rw [marked?_of_ended? hended, hparts, Option.map_some, Option.toList_some]
    rw [← h.phase] at hended
    rw [step_of_ended hended, closeCall_of_parts? hparts]
    have hmessage : Reader.message? (only g domain) { q with phase := .idle } c parts =
        Reader.message? g { r with phase := .idle } c parts := by
      unfold message? remarkFor
      rw [h.pending]
      rfl
    rw [addMessage_of_wanted (MarkedCall.wanted_of_none hall ⟨c.row, parts⟩)] at hstep
    cases hm : Reader.message? g { r with phase := .idle } c parts with
    | none =>
      rw [hm] at hstep
      cases hstep
    | some m =>
      rw [hm] at hstep
      cases hstep
      have hof : MarkedCall.wanted (only g domain).options ⟨c.row, parts⟩ =
          MarkedCall.isOf domain ⟨c.row, parts⟩ := MarkedCall.wanted_of_some rfl _
      have hlines : (r.messages ++ [m]).map (·.location.line) =
          (calls ++ [(⟨c.row, parts⟩ : MarkedCall)]).map fun c => g.firstLine + c.row := by
        rw [List.map_append, List.map_append, h.lines]
        have hbare := congrArg (·.location.line) (bare_of_message? hm)
        simpa [bare, MarkedCall.message] using hbare
      have hconcat : onlyOf domain (r.messages ++ [m]) (calls ++ [⟨c.row, parts⟩]) =
          onlyOf domain r.messages calls ++
            if MarkedCall.isOf domain ⟨c.row, parts⟩ then [m] else [] :=
              onlyOf_concat h.length_eq m _
      cases hisOf : MarkedCall.isOf domain ⟨c.row, parts⟩ with
      | false =>
        rw [hisOf] at hof hconcat
        refine ⟨_, addMessage_of_unwanted hof _ c, rfl, h.pending, h.warnings, ?_, hlines⟩
        rw [hconcat, h.messages]
        exact (List.append_nil _).symm
      | true =>
        rw [hisOf] at hof hconcat
        rw [addMessage_of_wanted hof, hmessage, hm]
        refine ⟨_, rfl, rfl, h.pending, h.warnings, ?_, hlines⟩
        rw [hconcat, ← h.messages]
        rfl
  · -- A call that gives none: both readers are told the same.
    rw [step_of_ended hended, closeCall_of_refusal hparts] at hstep
    obtain ⟨lines, hlines, rfl⟩ := exists_of_map_eq_ok hstep
    rw [marked?_of_ended? hended, hparts]
    rw [← h.phase] at hended
    refine ⟨{ q with phase := .idle, warnings := q.warnings ++ lines }, ?_, rfl,
      h.pending, ?_, ?_, ?_⟩
    · rw [step_of_ended hended, closeCall_of_refusal hparts]
      change (c.refusal g.file g.firstLine).map _ = _
      rw [hlines]
      rfl
    · rw [h.warnings]
    · exact (List.append_nil calls).symm ▸ h.messages
    · exact (List.append_nil calls).symm ▸ h.lines
  · -- Any other token only moves both readers on.
    obtain ⟨next, hnext⟩ := exists_moves_step g.keywords hcomment hended
    rw [hnext.eq g r rfl rfl] at hstep
    obtain ⟨p', rfl, rfl⟩ := exists_of_map_eq_ok hstep
    rw [marked?_of_ended?_eq_none hended, Option.toList_none, List.append_nil]
    exact ⟨{ q with phase := p' }, hnext.eq (only g domain) q rfl h.phase, rfl,
      h.pending, h.warnings,
      h.messages, h.lines⟩

/-- If each call with a comment behind it is of the domain, the second reader finds the messages of
the domain to the end. -/
theorem Selects.run (h : Selects g domain calls r q) (hall : g.options.domain = none)
    (hpassed : Passed r.phase calls row) (hrows : ∀ t ∈ ts, row ≤ t.row)
    (hrising : ts.Pairwise (·.row ≤ ·.row))
    (hcommented : ∀ c ∈ commented g calls.getLast? r ts, c.isOf domain)
    (hread : (r.run g ts).2 = none) :
    (q.run (only g domain) ts).2 = none ∧
      Selects g domain (calls ++ r.calls g ts) (r.run g ts).1 (q.run (only g domain) ts).1 := by
  induction ts generalizing r q calls row with
  | nil => exact ⟨rfl, (List.append_nil calls).symm ▸ h⟩
  | cons t ts ih =>
    obtain ⟨r', hstep, hread⟩ := exists_step_of_run hread
    obtain ⟨hlater, hrising⟩ := List.pairwise_cons.mp hrising
    have hrow : row ≤ t.row := hrows t List.mem_cons_self
    rw [commented_cons hstep] at hcommented
    have hat : Passed r.phase calls t.row :=
      ⟨hpassed.rising, fun c hc => Nat.le_trans (hpassed.below c hc) hrow, fun k hk =>
        ⟨Nat.le_trans (hpassed.opened k hk).1 hrow, (hpassed.opened k hk).2⟩⟩
    have hlast (hnoted : r.noted g t) (c : MarkedCall) (hc : calls.getLast? = some c)
        (hsame : c.row = t.row) : c.isOf domain := by
      apply hcommented c
      rw [if_pos hnoted, hc]
      simp [hsame]
    obtain ⟨q', hstep', hnext⟩ := h.step hall hat hlast hstep
    have hgetLast : (calls ++ (r.phase.marked? t).toList).getLast? =
        (r.phase.marked? t).or calls.getLast? := by
      cases r.phase.marked? t <;> simp
    rw [run_cons hstep, run_cons hstep', calls_cons hstep, ← List.append_assoc]
    refine ih hnext (hpassed.step hrow hstep) hlater hrising (fun c hc => ?_) hread
    rw [hgetLast] at hc
    exact hcommented c (List.mem_append_right _ hc)

end Reader

/-! ## Extractions -/

/-- Suppose that all domains of a source can be extracted, and consider the calls that give its
messages. If all messages have texts, then one domain can be extracted as well, and its messages are
those whose calls name it or none, apart from flags and comments. These are the same too if no call
of another domain has a comment behind it. -/
theorem extract_domain {options : Options} (hall : options.domain = none) (domain file : String)
    (firstLine : Int) (lines : List Line) {s s' : Session} {ms : List Message}
    (h : (ExceptT.run (extract options file firstLine lines)).run s = (.ok ms, s')) :
    let g : Reading := ⟨options, s'.keywords, file, firstLine⟩
    let calls := Reader.calls g {} (scan lines).tokens
    let chosen :=
      (ExceptT.run (extract { options with domain := some domain } file firstLine lines)).run s
    ms.map bare = calls.map (MarkedCall.message file firstLine) ∧
      ((∀ m ∈ ms, m.text.isSome) →
        ∃ ns, chosen = (.ok ns, s') ∧ ns.map bare = (onlyOf domain ms calls).map bare) ∧
      ((∀ c ∈ Reader.commented g none {} (scan lines).tokens, c.isOf domain) →
        chosen = (.ok (onlyOf domain ms calls), s')) := by
  obtain ⟨keywords, r, hadded, hscan, hrun, rfl, rfl⟩ := run_extract_ok_iff.mp h
  rw [keywords_warned]
  intro g calls chosen
  have hread : (Reader.run g {} (scan lines).tokens).2 = none := congrArg Prod.snd hrun
  have hreader : (Reader.run g {} (scan lines).tokens).1 = r := congrArg Prod.fst hrun
  have hmessages : r.messages.map bare = calls.map (MarkedCall.message file firstLine) := by
    rw [← hreader, Reader.bare_run hread, List.filter_eq_self.mpr fun c _ => c.wanted_of_none hall]
    rfl
  have hchosen {q : Reader} (hq : Reader.run (Reader.only g domain) {} (scan lines).tokens =
    (q, none))
      (hwarnings : q.warnings = r.warnings) :
      chosen = (.ok q.messages, warned { s with keywords } r.warnings) :=
    run_extract_ok_iff.mpr ⟨keywords, q, hadded, hscan, hq, rfl, by rw [hwarnings]⟩
  refine ⟨hmessages, fun htexts => ?_, fun hcommented => ?_⟩
  · -- Comments aside, the readers only have to be in the same phase.
    have htext (c : MarkedCall) (hc : c ∈ calls) : c.parts.text.isSome := by
      obtain ⟨m, hm, hbare⟩ := List.mem_map.mp (hmessages ▸ List.mem_map_of_mem hc)
      have hsame : m.text = c.parts.text := congrArg Message.text hbare
      rw [← hsame]
      exact htexts m hm
    have hkeywords : (Reader.only g domain).keywords = g.keywords := rfl
    have hphase : Reader.phase {} = Reader.phase {} := rfl
    obtain ⟨hread', hcalls, hwarnings⟩ := Reader.run_lockstep hkeywords hphase htext hread
    refine ⟨_, hchosen (Prod.ext rfl hread') ?_, ?_⟩
    · rw [hwarnings rfl rfl rfl, hreader]
    · have hwanted : (MarkedCall.wanted (Reader.only g domain).options ·) =
          (MarkedCall.isOf domain ·) :=
        funext fun c => MarkedCall.wanted_of_some rfl c
      rw [Reader.bare_run hread', hcalls, map_onlyOf hmessages, hwanted]
      rfl
  · -- Comments included, they have to be in step message by message.
    have hstart : Reader.Selects g domain [] {} {} := ⟨rfl, rfl, rfl, rfl, rfl⟩
    have hpassed : Reader.Passed .idle [] 0 := ⟨.nil, nofun, nofun⟩
    obtain ⟨hread', hselects⟩ :=
      hstart.run hall hpassed (fun t _ => Nat.zero_le _) (scan_rising lines) hcommented hread
    rw [hreader] at hselects
    rw [hchosen (Prod.ext rfl hread') hselects.warnings, hselects.messages]
    rfl

/-- A comment behind a call of another domain, and a call on the next line. -/
def otherFirst : List Line := textLines "dgettext('other', 'b')  # about b\ngettext('x')\n".toList

def otherLast : List Line := textLines "dgettext('other', 'b')\ngettext('x')  # about x\n".toList

def plainMessage (text : String) (row : Int) (comment : String) : Message :=
  { text := some text, comment, location := ⟨"f", row⟩ }

theorem extract_domain_otherLast :
    (ExceptT.run (extract { comments := .all } "f" 0 otherLast)).run {} =
      (.ok [plainMessage "b" 1 "", plainMessage "x" 2 "about x"], {}) ∧
    (ExceptT.run (extract { comments := .all, domain := some "mine" } "f" 0 otherLast)).run {} =
      (.ok [plainMessage "x" 2 "about x"], {}) := by
  have hall : (ExceptT.run (extract { comments := .all } "f" 0 otherLast)).run {} =
      (.ok [plainMessage "b" 1 "", plainMessage "x" 2 "about x"], {}) :=
    Prod.ext_iff.mpr (by decide +kernel)
  have hkept : onlyOf "mine" [plainMessage "b" 1 "", plainMessage "x" 2 "about x"]
      (Reader.calls ⟨{ comments := .all }, Session.keywords {}, "f", 0⟩ {}
        (scan otherLast).tokens) =
        [plainMessage "x" 2 "about x"] := by decide +kernel
  have hcommented :
    ∀ c ∈ Reader.commented ⟨{ comments := .all }, Session.keywords {}, "f", 0⟩ none {}
      (scan otherLast).tokens, c.isOf "mine" := by decide +kernel
  have honly := (extract_domain rfl "mine" "f" 0 otherLast hall).2.2 hcommented
  rw [hkept] at honly
  exact ⟨hall, honly⟩

/-- The comment behind a message that is left out goes to the next one. -/
theorem extract_moved_comment :
    (ExceptT.run (extract { comments := .all } "f" 0 otherFirst)).run {} =
      (.ok [plainMessage "b" 1 "about b", plainMessage "x" 2 ""], {}) ∧
    (ExceptT.run (extract { comments := .all, domain := some "mine" } "f" 0 otherFirst)).run {} =
      (.ok [plainMessage "x" 2 "about b"], {}) := by
  refine ⟨Prod.ext_iff.mpr ?_, Prod.ext_iff.mpr ?_⟩
  all_goals decide +kernel

end Harvest.Source
