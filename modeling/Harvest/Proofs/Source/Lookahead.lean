import Harvest.Source.Stream

/-!
# Looking one token ahead

A stream can be asked for its next token in two ways: to take it, or to look at it and leave it.
Main statement: in whatever order this is asked, the tokens taken are the first tokens of the
source, and looking does not change what is taken.
-/

namespace Harvest.Source

/-- What a stream is asked for: to take the next token, or to look at it. -/
inductive Request where
  | next
  | peek
deriving DecidableEq, Repr

abbrev Exchange := Request × Except StreamEnd Token

def taken : List Exchange → List Token
  | [] => []
  | (.next, .ok t) :: log => t :: taken log
  | _ :: log => taken log

/-- The answer where `n` tokens have been taken before. -/
def ahead (tokens : List Token) (n : Nat) : Except StreamEnd Token :=
  (tokens[n]?).elim (.error .finished) .ok

/-- All answers where `n` tokens have been taken before. -/
def expected (tokens : List Token) : Nat → List Request → List Exchange
  | _, [] => []
  | n, .next :: requests => (.next, ahead tokens n) :: expected tokens (n + 1) requests
  | n, .peek :: requests => (.peek, ahead tokens n) :: expected tokens n requests

namespace Stream

def answer (s : Stream) : Request → Except StreamEnd Token × Stream
  | .next => s.next
  | .peek => s.peek

def serve : Stream → List Request → List Exchange × Stream
  | s, [] => ([], s)
  | s, request :: requests =>
      let rest := serve (s.answer request).2 requests
      ((request, (s.answer request).1) :: rest.1, rest.2)

/-- The stream after `n` tokens have been taken. The token that was looked at last may be
put back. -/
structure Stands (tokens : List Token) (n : Nat) (s : Stream) : Prop where
  left : s.pushed ++ s.queue = tokens.drop n
  pushed : s.pushed.length ≤ 1
  complete : s.complete = true ↔ tokens.length ≤ n

/-- The history of a stream that is asked for one token after the other: nothing is lost or
repeated, a token is taken as it was seen, at most one is put back, and the end is told from then on
when its token has been taken. -/
structure Faithful (tokens : List Token) (requests : List Request) (log : List Exchange)
    (s : Stream) : Prop where
  asked : log.map Prod.fst = requests
  taken : taken log = tokens.take (requests.count .next)
  seen : ∀ before looks after a b, log = before ++ (.peek, a) :: (looks ++ (.next, b) :: after) →
    (∀ e ∈ looks, e.1 = .peek) → b = a
  pushed : s.pushed.length ≤ 1
  complete : s.complete = true ↔ ∃ t, (.next, .ok t) ∈ log ∧ t.kind = .finish
  ended : ∀ before after t, log = before ++ (.next, .ok t) :: after → t.kind = .finish →
    ∀ e ∈ after, e.2 = .error .finished

variable {tokens body : List Token} {finish : Token} {n : Nat} {s : Stream}

/-! ## One request -/

theorem Stands.next_cases (h : Stands tokens n s) :
    (tokens.length ≤ n ∧ s.next = (.error .finished, s)) ∨
      ∃ t s', tokens[n]? = some t ∧ s.next = (.ok t, s') ∧ s'.pushed =
        [] ∧ s'.queue = tokens.drop (n + 1) ∧
        s'.complete = (t.kind == .finish) := by
  obtain ⟨queue, fault, pushed, complete⟩ := s
  by_cases hn : tokens.length ≤ n
  · have hcomplete : complete = true := h.complete.mpr hn
    exact .inl ⟨hn, by rw [Stream.next, if_pos hcomplete]⟩
  · have hcomplete : ¬ complete = true := fun hc => hn (h.complete.mp hc)
    have hleft : pushed ++ queue = tokens[n] :: tokens.drop (n + 1) :=
      h.left.trans (List.drop_eq_getElem_cons (by omega))
    refine .inr ⟨tokens[n], ?_⟩
    rw [Stream.next, if_neg hcomplete]
    -- What is left starts with the token that was put back, or else with the queue.
    cases pushed with
    | nil =>
      cases hleft
      exact ⟨_, List.getElem?_eq_getElem _, rfl, rfl, rfl, rfl⟩
    | cons t pushed =>
      have hpushed : pushed = [] :=
        List.length_eq_zero_iff.mp (Nat.le_zero.mp (Nat.le_of_succ_le_succ h.pushed))
      cases hpushed
      cases hleft
      exact ⟨_, List.getElem?_eq_getElem _, rfl, rfl, rfl, rfl⟩

theorem ahead_of_length_le (h : tokens.length ≤ n) : ahead tokens n = .error .finished := by
  rw [ahead, List.getElem?_eq_none h]
  rfl

theorem ahead_eq_ok_iff {t : Token} : ahead tokens n = .ok t ↔ tokens[n]? = some t := by
  cases ht : tokens[n]? <;> simp [ahead, ht]

section

variable (hbody : ∀ t ∈ body, t.kind ≠ .finish) (hfinish : finish.kind = .finish)
include hbody hfinish

theorem kind_iff_of_getElem? {t : Token} (ht : (body ++ [finish])[n]? = some t) :
    t.kind = .finish ↔ (body ++ [finish]).length ≤ n + 1 := by
  have hlt := (List.getElem?_eq_some_iff.mp ht).1
  rw [List.length_append, List.length_singleton] at hlt ⊢
  by_cases hn : n < body.length
  · rw [List.getElem?_append_left hn] at ht
    have hkind := hbody t (List.mem_of_getElem? ht)
    exact ⟨fun h => absurd h hkind, fun h => by omega⟩
  · rw [List.getElem?_append_right (by omega), show n - body.length = 0 by omega] at ht
    cases ht
    exact ⟨fun _ => by omega, fun _ => hfinish⟩

theorem Stands.answer (h : Stands (body ++ [finish]) n s) (request : Request) :
    (s.answer request).1 = ahead (body ++ [finish]) n ∧
      Stands (body ++ [finish]) (n + [request].count .next) (s.answer request).2 := by
  rcases h.next_cases with ⟨hn, hnext⟩ | ⟨t, s', ht, hnext, hpushed, hqueue, hcomplete⟩
  · have hanswer : s.answer request = (.error .finished, s) := by
      cases request with
      | next => exact hnext
      | peek => rw [Stream.answer, Stream.peek, hnext]
    have hdrop (k : Nat) : (body ++ [finish]).drop (n + k) = [] :=
      List.drop_eq_nil_iff.mpr (by omega)
    rw [hanswer, ahead_of_length_le hn]
    refine ⟨rfl, ?_, h.pushed, ⟨fun _ => by omega, fun _ => h.complete.mpr hn⟩⟩
    rw [h.left, hdrop]
    exact hdrop 0
  · rw [ahead_eq_ok_iff.mpr ht]
    have hend := kind_iff_of_getElem? hbody hfinish ht
    have hlt := (List.getElem?_eq_some_iff.mp ht).1
    cases request with
    | next =>
      rw [Stream.answer, hnext]
      refine ⟨rfl, ?_, ?_, ?_⟩
      · rw [hpushed, hqueue]
        rfl
      · rw [hpushed]
        exact Nat.zero_le 1
      · rw [hcomplete, beq_iff_eq]
        exact hend
    | peek =>
      rw [Stream.answer, Stream.peek, hnext]
      refine ⟨rfl, ?_, ?_, ?_⟩
      · have hget : (body ++ [finish])[n] = t := (List.getElem?_eq_some_iff.mp ht).2
        show (t :: s'.pushed) ++ s'.queue = _
        rw [hpushed, hqueue, ← hget]
        exact (List.drop_eq_getElem_cons hlt).symm
      · show (t :: s'.pushed).length ≤ 1
        rw [hpushed]
        exact Nat.le_refl 1
      · exact ⟨nofun, fun hle => absurd hle (Nat.not_le_of_lt hlt)⟩

/-! ## All requests -/

/-- Whatever a stream is asked, it answers as is expected, and stands after the tokens taken. -/
theorem Stands.serve (h : Stands (body ++ [finish]) n s) (requests : List Request) :
    (s.serve requests).1 = expected (body ++ [finish]) n requests ∧
      Stands (body ++ [finish]) (n + requests.count .next) (s.serve requests).2 := by
  induction requests generalizing n s with
  | nil => exact ⟨rfl, h⟩
  | cons request requests ih =>
    obtain ⟨hanswer, hstands⟩ := h.answer hbody hfinish request
    obtain ⟨hlog, hrest⟩ := ih hstands
    rw [Stream.serve, hanswer, hlog]
    constructor
    · cases request <;> rfl
    · rw [List.count_cons, Nat.add_comm (requests.count .next), ← Nat.add_assoc]
      rwa [List.count_singleton] at hrest

end

theorem map_fst_expected (tokens : List Token) (n : Nat) (requests : List Request) :
    (expected tokens n requests).map Prod.fst = requests := by
  fun_induction expected tokens n requests <;> simp [*]

theorem mem_taken {log : List Exchange} {t : Token} : t ∈ taken log ↔ (.next, .ok t) ∈ log := by
  induction log with
  | nil => exact ⟨nofun, nofun⟩
  | cons e log ih =>
    obtain ⟨request, answer⟩ := e
    cases request <;> cases answer <;> simp [taken, ih]

/-- The tokens that are taken are the next ones, as many as were asked for. -/
theorem taken_expected (tokens : List Token) (n : Nat) (requests : List Request) :
    taken (expected tokens n requests) = (tokens.drop n).take (requests.count .next) := by
  fun_induction expected tokens n requests with
  | case1 n => simp [taken]
  | case2 n requests ih =>
    rw [List.count_cons_self]
    by_cases hn : n < tokens.length
    · rw [ahead_eq_ok_iff.mpr (List.getElem?_eq_getElem hn), taken, ih,
        List.drop_eq_getElem_cons hn, List.take_succ_cons]
    · rw [ahead_of_length_le (Nat.le_of_not_lt hn), taken, ih, List.drop_eq_nil_iff.mpr (by omega),
        List.drop_eq_nil_iff.mpr (by omega)]
      · simp
      · nofun
  | case3 n requests ih =>
    rw [taken, ih, List.count_cons_of_ne (by decide)]
    nofun

/-- The later answers are those to be expected after the tokens taken so far. -/
theorem exists_of_expected_eq_append {requests : List Request} {before after : List Exchange}
    (h : expected tokens n requests = before ++ after) :
    ∃ m ≥ n, ∃ later, after = expected tokens m later := by
  induction before generalizing n requests with
  | nil => exact ⟨n, Nat.le_refl n, requests, h.symm⟩
  | cons e before ih =>
    fun_cases expected tokens n requests
    · cases h
    · obtain ⟨m, hm, later⟩ := ih (List.cons.inj h).2
      exact ⟨m, by omega, later⟩
    · exact ih (List.cons.inj h).2

theorem ahead_of_mem_expected {requests : List Request} {e : Exchange}
    (h : e ∈ expected tokens n requests) :
    ∃ m ≥ n, e.2 = ahead tokens m := by
  obtain ⟨before, after, hlog⟩ := List.append_of_mem h
  obtain ⟨m, hm, later, hlater⟩ := exists_of_expected_eq_append hlog
  refine ⟨m, hm, ?_⟩
  fun_cases expected tokens m later
  · cases hlater
  · rw [(List.cons.inj hlater).1]
  · rw [(List.cons.inj hlater).1]

/-- A token is taken as it was last looked at. -/
theorem eq_of_expected_peeks {requests : List Request} {looks after : List Exchange}
    {a : Except StreamEnd Token}
    (h : expected tokens n requests = looks ++ (.next, a) :: after)
    (hlooks : ∀ e ∈ looks, e.1 = .peek) :
    a = ahead tokens n := by
  induction looks generalizing requests with
  | nil =>
    fun_cases expected tokens n requests
    · cases h
    · cases h
      rfl
    · cases h
  | cons e looks ih =>
    rw [List.forall_mem_cons] at hlooks
    fun_cases expected tokens n requests
    · cases h
    · rw [← (List.cons.inj h).1] at hlooks
      cases hlooks.1
    · exact ih (List.cons.inj h).2 hlooks.2

/-- A stream of tokens that end in the only mark for the end of the source is read faithfully,
whatever a scanner would report behind it. -/
theorem serve_faithful (hbody : ∀ t ∈ body, t.kind ≠ .finish) (hfinish : finish.kind = .finish)
    (fault : Option ScanFault) (requests : List Request) :
    Faithful (body ++ [finish]) requests ((ofScan ⟨body ++ [finish], fault⟩).serve requests).1
      ((ofScan ⟨body ++ [finish], fault⟩).serve requests).2 := by
  have hstart : Stands (body ++ [finish]) 0 (ofScan ⟨body ++ [finish], fault⟩) :=
    ⟨rfl, Nat.zero_le 1, by simp [ofScan]⟩
  -- Every part follows from the answers that are expected after a number of tokens.
  obtain ⟨hlog, hstands⟩ := hstart.serve hbody hfinish requests
  rw [Nat.zero_add] at hstands
  have htaken := taken_expected (body ++ [finish]) 0 requests
  rw [List.drop_zero, ← hlog] at htaken
  refine ⟨by rw [hlog, map_fst_expected], htaken, ?_, hstands.pushed, ?_, ?_⟩
  · intro before looks after a b h hlooks
    obtain ⟨m, -, later, hlater⟩ := exists_of_expected_eq_append (hlog.symm.trans h)
    fun_cases expected (body ++ [finish]) m later
    · cases hlater
    · cases hlater
    · obtain ⟨ha, hrest⟩ := List.cons.inj hlater
      cases ha
      exact eq_of_expected_peeks hrest.symm hlooks
  · simp only [← mem_taken, htaken]
    rw [hstands.complete]
    constructor
    · intro hle
      exact ⟨finish, by simp [List.take_of_length_le hle], hfinish⟩
    · rintro ⟨t, ht, hkind⟩
      obtain ⟨i, hi, rfl⟩ := List.mem_take_iff_getElem.mp ht
      have := (kind_iff_of_getElem? hbody hfinish (List.getElem?_eq_getElem (by omega))).mp hkind
      omega
  · intro before after t h hkind e he
    obtain ⟨m, -, later, hlater⟩ := exists_of_expected_eq_append (hlog.symm.trans h)
    fun_cases expected (body ++ [finish]) m later
    · cases hlater
    · obtain ⟨ha, rfl⟩ := List.cons.inj hlater
      have ht := ahead_eq_ok_iff.mp (congrArg Prod.snd ha).symm
      have hend := (kind_iff_of_getElem? hbody hfinish ht).mp hkind
      obtain ⟨k, hk, hanswer⟩ := ahead_of_mem_expected he
      rw [hanswer, ahead_of_length_le (Nat.le_trans hend hk)]
    · cases hlater

def shortLine : List Token := [⟨.name, "a", 1, 0⟩, ⟨.newline, "\n", 1, 1⟩]

def shortEnd : Token := ⟨.finish, "", 2, 0⟩

/-- The end is looked at twice before it is taken, and asked for afterwards. -/
def shortRequests : List Request := [.peek, .next, .next, .peek, .peek, .next, .peek, .next]

theorem serve_faithful_shortLine :
    (∀ t ∈ shortLine, t.kind ≠ .finish) ∧ shortEnd.kind = .finish ∧
      Faithful (shortLine ++ [shortEnd]) shortRequests
        ((ofScan ⟨shortLine ++ [shortEnd], none⟩).serve shortRequests).1
        ((ofScan ⟨shortLine ++ [shortEnd], none⟩).serve shortRequests).2 :=
  ⟨by decide, rfl, serve_faithful (by decide) rfl none shortRequests⟩

end Stream

end Harvest.Source
