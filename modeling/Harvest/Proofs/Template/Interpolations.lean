import Harvest.Template.Interpolation
import Mathlib.Data.List.Induction

/-!
# What counts as an interpolation

A text is read from one interpolation to the next. Each is the first `${` that is not escaped and
has a closing brace behind it, and it goes on to the last closing brace that makes its codes valid.
The search goes through shorter and shorter texts, each of which starts with the same `${`, so that
the places found in them are places of the text itself.
-/

namespace Harvest.Template

variable {verdict : List Char → Source.Verdict} {engine : String}
    {s before body inner after p q : List Char}

/-! ## Openings and closing braces -/

/-- Behind `before` an interpolation may open: `body` follows its `${`. -/
structure Opens (s before body : List Char) : Prop where
  text : s = before ++ '$' :: '\x7b' :: body
  plain : before.getLast? ≠ some '\\'
  closed : '\x7d' ∈ body

structure OpensFirst (s before body : List Char) : Prop extends Opens s before body where
  first : ∀ {before' body'}, Opens s before' body' → before.length ≤ before'.length

def Cut (body inner after : List Char) : Prop := body = inner ++ '\x7d' :: after

/-- What is found when the codes between `${` and a closing brace are looked at. -/
def outcome (verdict : List Char → Source.Verdict) (engine : String) (inner : List Char) :
    Source.Verdict :=
  verdictOfAll verdict (searchedCodes engine inner)

/-- A closing brace, and no later one has codes that are anything but invalid. -/
structure LastCut (verdict : List Char → Source.Verdict) (engine : String)
    (body inner after : List Char) :
    Prop where
  cut : Cut body inner after
  later : ∀ {inner' after'}, Cut body inner' after' → inner.length < inner'.length →
    outcome verdict engine inner' = .invalid

/-- What is to be found in a text, from one interpolation to the next. -/
inductive Interpolated (verdict : List Char → Source.Verdict) (engine : String) :
    List Char → Interpolations → Prop
  | plain {s : List Char} (h : ∀ before body, ¬ Opens s before body) :
      Interpolated verdict engine s {}
  | refused {s before body : List Char} (hfirst : OpensFirst s before body)
      (h : ∀ inner after, Cut body inner after → outcome verdict engine inner = .invalid) :
      Interpolated verdict engine s { ending := .invalid }
  | unreadable {s before body inner after : List Char} (hfirst : OpensFirst s before body)
      (hlast : LastCut verdict engine body inner after)
        (h : outcome verdict engine inner = .nullCharacter) :
      Interpolated verdict engine s { ending := .nullCharacter }
  | taken {s before body inner after : List Char} {rest : Interpolations}
    (hfirst : OpensFirst s before body)
      (hlast : LastCut verdict engine body inner after)
      (h : ∀ code ∈ searchedCodes engine inner, verdict code = .valid)
      (hrest : Interpolated verdict engine after rest) :
      Interpolated verdict engine s ⟨searchedCodes engine inner ++ rest.codes, rest.ending⟩

/-- Codes are valid together if each of them is. -/
theorem outcome_eq_valid_iff :
    outcome verdict engine inner = .valid ↔ ∀ code ∈ searchedCodes engine inner,
      verdict code = .valid := by
  unfold outcome
  induction searchedCodes engine inner with
  | nil => simp [verdictOfAll]
  | cons code codes ih =>
    rw [verdictOfAll, List.forall_mem_cons, ← ih]
    cases verdict code <;> simp

theorem opens_nil (c : Char) (cs : List Char) :
    Opens (c :: cs) [] body ↔ c = '$' ∧ cs = '\x7b' :: body ∧ '\x7d' ∈ body := by
  constructor
  · intro h
    have htext := h.text
    rw [List.nil_append, List.cons.injEq] at htext
    exact ⟨htext.1, htext.2, h.closed⟩
  · intro h
    refine ⟨?_, nofun, h.2.2⟩
    rw [h.1, h.2.1]
    rfl

theorem opens_cons (c d : Char) (cs : List Char) :
    Opens (c :: cs) (d :: before) body ↔
      d = c ∧ Opens cs before body ∧ (before = [] → (c == '\\') = false) := by
  have hlast : (d :: before).getLast? = some (before.getLast?.getD d) := List.getLast?_cons
  constructor
  · intro h
    have htext := h.text
    rw [List.cons_append, List.cons.injEq] at htext
    refine ⟨htext.1.symm, ⟨htext.2, fun hbefore => h.plain ?_, h.closed⟩, ?_⟩
    · rw [hlast, hbefore]
      rfl
    · rintro rfl
      have hplain := h.plain
      rw [htext.1]
      simpa using hplain
  · rintro ⟨rfl, h, hplain⟩
    refine ⟨by rw [h.text]; rfl, fun hbefore => ?_, h.closed⟩
    rw [hlast] at hbefore
    cases hcase : before.getLast? with
    | none =>
      have hnil := List.getLast?_eq_none_iff.mp hcase
      rw [hcase] at hbefore
      simp_all
    | some e =>
      rw [hcase] at hbefore
      exact h.plain (hcase.trans hbefore)

theorem OpensFirst.unique {before' body' : List Char} (h : OpensFirst s before body)
    (h' : OpensFirst s before' body') : before = before' ∧ body = body' := by
  have hlength : before.length = before'.length :=
    Nat.le_antisymm (h.first h'.toOpens) (h'.first h.toOpens)
  have htext := h.text.symm.trans h'.text
  obtain ⟨hbefore, hrest⟩ := List.append_inj htext hlength
  exact ⟨hbefore, by simpa using hrest⟩

theorem Cut.eq_of_length {inner' after' : List Char} (h : Cut body inner after)
    (h' : Cut body inner' after')
    (hlength : inner.length = inner'.length) : inner = inner' ∧ after = after' := by
  obtain ⟨hinner, hafter⟩ := List.append_inj (h.symm.trans h') hlength
  exact ⟨hinner, by simpa using hafter⟩

theorem LastCut.unique {inner' after' : List Char} (h : LastCut verdict engine body inner after)
    (hne : outcome verdict engine inner ≠ .invalid) (h' : LastCut verdict engine body inner' after')
    (hne' : outcome verdict engine inner' ≠ .invalid) : inner = inner' ∧ after = after' := by
  refine h.cut.eq_of_length h'.cut ?_
  rcases Nat.lt_trichotomy inner.length inner'.length with hlt | heq | hgt
  · exact absurd (h.later h'.cut hlt) hne'
  · exact heq
  · exact absurd (h'.later h.cut hgt) hne

theorem cut_concat {c : Char} :
    Cut (p ++ [c]) inner after ↔
      c = '\x7d' ∧ inner = p ∧ after = [] ∨ ∃ after', after = after' ++
        [c] ∧ Cut p inner after' := by
  unfold Cut
  constructor
  · intro h
    rcases List.eq_nil_or_concat after with rfl | ⟨after', d, rfl⟩
    · obtain ⟨hp, hc⟩ := List.append_inj' h rfl
      exact .inl ⟨by simpa using hc, hp.symm, rfl⟩
    · rw [List.concat_eq_append, ← List.cons_append, ← List.append_assoc] at h
      obtain ⟨hp, hc⟩ := List.append_inj' h rfl
      exact .inr ⟨after', by rw [List.concat_eq_append, hc], hp⟩
  · rintro (⟨rfl, rfl, rfl⟩ | ⟨after', rfl, rfl⟩)
    · rfl
    · simp

theorem lastCut_concat (p : List Char) : LastCut verdict engine (p ++ ['\x7d']) p [] := by
  refine ⟨rfl, fun h hlt => ?_⟩
  have hlength := congrArg List.length h
  simp only [List.length_append, List.length_cons, List.length_nil] at hlength
  omega

/-! ## Candidates -/

theorem beforeLast?_eq_none_iff {sep : Char} : beforeLast? sep p = none ↔ sep ∉ p := by
  induction p with
  | nil => simp [beforeLast?]
  | cons c cs ih =>
    rw [beforeLast?, List.mem_cons, not_or, ← ih]
    cases beforeLast? sep cs <;> simp [eq_comm]

theorem beforeLast?_concat (sep c : Char) :
    beforeLast? sep (p ++ [c]) = if c = sep then some p else beforeLast? sep p := by
  induction p with
  | nil => simp [beforeLast?]
  | cons d ds ih =>
    rw [List.cons_append, beforeLast?, beforeLast?, ih]
    by_cases hc : c = sep <;> simp [hc]

theorem exists_of_beforeLast? {sep : Char} (h : beforeLast? sep p = some inner) :
    ∃ after, p = inner ++ sep :: after ∧ sep ∉ after := by
  induction p using List.reverseRecOn with
  | nil => cases h
  | append_singleton p c ih =>
    rw [beforeLast?_concat] at h
    by_cases hc : c = sep
    · rw [if_pos hc] at h
      cases h
      exact ⟨[], by rw [hc], List.not_mem_nil⟩
    · rw [if_neg hc] at h
      obtain ⟨after, rfl, hafter⟩ := ih h
      refine ⟨after ++ [c], by simp, ?_⟩
      simp only [List.mem_append, List.mem_singleton, not_or]
      exact ⟨hafter, Ne.symm hc⟩

theorem candidateFrom_cases (start : Nat) (escaped : Bool) (s : List Char) :
    candidateFrom start escaped s = none ∧
        (∀ before body, (before = [] → escaped = false) → ¬ Opens s before body) ∨
      ∃ before body inner, Opens s before body ∧ (before = [] → escaped = false) ∧
        (∀ before' body', (before' = [] → escaped = false) → Opens s before' body' →
          before.length ≤ before'.length) ∧
        beforeLast? '\x7d' body = some inner ∧
        candidateFrom start escaped s = some ⟨start + before.length, inner⟩ := by
  induction s generalizing start escaped with
  | nil =>
    refine .inl ⟨rfl, fun before body _ h => ?_⟩
    cases before <;> cases h.text
  | cons c cs ih =>
    -- Either an interpolation opens at the first character or the search goes on with the next.
    by_cases hhere : ∃ body, Opens (c :: cs) [] body ∧ escaped = false
    · obtain ⟨body, hopens, hescaped⟩ := hhere
      obtain ⟨rfl, rfl, hclosed⟩ := (opens_nil c cs).mp hopens
      cases hlast : beforeLast? '\x7d' body with
      | none => exact absurd hclosed (beforeLast?_eq_none_iff.mp hlast)
      | some inner =>
        refine .inr ⟨[], body, inner, hopens, fun _ => hescaped, fun _ _ _ _ =>
          Nat.zero_le _, hlast, ?_⟩
        rw [candidateFrom]
        simp [hescaped, hlast]
    · -- Nothing opens here, so the search goes on behind the character.
      have hnext : candidateFrom start escaped (c :: cs) =
          candidateFrom (start + 1) (c == '\\') cs := by
        rw [candidateFrom]
        have hnone : (if c = '$' ∧ escaped = false ∧ cs.head? = some '\x7b' then
            beforeLast? '\x7d' (cs.drop 1) else none) = none := by
          split
          · rename_i hopening
            obtain ⟨rfl, hescaped, hhead⟩ := hopening
            obtain ⟨body, rfl⟩ := List.head?_eq_some_iff.mp hhead
            refine beforeLast?_eq_none_iff.mpr fun hclosed => hhere ⟨body, ?_, hescaped⟩
            exact (opens_nil _ _).mpr ⟨rfl, rfl, hclosed⟩
          · rfl
        simp only [hnone]
      -- What opens later opens behind the first character.
      have hbehind {before body : List Char} (hbefore : before = [] → escaped = false)
          (h : Opens (c :: cs) before body) : ∃ before', before = c :: before' ∧
            Opens cs before' body ∧ (before' = [] → (c == '\\') = false) := by
        cases before with
        | nil => exact absurd ⟨body, h, hbefore rfl⟩ hhere
        | cons d before' =>
          obtain ⟨rfl, h⟩ := (opens_cons c d cs).mp h
          exact ⟨before', rfl, h⟩
      rw [hnext]
      rcases ih (start + 1) (c == '\\') with ⟨hnone, hall⟩ | ⟨before, body, inner, hopens, hbefore,
        hfirst, hlast, heq⟩
      · refine .inl ⟨hnone, fun before body hb h => ?_⟩
        obtain ⟨before', -, hopens, hplain⟩ := hbehind hb h
        exact hall before' body hplain hopens
      · refine .inr ⟨c :: before, body, inner, (opens_cons c c cs).mpr ⟨rfl, hopens, hbefore⟩,
          nofun, ?_, hlast, ?_⟩
        · intro before' body' hb h
          obtain ⟨before'', rfl, hopens', hplain⟩ := hbehind hb h
          have hle := hfirst before'' body' hplain hopens'
          simp only [List.length_cons]
          omega
        · rw [heq, List.length_cons, Nat.add_assoc, Nat.add_comm 1]

theorem candidate?_cases (s : List Char) :
    candidate? s = none ∧ (∀ before body, ¬ Opens s before body) ∨
      ∃ before body inner, OpensFirst s before body ∧ beforeLast? '\x7d' body = some inner ∧
        candidate? s = some ⟨before.length, inner⟩ := by
  rcases candidateFrom_cases 0 false s with ⟨hnone, hall⟩ | ⟨before, body, inner, hopens, -,
    hfirst, hlast, heq⟩
  · exact .inl ⟨hnone, fun before body => hall before body fun _ => rfl⟩
  · refine .inr ⟨before, body, inner, ⟨hopens, fun h => hfirst _ _ (fun _ => rfl) h⟩, hlast, ?_⟩
    rw [Nat.zero_add] at heq
    exact heq

theorem candidate?_opening (p : List Char) :
    candidate? ('$' :: '\x7b' :: p) = (beforeLast? '\x7d' p).map (⟨0, ·⟩) := by
  rcases candidate?_cases ('$' :: '\x7b' :: p) with ⟨hnone, hall⟩ | ⟨before, body, inner,
    hfirst, hlast, heq⟩
  · have hopen : '\x7d' ∉ p := fun hclosed => hall [] p ((opens_nil _ _).mpr ⟨rfl, rfl, hclosed⟩)
    rw [hnone, beforeLast?_eq_none_iff.mpr hopen]
    rfl
  · have hclosed : '\x7d' ∈ p := by
      have hmem : '\x7d' ∈ '$' :: '\x7b' :: p := by
        rw [hfirst.text]
        simp [hfirst.closed]
      simpa using hmem
    have hle := hfirst.first ((opens_nil _ _).mpr ⟨rfl, rfl, hclosed⟩)
    have hbefore : before = [] := List.length_eq_zero_iff.mp (Nat.le_zero.mp hle)
    subst hbefore
    obtain ⟨-, hbody, -⟩ := (opens_nil _ _).mp hfirst.toOpens
    cases hbody
    rw [heq, hlast]
    rfl

/-! ## Trying candidates -/

section

variable {candidate : Candidate} (source matched : List Char)

theorem tryCandidates_of_valid (h : outcome verdict engine candidate.inner = .valid) :
    tryCandidates verdict engine source matched (some candidate) =
      .found (searchedCodes engine candidate.inner) (source.drop candidate.stop) := by
  unfold outcome at h
  rw [tryCandidates, h]

theorem tryCandidates_of_invalid (h : outcome verdict engine candidate.inner = .invalid) :
    tryCandidates verdict engine source matched (some candidate) =
      tryCandidates verdict engine source matched.dropLast (candidate? matched.dropLast) := by
  unfold outcome at h
  rw [tryCandidates, h]

theorem tryCandidates_of_nullCharacter
    (h : outcome verdict engine candidate.inner = .nullCharacter) :
    tryCandidates verdict engine source matched (some candidate) = .nullCharacter := by
  unfold outcome at h
  rw [tryCandidates, h]

end

/-- What is found in `${` and `body` if only `p`, with which `body` starts, is still searched. -/
def searchWithin (verdict : List Char → Source.Verdict) (engine : String) (body p : List Char) :
    CandidateSearch :=
  tryCandidates verdict engine ('$' :: '\x7b' :: body) ('$' :: '\x7b' :: p)
    (candidate? ('$' :: '\x7b' :: p))

theorem searchWithin_nil : searchWithin verdict engine body [] = .none := by
  unfold searchWithin
  rw [candidate?_opening, beforeLast?, Option.map_none, tryCandidates]

/-- A character that is no closing brace is given up without any effect: the candidate is the same
as without it, and it is looked at again. -/
theorem searchWithin_concat {c : Char} (hc : c ≠ '\x7d') :
    searchWithin verdict engine body (p ++ [c]) = searchWithin verdict engine body p := by
  have hdrop : ('$' :: '\x7b' :: (p ++ [c])).dropLast = '$' :: '\x7b' :: p := by
    rw [← List.cons_append, ← List.cons_append, List.dropLast_concat]
  have hsame : candidate? ('$' :: '\x7b' :: (p ++ [c])) = candidate? ('$' :: '\x7b' :: p) := by
    rw [candidate?_opening, candidate?_opening, beforeLast?_concat, if_neg hc]
  unfold searchWithin
  rw [hsame]
  cases hcandidate : candidate? ('$' :: '\x7b' :: p) with
  | none => rw [tryCandidates, tryCandidates]
  | some candidate =>
    cases hverdict : outcome verdict engine candidate.inner with
    | valid => rw [tryCandidates_of_valid _ _ hverdict, tryCandidates_of_valid _ _ hverdict]
    | nullCharacter =>
      rw [tryCandidates_of_nullCharacter _ _ hverdict, tryCandidates_of_nullCharacter _ _ hverdict]
    | invalid => rw [tryCandidates_of_invalid _ _ hverdict, hdrop, hcandidate]

theorem searchWithin_append (hq : '\x7d' ∉ q) :
    searchWithin verdict engine body (p ++ q) = searchWithin verdict engine body p := by
  induction q using List.reverseRecOn with
  | nil => rw [List.append_nil]
  | append_singleton q c ih =>
    simp only [List.mem_append, List.mem_singleton, not_or] at hq
    rw [← List.append_assoc, searchWithin_concat (Ne.symm hq.2), ih hq.1]

/-- At a closing brace all that stands before it is tried. -/
theorem searchWithin_brace (p q : List Char) :
    (outcome verdict engine p = .valid ∧
        searchWithin verdict engine (p ++ '\x7d' :: q) (p ++ ['\x7d']) =
          .found (searchedCodes engine p) q) ∨
      (outcome verdict engine p = .nullCharacter ∧
        searchWithin verdict engine (p ++ '\x7d' :: q) (p ++ ['\x7d']) = .nullCharacter) ∨
      (outcome verdict engine p = .invalid ∧
        searchWithin verdict engine (p ++ '\x7d' :: q) (p ++ ['\x7d']) =
          searchWithin verdict engine (p ++ '\x7d' :: q) p) := by
  have hcandidate : candidate? ('$' :: '\x7b' :: (p ++ ['\x7d'])) = some ⟨0, p⟩ := by
    rw [candidate?_opening, beforeLast?_concat, if_pos rfl]
    rfl
  have hdrop : ('$' :: '\x7b' :: (p ++ ['\x7d'])).dropLast = '$' :: '\x7b' :: p := by
    rw [← List.cons_append, ← List.cons_append, List.dropLast_concat]
  -- The place is one of the text that is searched, and it is the same place of the text itself.
  have hafter : ('$' :: '\x7b' :: (p ++ '\x7d' :: q)).drop (Candidate.stop ⟨0, p⟩) = q := by
    have hstop : Candidate.stop ⟨0, p⟩ = ('$' :: '\x7b' :: (p ++ ['\x7d'])).length := by
      simp [Candidate.stop]
    have htext : '$' :: '\x7b' :: (p ++ '\x7d' :: q) =
      ('$' :: '\x7b' :: (p ++ ['\x7d'])) ++ q := by simp
    rw [hstop, htext, List.drop_left]
  unfold searchWithin
  rw [hcandidate]
  cases hverdict : outcome verdict engine p with
  | valid => exact .inl ⟨rfl, by rw [tryCandidates_of_valid _ _ hverdict, hafter]⟩
  | nullCharacter => exact .inr (.inl ⟨rfl, tryCandidates_of_nullCharacter _ _ hverdict⟩)
  | invalid => exact .inr (.inr ⟨rfl, by rw [tryCandidates_of_invalid _ _ hverdict, hdrop]⟩)

/-- What is found in `p` when `q` follows it: the last closing brace counts whose codes are not
invalid. -/
inductive Searched (verdict : List Char → Source.Verdict) (engine : String) (p q : List Char) :
    CandidateSearch → Prop
  | none (h : ∀ inner after, Cut p inner after → outcome verdict engine inner = .invalid) :
      Searched verdict engine p q .none
  | nullCharacter {inner after : List Char} (hlast : LastCut verdict engine p inner after)
      (h : outcome verdict engine inner = .nullCharacter) :
      Searched verdict engine p q .nullCharacter
  | found {inner after : List Char} (hlast : LastCut verdict engine p inner after)
      (h : outcome verdict engine inner = .valid) :
      Searched verdict engine p q (.found (searchedCodes engine inner) (after ++ q))

theorem LastCut.concat {c : Char} (h : LastCut verdict engine p inner after)
    (hp : c = '\x7d' → outcome verdict engine p = .invalid) :
    LastCut verdict engine (p ++ [c]) inner (after ++ [c]) := by
  refine ⟨cut_concat.mpr (.inr ⟨after, rfl, h.cut⟩), fun hcut hlt => ?_⟩
  rcases cut_concat.mp hcut with ⟨hc, rfl, -⟩ | ⟨after', -, hcut⟩
  · exact hp hc
  · exact h.later hcut hlt

theorem Searched.concat {c : Char} {found : CandidateSearch}
    (h : Searched verdict engine p (c :: q) found)
    (hp : c = '\x7d' → outcome verdict engine p = .invalid) :
    Searched verdict engine (p ++ [c]) q found := by
  cases h with
  | none hall =>
    refine .none fun inner after hcut => ?_
    rcases cut_concat.mp hcut with ⟨hc, rfl, -⟩ | ⟨after', -, hcut⟩
    · exact hp hc
    · exact hall inner after' hcut
  | nullCharacter hlast hnull => exact .nullCharacter (hlast.concat hp) hnull
  | found hlast hvalid =>
    have hfound := Searched.found (q := q) (hlast.concat hp) hvalid
    rwa [List.append_assoc, List.singleton_append] at hfound

theorem searched (verdict : List Char → Source.Verdict) (engine : String) (p q : List Char) :
    Searched verdict engine p q (searchWithin verdict engine (p ++ q) p) := by
  induction p using List.reverseRecOn generalizing q with
  | nil =>
    rw [searchWithin_nil]
    exact .none fun inner after h => by cases inner <;> cases h
  | append_singleton p c ih =>
    rw [List.append_assoc, List.singleton_append]
    by_cases hc : c = '\x7d'
    · subst hc
      rcases searchWithin_brace p q with ⟨hvalid, hfound⟩ | ⟨hnull, hfound⟩ | ⟨hinvalid, hsame⟩
      · rw [hfound]
        exact .found (lastCut_concat p) hvalid
      · rw [hfound]
        exact .nullCharacter (lastCut_concat p) hnull
      · rw [hsame]
        exact (ih _).concat fun _ => hinvalid
    · rw [searchWithin_concat hc]
      exact (ih _).concat fun h => absurd h hc

/-! ## Texts -/

/-- At the first place where an interpolation may open, the whole text behind it is searched. -/
theorem tryCandidates_of_first (verdict : List Char → Source.Verdict) (engine : String)
    {first : Candidate} (hfirst : OpensFirst s before body) (h : candidate? s = some first) :
    tryCandidates verdict engine (s.drop first.start) ((s.take first.stop).drop first.start)
      (candidate? (s.drop first.start)) = searchWithin verdict engine body body := by
  obtain ⟨inner, hlast, rfl⟩ : ∃ inner, beforeLast? '\x7d' body = some inner ∧
      first = ⟨before.length, inner⟩ := by
    rcases candidate?_cases s with ⟨hnone, -⟩ | ⟨before', body', inner, hfirst', hlast, heq⟩
    · cases hnone.symm.trans h
    · obtain ⟨rfl, rfl⟩ := hfirst.unique hfirst'
      exact ⟨inner, hlast, Option.some.inj (h.symm.trans heq)⟩
  obtain ⟨after, hbody, hafter⟩ := exists_of_beforeLast? hlast
  have hsource : s.drop before.length = '$' :: '\x7b' :: body := by rw [hfirst.text, List.drop_left]
  have hmatched : (s.take (Candidate.stop ⟨before.length, inner⟩)).drop before.length =
      '$' :: '\x7b' :: (inner ++ ['\x7d']) := by
    have hstop : Candidate.stop ⟨before.length, inner⟩ - before.length =
        ('$' :: '\x7b' :: (inner ++ ['\x7d'])).length := by
      simp only [Candidate.stop, List.length_cons, List.length_append, List.length_nil]
      omega
    have htext : '$' :: '\x7b' :: body = ('$' :: '\x7b' :: (inner ++ ['\x7d'])) ++ after := by
      rw [hbody]
      simp
    rw [List.drop_take, hsource, hstop, htext, List.take_left]
  have hsame : candidate? ('$' :: '\x7b' :: body) =
      candidate? ('$' :: '\x7b' :: (inner ++ ['\x7d'])) := by
    rw [candidate?_opening, candidate?_opening, hlast, beforeLast?_concat, if_pos rfl]
  dsimp only
  rw [hsource, hmatched, hsame]
  have hwhole : searchWithin verdict engine body (inner ++ ['\x7d'] ++ after) =
      searchWithin verdict engine body (inner ++ ['\x7d']) := searchWithin_append hafter
  rw [List.append_assoc, List.singleton_append, ← hbody] at hwhole
  rw [hwhole]
  rfl

/-- The search finds what is to be found, from one interpolation to the next. -/
theorem interpolated (s : List Char) :
    Interpolated verdict engine s (interpolations verdict engine s) := by
  -- The search goes on in what follows an interpolation, which is shorter.
  induction hn : s.length using Nat.strongRecOn generalizing s with
  | ind n ih =>
    subst hn
    rw [interpolations]
    rcases candidate?_cases s with ⟨hnone, hall⟩ | ⟨before, body, inner, hfirst, -, heq⟩
    · split
      · exact .plain hall
      · rename_i hsome
        cases hnone.symm.trans hsome
    · split
      · rename_i hnone
        cases hnone.symm.trans heq
      · rename_i first hsome
        have htry := tryCandidates_of_first verdict engine hfirst hsome
        have hsearched := searched verdict engine body []
        rw [List.append_nil, ← htry] at hsearched
        dsimp only
        split
        · rename_i hsearch
          rw [hsearch] at hsearched
          cases hsearched with
          | none hall => exact .refused hfirst hall
        · rename_i hsearch
          rw [hsearch] at hsearched
          cases hsearched with
          | nullCharacter hlast hnull => exact .unreadable hfirst hlast hnull
        · rename_i hsearch
          rw [hsearch] at hsearched
          cases hsearched with
          | found hlast hvalid =>
            rw [List.append_nil]
            refine .taken hfirst hlast (outcome_eq_valid_iff.mp hvalid) (ih _ ?_ _ rfl)
            have hs := congrArg List.length hfirst.text
            have hbody := congrArg List.length hlast.cut
            simp only [List.length_append, List.length_cons] at hs hbody
            omega

theorem Interpolated.unique {found found' : Interpolations}
    (h : Interpolated verdict engine s found)
    (h' : Interpolated verdict engine s found') : found = found' := by
  -- The first place where one opens and its last cut are unique, so the outcomes are of one kind.
  induction h generalizing found' with
  | plain hnone =>
    cases h' with
    | plain => rfl
    | refused hfirst | unreadable hfirst | taken hfirst => exact absurd hfirst.toOpens (hnone _ _)
  | refused hfirst hall =>
    cases h' with
    | plain hnone => exact absurd hfirst.toOpens (hnone _ _)
    | refused => rfl
    | unreadable hfirst' hlast hnull =>
      obtain ⟨rfl, rfl⟩ := hfirst.unique hfirst'
      cases hnull.symm.trans (hall _ _ hlast.cut)
    | taken hfirst' hlast hvalid =>
      obtain ⟨rfl, rfl⟩ := hfirst.unique hfirst'
      cases (outcome_eq_valid_iff.mpr hvalid).symm.trans (hall _ _ hlast.cut)
  | unreadable hfirst hlast hnull =>
    cases h' with
    | plain hnone => exact absurd hfirst.toOpens (hnone _ _)
    | refused hfirst' hall =>
      obtain ⟨rfl, rfl⟩ := hfirst.unique hfirst'
      cases hnull.symm.trans (hall _ _ hlast.cut)
    | unreadable => rfl
    | taken hfirst' hlast' hvalid =>
      obtain ⟨rfl, rfl⟩ := hfirst.unique hfirst'
      obtain ⟨rfl, rfl⟩ :=
        hlast.unique (by simp [hnull]) hlast' (by simp [outcome_eq_valid_iff.mpr hvalid])
      cases hnull.symm.trans (outcome_eq_valid_iff.mpr hvalid)
  | taken hfirst hlast hvalid _ ih =>
    cases h' with
    | plain hnone => exact absurd hfirst.toOpens (hnone _ _)
    | refused hfirst' hall =>
      obtain ⟨rfl, rfl⟩ := hfirst.unique hfirst'
      cases (outcome_eq_valid_iff.mpr hvalid).symm.trans (hall _ _ hlast.cut)
    | unreadable hfirst' hlast' hnull =>
      obtain ⟨rfl, rfl⟩ := hfirst.unique hfirst'
      obtain ⟨rfl, rfl⟩ :=
        hlast.unique (by simp [outcome_eq_valid_iff.mpr hvalid]) hlast' (by simp [hnull])
      cases hnull.symm.trans (outcome_eq_valid_iff.mpr hvalid)
    | taken hfirst' hlast' hvalid' hrest' =>
      obtain ⟨rfl, rfl⟩ := hfirst.unique hfirst'
      obtain ⟨rfl, rfl⟩ := hlast.unique (by simp [outcome_eq_valid_iff.mpr hvalid]) hlast'
        (by simp [outcome_eq_valid_iff.mpr hvalid'])
      rw [ih hrest']

/-- There is no more than one outcome that a search may have. -/
theorem Interpolated.eq {found : Interpolations} (h : Interpolated verdict engine s found) :
    interpolations verdict engine s = found := (interpolated s).unique h

theorem interpolated_nil : Interpolated verdict engine [] {} :=
  .plain fun before body h => by cases before <;> cases h.text

/-- What comes of an interpolation with the only closing brace of a text at its end is the verdict
on its codes. -/
theorem interpolations_of_only (verdict : List Char → Source.Verdict) (engine : String)
    (hfirst : OpensFirst s before (inner ++ ['\x7d'])) (h : '\x7d' ∉ inner) :
    interpolations verdict engine s =
      if outcome verdict engine inner = .valid then { codes := searchedCodes engine inner }
      else { ending := outcome verdict engine inner } := by
  apply Interpolated.eq
  cases hverdict : outcome verdict engine inner with
  | valid =>
    rw [if_pos rfl]
    have htaken :=
      Interpolated.taken hfirst (lastCut_concat inner)
      (outcome_eq_valid_iff.mp hverdict) interpolated_nil
    rwa [List.append_nil] at htaken
  | invalid =>
    refine .refused hfirst fun inner' after hcut => ?_
    rcases cut_concat.mp hcut with ⟨-, rfl, -⟩ | ⟨after', -, hcut⟩
    · exact hverdict
    · exact absurd (by rw [hcut]; simp) h
  | nullCharacter => exact .unreadable hfirst (lastCut_concat inner) hverdict

/-- The search, which tries shorter and shorter texts, finds just what is to be found in a text, for
any way to tell which codes are valid. -/
theorem interpolations_eq_iff (verdict : List Char → Source.Verdict)
    (engine : String) (s : List Char) (found : Interpolations) :
    interpolations verdict engine s = found ↔ Interpolated verdict engine s found := by
  constructor
  · rintro rfl
    exact interpolated s
  · exact Interpolated.eq

end Harvest.Template
