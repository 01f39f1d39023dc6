import Harvest.Source.Literal
import Harvest.Template.Engine

/-!
Interpolations: expressions that stand in a text between `${` and a closing brace. An expression
may hold braces itself, so the longest candidate is tried first. While it is not valid, the text is
searched again without its last character.
-/

namespace Harvest.Template

/-- A part of a text that may be an interpolation: the number of characters before it, and what
stands between its braces. -/
structure Candidate where
  start : Nat
  inner : List Char
deriving DecidableEq, Repr

def Candidate.stop (c : Candidate) : Nat := c.start + c.inner.length + 3

def beforeLast? (sep : Char) : List Char → Option (List Char)
  | [] => none
  | c :: cs =>
      match beforeLast? sep cs with
      | some before => some (c :: before)
      | none => if c = sep then some [] else none

/-- The worker of `candidate?`: `start` characters lie before the text, and `escaped` tells that the
last of them is a backslash. -/
def candidateFrom : Nat → Bool → List Char → Option Candidate
  | _, _, [] => none
  | start, escaped, c :: cs =>
      let here :=
        if c = '$' ∧ escaped = false ∧ cs.head? = some '\x7b' then beforeLast? '\x7d' (cs.drop 1)
        else none
      match here with
      | some inner => some ⟨start, inner⟩
      | none => candidateFrom (start + 1) (c == '\\') cs

/-- The first `${` that no backslash stands before and that has a closing brace after it, taken up
to the last closing brace. -/
def candidate? (s : List Char) : Option Candidate := candidateFrom 0 false s

theorem candidate?_nil : candidate? [] = none := rfl

def verdictOfAll (verdict : List Char → Source.Verdict) : List (List Char) → Source.Verdict
  | [] => .valid
  | code :: codes =>
      match verdict code with
      | .valid => verdictOfAll verdict codes
      | other => other

inductive CandidateSearch where
  | found (codes : List (List Char)) (after : List Char)
  | none
  | nullCharacter
deriving DecidableEq, Repr

/-- Tries a candidate of `source`. If it is not valid, the last character of `matched`, which is the
part of `source` that is still searched, is given up, and the next candidate is what is left. -/
def tryCandidates (verdict : List Char → Source.Verdict) (engine : String) (source : List Char)
    (matched : List Char) : Option Candidate → CandidateSearch
  | none => .none
  | some candidate =>
      let codes := searchedCodes engine candidate.inner
      match verdictOfAll verdict codes with
      | .valid => .found codes (source.drop candidate.stop)
      | .invalid =>
          tryCandidates verdict engine source matched.dropLast (candidate? matched.dropLast)
      | .nullCharacter => .nullCharacter
termination_by candidate => matched.length + candidate.toList.length
decreasing_by
  have hone : (candidate? matched.dropLast).toList.length ≤ 1 := by
    cases candidate? matched.dropLast <;> simp
  cases matched with
  | nil => simp [candidate?_nil]
  | cons c cs =>
    simp only [List.length_dropLast, List.length_cons, Option.toList_some, List.length_nil]
    omega

theorem exists_of_tryCandidates {verdict : List Char → Source.Verdict} {engine : String}
    {source matched after : List Char} {candidate : Option Candidate} {codes : List (List Char)}
    (h : tryCandidates verdict engine source matched candidate = .found codes after) :
    ∃ n, 0 < n ∧ after = source.drop n := by
  fun_induction tryCandidates verdict engine source matched candidate with
  | case1 | case4 => cases h
  | case2 matched candidate =>
    simp only [CandidateSearch.found.injEq] at h
    exact ⟨candidate.stop, Nat.succ_pos _, h.2.symm⟩
  | case3 _ _ _ _ ih => exact ih h

/-- The codes found in a text, and how the search ended: it stops at an interpolation that no
closing brace makes valid. -/
structure Interpolations where
  codes : List (List Char) := []
  ending : Source.Verdict := .valid
deriving DecidableEq, Repr, Inhabited

def interpolations (verdict : List Char → Source.Verdict) (engine : String) (s : List Char) :
    Interpolations :=
  match _hfirst : candidate? s with
  | none => {}
  | some first =>
      let source := s.drop first.start
      let matched := (s.take first.stop).drop first.start
      match _hsearch : tryCandidates verdict engine source matched (candidate? source) with
      | .none => { ending := .invalid }
      | .nullCharacter => { ending := .nullCharacter }
      | .found codes after =>
          let rest := interpolations verdict engine after
          { rest with codes := codes ++ rest.codes }
termination_by s.length
decreasing_by
  obtain ⟨n, hn, rfl⟩ := exists_of_tryCandidates _hsearch
  have hs : s ≠ [] := by
    rintro rfl
    cases _hfirst
  have hlength := List.length_pos_iff.mpr hs
  show ((s.drop first.start).drop n).length < s.length
  simp only [List.length_drop]
  omega

end Harvest.Template
