import Harvest.Proofs.Source.StrayBrace
import Harvest.Proofs.Template.Interpolations
import Harvest.Proofs.Text.Words

/-!
# Two interpolations with a blank between them

The longest text is tried first, so both are first read as one: the last alternative of the first
runs on into the first alternative of the second. Code never goes on behind a closing brace, so the
two are told apart if that alternative is code. If it is not, nothing is wrong with the two as one.
-/

namespace Harvest.Template

open Text
open Source (isExpression)

variable {engine : String} {s t e e' last z blanks : List Char}

/-! ## Alternatives of a longer text -/

theorem alternatives_cons {c : Char} {first : List Char} {more : List (List Char)} (hbar : c ≠ '|')
    (hslash : c ≠ '\\')
    (h : alternatives s = first :: more) : alternatives (c :: s) = (c :: first) :: more := by
  unfold alternatives at h
  have hescaped : (c == '\\') = false := beq_false_of_ne hslash
  simp only [alternatives, alternativesFrom, hbar, false_and, if_false, hescaped, h]

theorem alternatives_ne_nil (s : List Char) : alternatives s ≠ [] := by
  unfold alternatives
  cases s with
  | nil => simp [alternativesFrom]
  | cons c s =>
    rw [alternativesFrom]
    split
    · simp
    · split <;> simp

theorem mem_alternativesFrom {escaped : Bool} {part : List Char}
    (h : part ∈ alternativesFrom escaped s) {c : Char} (hc : c ∈ part) : c ∈ s := by
  induction s generalizing escaped part with
  | nil =>
    rw [alternativesFrom, List.mem_singleton] at h
    rwa [h] at hc
  | cons d s ih =>
    rw [alternativesFrom] at h
    split at h
    · rcases List.mem_cons.mp h with rfl | h
      · cases hc
      · exact List.mem_cons_of_mem d (ih h hc)
    · cases hrest : alternativesFrom (d == '\\') s with
      | nil =>
        simp only [hrest, List.mem_singleton] at h
        exact List.mem_cons.mpr (.inl (List.mem_singleton.mp (h ▸ hc)))
      | cons first more =>
        simp only [hrest, List.mem_cons] at h
        rcases h with rfl | h
        · rcases List.mem_cons.mp hc with rfl | hc
          · exact List.mem_cons_self
          · exact List.mem_cons_of_mem d (ih (hrest ▸ List.mem_cons_self) hc)
        · exact List.mem_cons_of_mem d (ih (hrest ▸ List.mem_cons_of_mem first h) hc)

/-- Text that is added to an expression goes to its last alternative. -/
theorem exists_alternatives_append (hs : '\\' ∉ s) :
    ∃ init last, alternatives s = init ++ [last] ∧
      ∀ {t first more}, alternatives t = first :: more →
        alternatives (s ++ t) = init ++ (last ++ first) :: more := by
  induction s with
  | nil => exact ⟨[], [], rfl, fun h => h⟩
  | cons c s ih =>
    rw [List.mem_cons, not_or] at hs
    obtain ⟨init, last, hinit, happend⟩ := ih hs.2
    by_cases hbar : c = '|'
    · have hcons (s : List Char) : alternatives (c :: s) = [] :: alternatives s := by
        rw [alternatives, alternativesFrom, if_pos ⟨hbar, rfl⟩]
        rfl
      refine ⟨[] :: init, last, by rw [hcons, hinit]; rfl, fun h => ?_⟩
      rw [List.cons_append, hcons, happend h]
      rfl
    · have hslash : c ≠ '\\' := Ne.symm hs.1
      cases init with
      | nil => exact ⟨[], c :: last, alternatives_cons hbar hslash hinit, fun h =>
          alternatives_cons hbar hslash (happend h)⟩
      | cons first init =>
        exact ⟨(c :: first) :: init, last, alternatives_cons hbar hslash hinit, fun h =>
          alternatives_cons hbar hslash (happend h)⟩

/-! ## An alternative that runs on behind a closing brace -/

def alternative (engine : String) (part : List Char) : Expression :=
  .ofText engine (replace ['\\', '|'] ['|'] (trim part))

def codesOf (engine : String) (parts : List (List Char)) : List (List Char) :=
  ((parts.map (alternative engine)).filter (·.engine = searchedEngine)).map (·.code)

theorem searchedCodes_eq_codesOf (engine : String) (s : List Char) :
    searchedCodes engine s = codesOf engine (alternatives s) := rfl

theorem codesOf_append (p q : List (List Char)) :
    codesOf engine (p ++ q) = codesOf engine p ++ codesOf engine q := by
  simp [codesOf]

theorem codesOf_cons (part : List Char) (parts : List (List Char)) :
    codesOf engine (part :: parts) = (if (alternative engine part).engine = searchedEngine then
      [(alternative engine part).code] else []) ++ codesOf engine parts := by
  unfold codesOf
  rw [List.map_cons, List.filter_cons]
  split <;> simp_all

theorem trimLeft_append_brace (s z : List Char) (hblanks : ∀ c ∈ blanks, isBlank c = true) :
    ∃ kept, kept ⊆ blanks ∧ trimLeft (s ++ (blanks ++ '\x7d' :: z)) = trimLeft s ++
      (kept ++ '\x7d' :: z) := by
  have hbrace : trimLeft (blanks ++ '\x7d' :: z) = '\x7d' :: z := by
    unfold trimLeft
    rw [List.dropWhile_append_of_pos hblanks]
    rfl
  unfold trimLeft at hbrace ⊢
  rw [List.dropWhile_append]
  split
  · rename_i hempty
    refine ⟨[], List.nil_subset blanks, ?_⟩
    rw [List.isEmpty_iff.mp hempty, hbrace]
    rfl
  · exact ⟨blanks, List.Subset.refl blanks, rfl⟩

theorem isEngineTail_of_isBlank {y : Char} (hy : isBlank y = true) :
    isEngineTail y = false ∧ y ≠ ':' := by
  have hall : ∀ n ∈ Source.blankCodes, isEngineTail (.ofNat n) = false ∧
    Char.ofNat n ≠ ':' := by decide
  have h := hall _ (Source.toNat_mem_blankCodes hy)
  rwa [Char.ofNat_toNat] at h

theorem engineName?_append_brace (s z : List Char) (hblanks : ∀ c ∈ blanks, isBlank c = true) :
    ∃ kept, kept ⊆ blanks ∧ engineName? (s ++ (blanks ++ '\x7d' :: z)) =
      (engineName? s).map fun (name, code) => (name, code ++ (kept ++ '\x7d' :: z)) := by
  obtain ⟨kept, hkept, htrim⟩ := trimLeft_append_brace s z hblanks
  -- What follows the text starts with a blank or the brace, which is neither part of a name nor a
  -- colon.
  obtain ⟨y, ys, hys, hytail, hycolon⟩ : ∃ y ys, kept ++ '\x7d' :: z = y :: ys ∧
      isEngineTail y = false ∧ y ≠ ':' := by
    cases kept with
    | nil => exact ⟨'\x7d', z, rfl, by decide, by decide⟩
    | cons y ys =>
      exact ⟨y, ys ++ '\x7d' :: z, rfl,
      isEngineTail_of_isBlank (hblanks y (hkept List.mem_cons_self))⟩
  have hname : (trimLeft s ++ y :: ys).takeWhile isEngineTail =
      (trimLeft s).takeWhile isEngineTail := by
    rw [List.takeWhile_append]
    split
    · rename_i hall
      rw [List.takeWhile_cons_of_neg (by simp [hytail]), List.append_nil,
        (List.takeWhile_prefix isEngineTail).eq_of_length hall]
    · rfl
  have hdrop : (trimLeft s ++ y :: ys).drop ((trimLeft s).takeWhile isEngineTail).length =
      (trimLeft s).drop ((trimLeft s).takeWhile isEngineTail).length ++ y :: ys :=
    List.drop_append_of_le_length (List.takeWhile_prefix isEngineTail).length_le
  unfold engineName?
  simp only [htrim, hys, hname, hdrop]
  cases (trimLeft s).drop ((trimLeft s).takeWhile isEngineTail).length with
  | nil => exact ⟨[], List.nil_subset blanks, by simp [hycolon]⟩
  | cons c rest =>
    obtain ⟨kept', hkept', htrim'⟩ := trimLeft_append_brace rest z fun c hc => hblanks c (hkept hc)
    refine ⟨kept', List.Subset.trans hkept' hkept, ?_⟩
    rw [hys] at htrim'
    by_cases hc : c = ':'
    · subst hc
      rw [List.cons_append]
      simp only [htrim']
      split <;> rfl
    · simp [hc]

theorem alternative_of_notMem (engine : String) (hs : '\\' ∉ s) :
    alternative engine s = .ofText engine (trim s) := by
  rw [alternative, replace_of_notMem fun h => hs (mem_of_mem_trim h)]

theorem mem_of_engineName? {name : String} {code : List Char}
    (h : engineName? s = some (name, code)) {c : Char} (hc : c ∈ code) : c ∈ s := by
  unfold engineName? at h
  dsimp only at h
  split at h
  · rename_i rest hrest
    split at h
    · simp only [Option.some.injEq, Prod.mk.injEq] at h
      rw [← h.2] at hc
      have hmem : c ∈ ':' :: rest := List.mem_cons_of_mem _ ((List.dropWhile_suffix isBlank).mem hc)
      rw [← hrest] at hmem
      exact (List.dropWhile_suffix isBlank).mem (List.mem_of_mem_drop hmem)
    · cases h
  · cases h

theorem mem_of_mem_code {c : Char} (hs : '\\' ∉ s) (h : c ∈ (alternative engine s).code) :
    c ∈ s := by
  rw [alternative_of_notMem engine hs] at h
  apply mem_of_mem_trim
  unfold Expression.ofText at h
  cases hname : engineName? (trim s) with
  | none => rwa [hname] at h
  | some named =>
    rw [hname] at h
    exact mem_of_engineName? hname h

theorem alternative_append_brace (engine : String) (hlast : '\\' ∉ last) (hz : '\\' ∉ z) :
    ∃ blanks, (∀ c ∈ blanks, isBlank c = true ∧ c ∈ last) ∧
      alternative engine (last ++ '\x7d' :: z) =
        ⟨(alternative engine last).engine,
          (alternative engine last).code ++ (blanks ++ '\x7d' :: trimRight z)⟩ := by
  obtain ⟨blanks, hblanks, htrimmed⟩ := exists_trimRight_append (trimLeft last)
  have hblank : ∀ c ∈ blanks, isBlank c = true := List.all_eq_true.mp hblanks
  have hmem : ∀ c ∈ blanks, isBlank c = true ∧ c ∈ last := by
    intro c hc
    have hleft : c ∈ trimLeft last := by
      rw [htrimmed]
      exact List.mem_append_right _ hc
    exact ⟨hblank c hc, (List.dropWhile_suffix isBlank).mem hleft⟩
  have htrim : trim (last ++ '\x7d' :: z) = trim last ++ (blanks ++ '\x7d' :: trimRight z) := by
    have hnone : ∀ c ∈ ([] : List Char), isBlank c = true := nofun
    obtain ⟨kept, hkept, hleft⟩ := trimLeft_append_brace last z hnone
    rw [List.subset_nil.mp hkept, List.nil_append] at hleft
    have hbrace : allBlank ('\x7d' :: z) = false := rfl
    unfold trim
    rw [← List.append_assoc, ← htrimmed, hleft, trimRight_append, hbrace, trimRight_cons]
    rfl
  have hslash : '\\' ∉ last ++ '\x7d' :: z := by simp [hlast, hz]
  obtain ⟨kept, hkept, hname⟩ := engineName?_append_brace (trim last) (trimRight z) hblank
  rw [alternative_of_notMem engine hlast, alternative_of_notMem engine hslash, htrim]
  unfold Expression.ofText
  rw [hname]
  cases engineName? (trim last) with
  | none => exact ⟨blanks, hmem, rfl⟩
  | some named => exact ⟨kept, fun c hc => hmem c (hkept hc), rfl⟩

/-! ## Two interpolations -/

def interpolation (e : List Char) : List Char := '$' :: '\x7b' :: (e ++ ['\x7d'])

/-- Both as one: what stands between the first `${` and the last closing brace. -/
def joined (e e' : List Char) : List Char := e ++ '\x7d' :: ' ' :: '$' :: '\x7b' :: e'

/-- An expression on one line without braces, dollar signs, comments and escapes. -/
def IsSimple (e : List Char) : Prop := ∀ c ∈ e, c ∉ ['$', '\x7b', '\x7d', '#', '\\', '\n']

instance (e : List Char) : Decidable (IsSimple e) :=
  decidable_of_iff (e.all fun c => decide (c ∉ ['$', '\x7b', '\x7d', '#', '\\', '\n']))
    (by simp [IsSimple])

/-- A simple expression has none of the characters that interpolations are made of. -/
theorem IsSimple.notMem (h : IsSimple e) {c : Char}
    (hc : c ∈ ['$', '\x7b', '\x7d', '#', '\\', '\n']) : c ∉ e :=
  fun hmem => h c hmem hc

theorem IsSimple.alternative (h : IsSimple e) {part : List Char} (hpart : part ∈ alternatives e) :
    IsSimple part :=
  fun c hc => h c (mem_alternativesFrom hpart hc)

/-- A text with one interpolation has its codes just if they are valid. -/
theorem interpolations_single (engine : String) (he : '\x7d' ∉ e) :
    interpolations Source.verdict engine (interpolation e) =
      if outcome Source.verdict engine e = .valid then { codes := searchedCodes engine e }
      else { ending := outcome Source.verdict engine e } := by
  have hfirst : OpensFirst (interpolation e) [] (e ++ ['\x7d']) :=
    ⟨(opens_nil _ _).mpr ⟨rfl, rfl, by simp⟩, fun _ => Nat.zero_le _⟩
  exact interpolations_of_only _ _ hfirst he

theorem interpolations_of_ending (he : '\x7d' ∉ e)
    (hends : (interpolations Source.verdict engine (interpolation e)).ending = .valid) :
    outcome Source.verdict engine e = .valid ∧
      interpolations Source.verdict engine (interpolation e) =
        { codes := searchedCodes engine e } := by
  have hsingle := interpolations_single engine he
  split at hsingle
  · rename_i hvalid
    exact ⟨hvalid, hsingle⟩
  · rename_i hvalid
    rw [hsingle] at hends
    exact absurd hends hvalid

theorem opensFirst_joined (e e' : List Char) :
    OpensFirst (interpolation e ++ ' ' :: interpolation e') [] (joined e e' ++ ['\x7d']) := by
  refine ⟨⟨?_, nofun, by simp⟩, fun _ => Nat.zero_le _⟩
  simp [interpolation, joined]

theorem cut_joined (he : '\x7d' ∉ e) (he' : '\x7d' ∉ e') {inner after : List Char}
    (h : Cut (joined e e' ++ ['\x7d']) inner after) : inner = joined e e' ∨ inner = e := by
  rcases cut_concat.mp h with ⟨-, hinner, -⟩ | ⟨after', -, hcut⟩
  · exact .inl hinner
  · have hbehind : '\x7d' ∉ ' ' :: '$' :: '\x7b' :: e' := by simp [he']
    exact .inr ((List.append_cons_inj_of_notMem he hbehind).mp hcut).1.symm

theorem interpolations_of_valid (h : outcome Source.verdict engine (joined e e') = .valid) :
    interpolations Source.verdict engine (interpolation e ++ ' ' :: interpolation e') =
      { codes := searchedCodes engine (joined e e') } := by
  have htaken :=
    Interpolated.taken (opensFirst_joined e e') (lastCut_concat _)
      (outcome_eq_valid_iff.mp h) interpolated_nil
  rw [List.append_nil] at htaken
  exact htaken.eq

/-- If both are no code as one, the first is taken and the second is searched by itself. -/
theorem interpolations_of_invalid (he : IsSimple e) (he' : IsSimple e')
    (hvalid : outcome Source.verdict engine e = .valid)
    (hvalid' : outcome Source.verdict engine e' = .valid)
    (h : outcome Source.verdict engine (joined e e') = .invalid) :
    interpolations Source.verdict engine (interpolation e ++ ' ' :: interpolation e') =
      { codes := searchedCodes engine e ++ searchedCodes engine e' } := by
  have hbrace := he.notMem (c := '\x7d') (by decide)
  have hbrace' := he'.notMem (c := '\x7d') (by decide)
  have hlast :
      LastCut Source.verdict engine (joined e e' ++ ['\x7d']) e (' ' :: interpolation e') := by
    refine ⟨by simp [Cut, joined, interpolation], fun hcut hlt => ?_⟩
    rcases cut_joined hbrace hbrace' hcut with rfl | rfl
    · exact h
    · exact absurd hlt (Nat.lt_irrefl _)
  have hfirst : OpensFirst (' ' :: interpolation e') [' '] (e' ++ ['\x7d']) := by
    refine ⟨⟨rfl, by decide, by simp⟩, fun hopens => ?_⟩
    rename_i before' body'
    cases before' with
    | nil => exact absurd ((opens_nil _ _).mp hopens).1 (by decide)
    | cons _ _ => exact Nat.succ_le_succ (Nat.zero_le _)
  have hrest : Interpolated Source.verdict engine (' ' :: interpolation e') _ := interpolated _
  rw [interpolations_of_only _ _ hfirst hbrace', if_pos hvalid'] at hrest
  exact (Interpolated.taken (opensFirst_joined e e') hlast
    (outcome_eq_valid_iff.mp hvalid) hrest).eq

/-! ## What the two are as one -/

theorem verdict_eq_valid_iff {code : List Char} :
    Source.verdict code = .valid ↔ '\x00' ∉ code ∧ isExpression code = true := by
  unfold Source.verdict
  rw [List.contains_eq_mem]
  by_cases hnull : '\x00' ∈ code
  · simp [hnull]
  · cases isExpression code <;> simp [hnull]

/-- Code that runs on behind a closing brace is no code any more, and it cannot even be looked at if
there is a null character behind the brace. -/
theorem verdict_append_brace (hlast : IsSimple last) (hz : '\\' ∉ z)
    (h : Source.verdict (alternative engine last).code = .valid) :
    Source.verdict (alternative engine (last ++ '\x7d' :: z)).code =
      if '\x00' ∈ z then .nullCharacter else .invalid := by
  have hslash := hlast.notMem (c := '\\') (by decide)
  obtain ⟨hnull, hexpression⟩ := verdict_eq_valid_iff.mp h
  obtain ⟨blanks, hblanks, hcode⟩ := alternative_append_brace engine hslash hz
  have hstray : isExpression ((alternative engine last).code ++ (blanks ++ '\x7d' :: trimRight z)) =
      false := by
    apply Source.isExpression_append_brace hexpression
    · exact fun hmem => hlast.notMem (by decide) (mem_of_mem_code hslash hmem)
    · exact fun hmem => hslash (mem_of_mem_code hslash hmem)
    · exact fun c hc => (hblanks c hc).1
    · exact fun hmem => hlast.notMem (by decide) (hblanks _ hmem).2
  have hmem : '\x00' ∈ (alternative engine last).code ++ (blanks ++ '\x7d' :: trimRight z) ↔
      '\x00' ∈ z := by
    obtain ⟨trailing, htrailing, htrimmed⟩ := exists_trimRight_append z
    have hblank : '\x00' ∉ blanks := fun hc => absurd (hblanks _ hc).1 (by decide)
    have hblank' : '\x00' ∉ trailing := fun hc =>
      absurd (List.all_eq_true.mp htrailing _ hc) (by decide)
    have hz : '\x00' ∈ z ↔ '\x00' ∈ trimRight z ++ trailing := iff_of_eq (congrArg _ htrimmed)
    rw [hz]
    simp [hnull, hblank, hblank']
  rw [hcode]
  unfold Source.verdict
  simp only [List.contains_eq_mem, hmem, hstray, decide_eq_true_eq]
  rfl

/-- Joined expressions have the alternatives of both, where the last of one and the first of the
other become one. -/
theorem exists_alternatives_joined (he : '\\' ∉ e) (e' : List Char) :
    ∃ init last first more, alternatives e = init ++ [last] ∧ alternatives e' = first :: more ∧
      alternatives (joined e e') = init ++
        (last ++ '\x7d' :: ' ' :: '$' :: '\x7b' :: first) :: more := by
  obtain ⟨init, last, hinit, happend⟩ := exists_alternatives_append he
  obtain ⟨first, more, hfirst⟩ := List.exists_cons_of_ne_nil (alternatives_ne_nil e')
  refine ⟨init, last, first, more, hinit, hfirst, happend ?_⟩
  have hbrace := alternatives_cons (c := '\x7b') (by decide) (by decide) hfirst
  have hdollar := alternatives_cons (c := '$') (by decide) (by decide) hbrace
  have hblank := alternatives_cons (c := ' ') (by decide) (by decide) hdollar
  exact alternatives_cons (by decide) (by decide) hblank

theorem verdictOfAll_append {verdict : List Char → Source.Verdict} {codes : List (List Char)}
    (h : ∀ code ∈ codes, verdict code = .valid) (more : List (List Char)) :
    verdictOfAll verdict (codes ++ more) = verdictOfAll verdict more := by
  induction codes with
  | nil => rfl
  | cons code codes ih =>
    rw [List.forall_mem_cons] at h
    rw [List.cons_append, verdictOfAll, h.1]
    exact ih h.2

section

variable {init more : List (List Char)} (hlast : IsSimple last) (hz : '\\' ∉ z)
  (hjoined : alternatives s = init ++ (last ++ '\x7d' :: z) :: more)
include hlast hz hjoined

/-- An alternative that is code cannot be valid once a closing brace follows it. -/
theorem outcome_of_code (hcode : (alternative engine last).engine = searchedEngine)
    (hvalid : ∀ code ∈ codesOf engine (init ++ [last]), Source.verdict code = .valid) :
    outcome Source.verdict engine s = if '\x00' ∈ z then .nullCharacter else .invalid := by
  have hslash := hlast.notMem (c := '\\') (by decide)
  obtain ⟨blanks, -, hpart⟩ := alternative_append_brace engine hslash hz
  have hengine : (alternative engine (last ++ '\x7d' :: z)).engine =
    searchedEngine := by rw [hpart, ← hcode]
  rw [codesOf_append, codesOf_cons, if_pos hcode, List.forall_mem_append] at hvalid
  have hverdict := verdict_append_brace hlast hz (hvalid.2 (alternative engine last).code (by simp))
  unfold outcome
  rw [searchedCodes_eq_codesOf, hjoined, codesOf_append, verdictOfAll_append hvalid.1,
    codesOf_cons, if_pos hengine,
    List.singleton_append, verdictOfAll, hverdict]
  by_cases hnull : '\x00' ∈ z <;> simp [hnull]

/-- An alternative that is no code swallows what is joined to it. -/
theorem searchedCodes_of_not_code (hcode : (alternative engine last).engine ≠ searchedEngine) :
    searchedCodes engine s = codesOf engine init ++ codesOf engine more := by
  have hslash := hlast.notMem (c := '\\') (by decide)
  obtain ⟨blanks, -, hpart⟩ := alternative_append_brace engine hslash hz
  have hengine : (alternative engine (last ++ '\x7d' :: z)).engine ≠ searchedEngine := by
    rw [hpart]
    exact hcode
  rw [searchedCodes_eq_codesOf, hjoined, codesOf_append, codesOf_cons,
    if_neg hengine, List.nil_append]

end

/-- The last alternative of the first expression is code, and the first one of the second can be
looked at as code. Or neither of the two is code. -/
def Apart (engine : String) (e e' : List Char) : Prop :=
  ∀ last ∈ (alternatives e).getLast?, ∀ first ∈ (alternatives e').head?,
    if (alternative engine last).engine = searchedEngine then '\x00' ∉ first
    else (alternative engine first).engine ≠ searchedEngine

instance (engine : String) (e e' : List Char) : Decidable (Apart engine e e') := by
  unfold Apart
  infer_instance

/-- Two interpolations, each of which can be searched, give what each of them gives just if the two
alternatives that meet between them keep apart. -/
theorem interpolations_neighbours_iff (engine : String) (he : IsSimple e) (he' : IsSimple e')
    (hends : (interpolations Source.verdict engine (interpolation e)).ending = .valid)
    (hends' : (interpolations Source.verdict engine (interpolation e')).ending = .valid) :
    interpolations Source.verdict engine (interpolation e ++ ' ' :: interpolation e') =
        { codes := (interpolations Source.verdict engine (interpolation e)).codes ++
            (interpolations Source.verdict engine (interpolation e')).codes } ↔
      Apart engine e e' := by
  obtain ⟨hvalid, hsingle⟩ := interpolations_of_ending (he.notMem (by decide)) hends
  obtain ⟨hvalid', hsingle'⟩ := interpolations_of_ending (he'.notMem (by decide)) hends'
  rw [hsingle, hsingle']
  obtain ⟨init, last, first, more, halternatives, halternatives', hjoined⟩ :=
    exists_alternatives_joined (he.notMem (c := '\\') (by decide)) e'
  have hlast : IsSimple last := he.alternative (by simp [halternatives])
  have hslash : '\\' ∉ ' ' :: '$' :: '\x7b' :: first := by
    have hfirst : IsSimple first := he'.alternative (by simp [halternatives'])
    simpa using hfirst.notMem (c := '\\') (by decide)
  have hapart : Apart engine e e' ↔
      if (alternative engine last).engine = searchedEngine then '\x00' ∉ first
      else (alternative engine first).engine ≠ searchedEngine := by
    simp [Apart, halternatives, halternatives']
  rw [hapart]
  have hall := outcome_eq_valid_iff.mp hvalid
  rw [searchedCodes_eq_codesOf, halternatives] at hall
  by_cases hcode : (alternative engine last).engine = searchedEngine
  · have houtcome := outcome_of_code hlast hslash hjoined hcode hall
    rw [if_pos hcode]
    by_cases hnull : '\x00' ∈ first
    · -- The two as one cannot be looked at, and the search ends there.
      rw [if_pos (by simp [hnull])] at houtcome
      have hfound :=
        Interpolated.unreadable (opensFirst_joined e e') (lastCut_concat (joined e e')) houtcome
      rw [hfound.eq]
      simp [hnull]
    · rw [if_neg (by simp [hnull])] at houtcome
      exact iff_of_true (interpolations_of_invalid he he' hvalid hvalid' houtcome) hnull
  · -- The two are taken as one, without the alternative in which they meet.
    have htaken := searchedCodes_of_not_code hlast hslash hjoined hcode
    have hall' := outcome_eq_valid_iff.mp hvalid'
    rw [searchedCodes_eq_codesOf, halternatives', codesOf_cons, List.forall_mem_append] at hall'
    rw [codesOf_append, List.forall_mem_append] at hall
    have houtcome : outcome Source.verdict engine (joined e e') = .valid := by
      rw [outcome_eq_valid_iff, htaken, List.forall_mem_append]
      exact ⟨hall.1, hall'.2⟩
    have hnone : codesOf engine [last] = [] := by
      rw [codesOf_cons, if_neg hcode]
      rfl
    rw [if_neg hcode, interpolations_of_valid houtcome, htaken, searchedCodes_eq_codesOf,
      searchedCodes_eq_codesOf,
      halternatives, halternatives', codesOf_append, hnone, codesOf_cons first]
    split <;> simp_all

theorem interpolations_text_then_code :
    interpolations Source.verdict "python" "$\x7bstring:a | x\x7d $\x7by\x7d".toList =
      { codes := [['x'], ['y']] } := by
  have he : IsSimple "string:a | x".toList := by decide
  have he' : IsSimple "y".toList := by decide
  have hsingle : interpolations Source.verdict "python" (interpolation "string:a | x".toList) =
      { codes := [['x']] } :=
    (interpolations_single _ (he.notMem (by decide))).trans (by decide +kernel)
  have hsingle' : interpolations Source.verdict "python" (interpolation "y".toList) =
      { codes := [['y']] } :=
    (interpolations_single _ (he'.notMem (by decide))).trans (by decide +kernel)
  have hpair := interpolations_neighbours_iff "python" he he' (by rw [hsingle]) (by rw [hsingle'])
  rw [hsingle, hsingle'] at hpair
  exact hpair.mpr (by decide)

/-- Each of the two can be searched by itself, and the second gives code. Behind the first it gives
nothing. -/
theorem interpolations_text_before_code :
    interpolations Source.verdict "python" "$\x7bstring:a\x7d".toList = {} ∧
      interpolations Source.verdict "python" "$\x7bx\x7d".toList = { codes := [['x']] } ∧
      interpolations Source.verdict "python" "$\x7bstring:a\x7d $\x7bx\x7d".toList = {} := by
  refine ⟨?_, ?_, ?_⟩
  · exact (interpolations_single (e := "string:a".toList) _ (by decide)).trans (by decide +kernel)
  · exact (interpolations_single (e := "x".toList) _ (by decide)).trans (by decide +kernel)
  · have hvalid : outcome Source.verdict "python" (joined "string:a".toList "x".toList) =
      .valid := by decide +kernel
    exact (interpolations_of_valid hvalid).trans (by decide +kernel)

end Harvest.Template
