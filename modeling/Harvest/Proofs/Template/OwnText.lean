import Harvest.Proofs.Outcomes
import Harvest.Proofs.Template.Interpolations
import Harvest.Proofs.Template.Messages
import Harvest.Proofs.Template.Survey

/-!
# What a content says on its own

The content of an element is divided into stretches: interpolations, elements that stand in it, and
what the template itself says between them. A content that is offered to translators says something
on its own, or something is left of what is filled in when each run from `${` to the next closing
brace is taken away. So it may be offered for nothing but an element without a name, or an
interpolation with braces in its code.
-/

namespace Harvest.Template

open Text Walk

variable {engine : String} {s t : List Char}

/-! ## Characters and what is written for them -/

/-- A character of a text, with what is written for it. -/
structure Glyph where
  char : Char
  written : List Char

def Glyph.plain (c : Char) : Glyph := ⟨c, [c]⟩

/-- The characters of a text in which references have been replaced. -/
def charsOf (glyphs : List Glyph) : List Char := glyphs.map Glyph.char

def writtenOf (glyphs : List Glyph) : List Char := glyphs.flatMap Glyph.written

theorem charsOf_append (xs ys : List Glyph) :
    charsOf (xs ++ ys) = charsOf xs ++ charsOf ys := List.map_append

theorem writtenOf_append (xs ys : List Glyph) :
    writtenOf (xs ++ ys) = writtenOf xs ++ writtenOf ys :=
  List.flatMap_append

theorem charsOf_plain (s : List Char) : charsOf (s.map .plain) = s := by
  unfold charsOf
  rw [List.map_map]
  exact List.map_id s

theorem writtenOf_plain (s : List Char) : writtenOf (s.map .plain) = s := by
  unfold writtenOf
  rw [List.flatMap_map]
  exact List.flatMap_pure_eq_map id s |>.trans (List.map_id s)

def Reference.glyphs (r : Reference) (written : List Char) : List Glyph :=
  match r.resolve with
  | .ok (some c) => [⟨c, written⟩]
  | _ => written.map .plain

def glyphsFrom : Nat → List Char → List Glyph
  | _, [] => []
  | skip + 1, _ :: cs => glyphsFrom skip cs
  | 0, c :: cs =>
      match if c = '&' then reference? cs else none with
      | none => .plain c :: glyphsFrom 0 cs
      | some r => r.glyphs (c :: cs.take r.size) ++ glyphsFrom r.size cs

/-- The characters of a line, each with what is written for it. -/
def glyphs (line : List Char) : List Glyph := glyphsFrom 0 line

theorem Reference.writtenOf_glyphs (r : Reference) (s : List Char) :
    writtenOf (r.glyphs s) = s := by
  unfold glyphs
  split
  · exact List.append_nil s
  · exact writtenOf_plain s

theorem writtenOf_glyphsFrom (skip : Nat) (s : List Char) :
    writtenOf (glyphsFrom skip s) = s.drop skip := by
  fun_induction glyphsFrom skip s with
  | case1 => exact List.drop_nil.symm
  | case2 skip c cs ih => exact ih
  | case3 c cs hplain ih => exact congrArg (c :: ·) ih
  | case4 c cs r href ih =>
    rw [writtenOf_append, Reference.writtenOf_glyphs, ih, List.drop_zero, List.cons_append,
      List.take_append_drop]

/-- The characters with what is written for them are the text with its references replaced. -/
theorem charsOf_glyphsFrom {skip : Nat} {decoded : List Char}
    (h : decodeFrom skip s = .ok decoded) :
    charsOf (glyphsFrom skip s) = decoded := by
  fun_induction glyphsFrom skip s generalizing decoded with
  | case1 =>
    cases h
    rfl
  | case2 skip c cs ih => exact ih h
  | case3 c cs hplain ih =>
    rw [decodeFrom, hplain] at h
    obtain ⟨rest, hrest, hdecoded⟩ := Except.bind_eq_ok h
    cases hdecoded
    exact congrArg (c :: ·) (ih hrest)
  | case4 c cs r href ih =>
    rw [decodeFrom, href] at h
    obtain ⟨found, hfound, h⟩ := Except.bind_eq_ok h
    rw [charsOf_append, Reference.glyphs, hfound]
    cases found with
    | none =>
      obtain ⟨rest, hrest, hdecoded⟩ := Except.bind_eq_ok h
      cases hdecoded
      rw [charsOf_plain, ih hrest]
      rfl
    | some d =>
      obtain ⟨rest, hrest, hdecoded⟩ := Except.bind_eq_ok h
      cases hdecoded
      exact congrArg (d :: ·) (ih hrest)

/-! ## Interpolations in a line -/

/-- Where the first interpolation of a text starts, and how many characters it has. -/
def nextRun? (engine : String) (s : List Char) : Option (Nat × Nat) :=
  (candidate? s).bind fun first =>
    let source := s.drop first.start
    match tryCandidates Source.verdict engine source ((s.take first.stop).drop first.start)
        (candidate? source) with
    | .found _ after => some (first.start, source.length - after.length)
    | _ => none

theorem exists_of_nextRun? {start size : Nat} (h : nextRun? engine s = some (start, size)) :
    ∃ before inner after, OpensFirst s before (inner ++ '\x7d' :: after) ∧
      LastCut Source.verdict engine (inner ++ '\x7d' :: after) inner after ∧
      (∀ code ∈ searchedCodes engine inner, Source.verdict code = .valid) ∧
      start = before.length ∧ size = inner.length + 3 := by
  obtain ⟨first, hcandidate, h⟩ := Option.bind_eq_some_iff.mp h
  rcases candidate?_cases s with ⟨hnone, -⟩ | ⟨before, body, longest, hfirst, -, hstart⟩
  · cases hnone.symm.trans hcandidate
  · have hsearched := searched Source.verdict engine body []
    rw [List.append_nil,
      ← tryCandidates_of_first Source.verdict engine hfirst hcandidate] at hsearched
    obtain rfl : first = ⟨before.length, longest⟩ := Option.some.inj (hcandidate.symm.trans hstart)
    -- The search may only move the end, since it starts where the candidate does.
    dsimp only at h hsearched
    split at h
    · rename_i codes after hfound
      rw [hfound] at hsearched
      cases hsearched with
      | @found inner after hlast hvalid =>
        have hbody : body = inner ++ '\x7d' :: after := hlast.cut
        subst hbody
        refine ⟨before, inner, after, hfirst, hlast, outcome_eq_valid_iff.mp hvalid, ?_⟩
        have hsize := congrArg List.length hfirst.text
        simp only [List.length_append, List.length_cons] at hsize
        simp only [Option.some.injEq, Prod.mk.injEq, List.length_drop, List.append_nil] at h
        omega
    · cases h

inductive Stretch where
  | own (text : List Char)
  | interpolation (glyphs : List Glyph)
  | element (e : Element)

namespace Stretch

def shown : Stretch → List Char
  | .own text => text
  | .interpolation glyphs => writtenOf glyphs
  | .element e => e.mark

def ownText : Stretch → List Char
  | .own text => text
  | _ => []

/-- What is shown in place of something that is filled in later. -/
def filling? : Stretch → Option (List Char)
  | .own _ => none
  | w => some w.shown

/-- Is the closing brace of an interpolation written as such, and not as a reference? -/
def closed : Stretch → Bool
  | .interpolation glyphs => (writtenOf glyphs).getLast? == some '\x7d'
  | _ => true

def codes (engine : String) : Stretch → List (List Char)
  | .interpolation glyphs => searchedCodes engine ((charsOf glyphs).drop 2).dropLast
  | _ => []

end Stretch

def divide (engine : String) (line : List Glyph) : List Stretch :=
  match _hrun : nextRun? engine (charsOf line) with
  | none => [.own (writtenOf line)]
  | some (start, size) =>
      .own (writtenOf (line.take start)) :: .interpolation ((line.drop start).take size) ::
        divide engine ((line.drop start).drop size)
termination_by line.length
decreasing_by
  -- An interpolation has its dollar sign and its braces at least.
  obtain ⟨before, inner, after, hfirst, -, -, rfl, rfl⟩ := exists_of_nextRun? _hrun
  have hlength := congrArg List.length hfirst.text
  simp only [charsOf, List.length_map, List.length_append, List.length_cons] at hlength
  simp only [List.length_drop]
  omega

theorem shown_divide (line : List Glyph) :
    (divide engine line).flatMap Stretch.shown = writtenOf line := by
  fun_induction divide engine line with
  | case1 line hnone => exact List.append_nil _
  | case2 line start size hrun ih =>
    rw [List.flatMap_cons, List.flatMap_cons, ih]
    simp only [Stretch.shown]
    rw [← writtenOf_append, List.take_append_drop, ← writtenOf_append, List.take_append_drop]

theorem codes_of_nextRun?_none (h : nextRun? engine s = none) :
    (interpolations Source.verdict engine s).codes = [] := by
  unfold nextRun? at h
  rw [interpolations]
  split
  · rfl
  · rename_i first hfirst
    rw [hfirst, Option.bind_some] at h
    dsimp only at h ⊢
    split
    · rfl
    · rfl
    · rename_i hfound
      rw [hfound] at h
      cases h

/-- The stretches of a line hold all codes that are found in it. -/
theorem codes_divide (line : List Glyph) :
    (divide engine line).flatMap (Stretch.codes engine) =
      (interpolations Source.verdict engine (charsOf line)).codes := by
  fun_induction divide engine line with
  | case1 line hnone => exact (codes_of_nextRun?_none hnone).symm
  | case2 line start size hrun ih =>
    obtain ⟨before, inner, after, hfirst, hlast, hvalid, rfl, rfl⟩ := exists_of_nextRun? hrun
    have hdrop : charsOf (line.drop before.length) =
        ('$' :: '\x7b' :: (inner ++ ['\x7d'])) ++ after := by
      have hdrop := List.map_drop (f := Glyph.char) (l := line) (i := before.length)
      rw [show line.map Glyph.char = _ from hfirst.text, List.drop_left] at hdrop
      simpa [charsOf] using hdrop
    -- The characters of the interpolation are its code and what is around it, and `after` is left.
    have hsize : inner.length + 3 = ('$' :: '\x7b' :: (inner ++ ['\x7d'])).length := by simp
    have htaken : charsOf ((line.drop before.length).take (inner.length + 3)) =
        '$' :: '\x7b' :: (inner ++ ['\x7d']) := by
      unfold charsOf at hdrop ⊢
      rw [List.map_take, hdrop, hsize, List.take_left]
    have hafter : charsOf ((line.drop before.length).drop (inner.length + 3)) = after := by
      unfold charsOf at hdrop ⊢
      rw [List.map_drop, hdrop, hsize, List.drop_left]
    rw [(Interpolated.taken hfirst hlast hvalid (interpolated after)).eq, List.flatMap_cons,
      List.flatMap_cons, ih,
      hafter]
    simp only [Stretch.codes, htaken, List.nil_append, List.drop_succ_cons, List.drop_zero,
      List.dropLast_concat]

/-! ## The stretches of a content -/

/-- The stretches of a node that stands in a content; the end of a line is what the template says
itself. -/
def Node.stretches (engine : String) (node : Node) : List Stretch :=
  match node with
  | .text s => (brokenLines s.toList).flatMap fun line =>
    divide engine (glyphs line.1) ++ [.own line.2]
  | _ => (node.element?.map Stretch.element).toList

namespace Element

def stretches (engine : String) (e : Element) : List Stretch :=
  e.children.flatMap (Node.stretches engine)

def ownText (engine : String) (e : Element) : List Char :=
  (e.stretches engine).flatMap Stretch.ownText

def fillings (engine : String) (e : Element) : List (List Char) :=
  (e.stretches engine).filterMap Stretch.filling?

/-- Is something left of what is filled in, when all runs up to the next closing brace are taken
away? -/
def leaves (engine : String) (e : Element) : Bool :=
  (e.fillings engine).any fun w => !allBlank (withoutRuns w)

end Element

theorem Node.shown_stretches (node : Node) :
    (node.stretches engine).flatMap Stretch.shown = (node.shown? true).getD [] := by
  cases node with
  | text s =>
    have hline (line : List Char × List Char) :
        (divide engine (glyphs line.1) ++ [Stretch.own line.2]).flatMap Stretch.shown =
            line.1 ++ line.2 := by
      rw [List.flatMap_append, shown_divide, glyphs, writtenOf_glyphsFrom, List.flatMap_singleton]
      rfl
    rw [Node.stretches, List.flatMap_assoc, funext hline]
    exact flatMap_brokenLines s.toList
  | element start stop children | startTag tag => exact List.append_nil _
  | comment s | characterData s | instruction s | declaration s | unknown s => rfl

theorem Element.shown_stretches (engine : String) (e : Element) :
    (e.stretches engine).flatMap Stretch.shown = e.content true := by
  unfold stretches content
  rw [List.flatMap_assoc, funext Node.shown_stretches]
  induction e.children with
  | nil => rfl
  | cons node nodes ih =>
    rw [List.flatMap_cons, ih, List.filterMap_cons]
    cases node.shown? true <;> rfl

/-! ## Blanks and runs -/

theorem isDynamic_cons {c : Char} (hrun : c = '$' → s.head? ≠ some '\x7b') :
    isDynamic false (c :: s) = (isBlank c && isDynamic false s) := by
  rw [isDynamic_eq_allBlank, isDynamic_eq_allBlank, withoutRuns, withoutRunsFrom]
  · rfl
  · rintro s' hdollar rfl
    exact hrun hdollar rfl

theorem isDynamic_cons_blank {c : Char} (hc : isBlank c = true) (inside : Bool) (s : List Char) :
    isDynamic inside (c :: s) = isDynamic inside s := by
  have hdollar : c ≠ '$' := fun h => absurd (h ▸ hc) (by decide)
  have hbrace : c ≠ '\x7d' := fun h => absurd (h ▸ hc) (by decide)
  cases inside with
  | true => exact congrArg (isDynamic · s) (bne_iff_ne.mpr hbrace)
  | false => rw [isDynamic_cons fun h => absurd h hdollar, hc, Bool.true_and]

theorem isDynamic_of_allBlank (inside : Bool) (h : allBlank s = true) :
    isDynamic inside s = !inside := by
  induction s with
  | nil => rfl
  | cons c s ih =>
    obtain ⟨hc, hs⟩ := Bool.and_eq_true_iff.mp h
    rw [isDynamic_cons_blank hc, ih hs]

theorem isDynamic_append {inside : Bool} (h : isDynamic inside s = true) (t : List Char) :
    isDynamic inside (s ++ t) = isDynamic false t := by
  fun_induction isDynamic inside s with
  | case1 inside =>
    cases inside with
    | true => cases h
    | false => rfl
  | case2 c cs ih => exact ih h
  | case3 cs ih => exact ih h
  | case4 c cs hrun ih =>
    obtain ⟨hc, hcs⟩ := Bool.and_eq_true_iff.mp h
    rw [List.cons_append, isDynamic_cons_blank hc, ih hcs]

theorem isDynamic_flatten {parts : List (List Char)} (h : ∀ p ∈ parts, isDynamic false p = true) :
    isDynamic false parts.flatten = true := by
  induction parts with
  | nil => rfl
  | cons p parts ih =>
    obtain ⟨hp, hparts⟩ := List.forall_mem_cons.mp h
    rw [List.flatten_cons, isDynamic_append hp, ih hparts]

theorem isDynamic_append_allBlank (inside : Bool) (s : List Char) (ht : allBlank t = true) :
    isDynamic inside (s ++ t) = isDynamic inside s := by
  fun_induction isDynamic inside s with
  | case1 inside => exact isDynamic_of_allBlank inside ht
  | case2 c cs ih => exact ih
  | case3 cs ih => exact ih
  | case4 c cs hrun ih =>
    rw [List.cons_append, isDynamic_cons, ih]
    intro hdollar hhead
    cases cs with
    | nil =>
      -- A brace that would open a run is no blank.
      have hbrace : isBlank '\x7b' = true := List.all_eq_true.mp ht _ (List.mem_of_head? hhead)
      exact absurd hbrace (by decide)
    | cons d cs =>
      cases hhead
      exact hrun cs hdollar rfl

theorem head?_of_collapseFrom (s : List Char) (h : (collapseFrom false s).head? = some '\x7b') :
    s.head? = some '\x7b' := by
  cases s with
  | nil => exact h
  | cons c s =>
    rw [collapseFrom] at h
    split at h
    · cases h
    · exact h

theorem isDynamic_collapseFrom (inside inRun : Bool) (s : List Char) :
    isDynamic inside (collapseFrom inRun s) = isDynamic inside s := by
  induction s generalizing inside inRun with
  | nil => rfl
  | cons c s ih =>
    by_cases hc : isBlank c = true
    · rw [collapseFrom, if_pos hc, isDynamic_cons_blank hc, ← ih inside true]
      split
      · rfl
      · exact isDynamic_cons_blank (by decide) _ _
    · rw [collapseFrom, if_neg hc]
      cases inside with
      | true => exact ih _ _
      | false =>
        -- No blank comes between a dollar sign and a brace, so runs open where they did.
        by_cases hrun : c = '$' ∧ s.head? = some '\x7b'
        · obtain ⟨rfl, hhead⟩ := hrun
          cases s with
          | nil => cases hhead
          | cons d s =>
            cases hhead
            exact ih true false
        · rw [isDynamic_cons fun hdollar hhead => hrun ⟨hdollar, head?_of_collapseFrom s hhead⟩,
            isDynamic_cons fun hdollar hhead => hrun ⟨hdollar, hhead⟩, ih]

/-- Blanks do not matter to whether a text is made of interpolations only. -/
theorem isDynamic_join_words (s : List Char) :
    isDynamic false (join [' '] (words s)) = isDynamic false s := by
  have hleft (s : List Char) : isDynamic false (trimLeft s) = isDynamic false s := by
    unfold trimLeft
    induction s with
    | nil => rfl
    | cons c s ih =>
      by_cases hc : isBlank c = true
      · rw [List.dropWhile_cons_of_pos hc, ih, isDynamic_cons_blank hc]
      · rw [List.dropWhile_cons_of_neg hc]
  obtain ⟨blanks, hblanks, hs⟩ := exists_trimRight_append (trimLeft s)
  calc isDynamic false (join [' '] (words s))
      = isDynamic false (trim s) := by
        rw [← collapse_trim]
        exact isDynamic_collapseFrom false false _
    _ = isDynamic false (trimLeft s) := by
        conv_rhs => rw [hs]
        exact (isDynamic_append_allBlank false _ hblanks).symm
    _ = isDynamic false s := hleft s

theorem isDynamic_append_of_closed {inside : Bool} (h : s.getLast? = some '\x7d') (t : List Char) :
    isDynamic inside (s ++ t) = (isDynamic inside s && isDynamic false t) := by
  fun_induction isDynamic inside s with
  | case1 inside => cases h
  | case2 c cs ih =>
    cases cs with
    | nil =>
      cases h
      rfl
    | cons d cs => exact ih h
  | case3 cs ih =>
    cases cs with
    | nil => cases h
    | cons d cs => exact ih h
  | case4 c cs hrun ih =>
    cases cs with
    | nil =>
      cases h
      rfl
    | cons d cs =>
      rw [List.cons_append, isDynamic_cons, ih h, Bool.and_assoc]
      intro hdollar hhead
      cases hhead
      exact hrun cs hdollar rfl

/-! ## Contents that are offered -/

/-- A content of blanks and runs only is not offered, however its words are divided. -/
theorem Outset.offers_eq (o : Outset) (spot : Spot) :
    o.offers spot =
      (!isDynamic false (spot.element.content (o.asks spot.path)) &&
        (present? (o.scopeAt spot.path).domain).isSome && o.asks spot.path) := by
  have htext : (o.text spot.element spot.around).toList =
      join [' '] (words (spot.element.content (o.asks spot.path))) := String.toList_ofList
  rw [offers, ← isDynamic_eq_allBlank, htext, isDynamic_join_words]

/-- A content gives a message just if it is to be translated and has something to offer. -/
theorem Outset.messages_ne_nil_iff {o : Outset} {spot : Spot} :
    (o.contentMessage? spot).toList ≠ [] ↔ spot.element.id?.isSome = true ∧
    o.offers spot = true := by
  unfold contentMessage?
  cases spot.element.id? with
  | none => simp
  | some id => cases o.offers spot <;> simp

theorem Element.leaves_eq_false_iff {e : Element} :
    e.leaves engine = false ↔ ∀ w ∈ e.fillings engine, isDynamic false w = true := by
  unfold leaves
  rw [List.any_eq_false]
  refine forall₂_congr fun w _ => ?_
  rw [isDynamic_eq_allBlank]
  simp

/-- An element that says nothing itself, and leaves nothing of what is filled in, is not translated.
-/
theorem Element.isDynamic_content {e : Element} (hown : allBlank (e.ownText engine) = true)
    (hleaves : e.leaves engine = false) : isDynamic false (e.content true) = true := by
  rw [← e.shown_stretches engine, List.flatMap_def]
  refine isDynamic_flatten fun p hp => ?_
  obtain ⟨w, hw, rfl⟩ := List.mem_map.mp hp
  have hfilling (h : w.filling? = some w.shown) : isDynamic false w.shown = true :=
    leaves_eq_false_iff.mp hleaves _ (List.mem_filterMap.mpr ⟨w, hw, h⟩)
  -- A stretch is part of what the content says itself, or it is among the fillings.
  cases w with
  | own text =>
    refine isDynamic_of_allBlank false (List.all_eq_true.mpr fun c hc => ?_)
    exact List.all_eq_true.mp hown c (List.mem_flatMap.mpr ⟨_, hw, hc⟩)
  | interpolation glyphs => exact hfilling rfl
  | element e => exact hfilling rfl

theorem Stretch.isDynamic_append {w : Stretch} (hown : allBlank w.ownText = true)
    (hclosed : w.closed = true) (t : List Char) :
    isDynamic false (w.shown ++ t) = (isDynamic false w.shown && isDynamic false t) := by
  cases w with
  | own text =>
    have hblank : isDynamic false text = true := isDynamic_of_allBlank false hown
    rw [shown, Harvest.Template.isDynamic_append hblank, hblank, Bool.true_and]
  | interpolation run => exact isDynamic_append_of_closed (beq_iff_eq.mp hclosed) t
  | element e =>
    rw [shown, Element.mark]
    split
    · exact isDynamic_append_of_closed List.getLast?_concat t
    · -- The mark of an element without a name does not start with a dollar sign.
      rfl

/-- An element that is not translated leaves nothing of what is filled in, if all braces are written
as such. -/
theorem Element.leaves_eq_false_of_isDynamic {e : Element}
    (hown : allBlank (e.ownText engine) = true)
    (hclosed : (e.stretches engine).all Stretch.closed = true)
    (h : isDynamic false (e.content true) = true) :
    e.leaves engine = false := by
  have hall : ∀ w ∈ e.stretches engine, isDynamic false w.shown = true := by
    rw [← e.shown_stretches engine] at h
    unfold ownText at hown
    -- No run goes on from one stretch to the next, so they are taken one by one.
    generalize e.stretches engine = ws at h hown hclosed ⊢
    induction ws with
    | nil => nofun
    | cons w ws ih =>
      rw [List.flatMap_cons, allBlank, List.all_append, Bool.and_eq_true] at hown
      rw [List.all_cons, Bool.and_eq_true] at hclosed
      rw [List.flatMap_cons, Stretch.isDynamic_append hown.1 hclosed.1, Bool.and_eq_true] at h
      exact List.forall_mem_cons.mpr ⟨h.1, ih h.2 hown.2 hclosed.2⟩
  refine leaves_eq_false_iff.mpr fun text htext => ?_
  obtain ⟨w, hw, hfilling⟩ := List.mem_filterMap.mp htext
  have hshown : w.shown = text := by
    cases w with
    | own => cases hfilling
    | interpolation | element => exact Option.some.inj hfilling
  exact hshown ▸ hall w hw

/-- What is offered of a template: a content that is offered says something on its own, or something
is left of what is filled in. If it says nothing on its own and the closing braces of its
interpolations are written as such, then it is offered just if something is left. -/
theorem visitAll_offered {g : Walker} {nodes : List Node} {session : Session} {s' : WalkState}
    (h : Reaches (g.visitAll nodes) { session } () s') :
    s'.messages = (Node.allPlaces [] [] nodes).flatMap (g.messagesAt { session }) ∧
    (∀ line decoded, decodeReferences line = .ok decoded →
      (divide g.engine (glyphs line)).flatMap (Stretch.codes g.engine) =
        (interpolations Source.verdict g.engine decoded).codes) ∧
    ∀ spot : Spot,
      (g.messagesAt { session } (.content spot) ≠ [] →
        allBlank (spot.element.ownText g.engine) = false ∨ spot.element.leaves g.engine = true) ∧
      (allBlank (spot.element.ownText g.engine) = true →
        (spot.element.stretches g.engine).all Stretch.closed = true →
        (g.messagesAt { session } (.content spot) ≠ [] ↔
          spot.element.id?.isSome = true ∧ (g.outset { session }).asks spot.path = true ∧
            (present? ((g.outset { session }).scopeAt spot.path).domain).isSome = true ∧
            spot.element.leaves g.engine = true)) := by
  refine ⟨(reaches_visitAll_iff.mp ⟨s', h, rfl⟩).2.symm, fun line decoded hdecoded =>
    ?_, fun spot => ?_⟩
  · rw [codes_divide, glyphs, charsOf_glyphsFrom hdecoded]
  · -- A content gives a message unless it is dynamic, which is told by what it leaves.
    have hgiven : g.messagesAt { session } (.content spot) ≠ [] ↔
        spot.element.id?.isSome = true ∧ (g.outset { session }).offers spot = true :=
          Outset.messages_ne_nil_iff
    rw [hgiven, Outset.offers_eq]
    simp only [Bool.and_eq_true, Bool.not_eq_true']
    refine ⟨?_, fun hown hclosed => ⟨?_, ?_⟩⟩
    · rintro ⟨-, ⟨hspeaks, -⟩, hasks⟩
      rw [hasks] at hspeaks
      by_contra hneither
      rw [not_or, Bool.not_eq_false, Bool.not_eq_true] at hneither
      cases hspeaks.symm.trans (Element.isDynamic_content hneither.1 hneither.2)
    · rintro ⟨hid, ⟨hspeaks, hdomain⟩, hasks⟩
      rw [hasks] at hspeaks
      refine ⟨hid, hasks, hdomain, eq_true_of_ne_false fun hnothing => ?_⟩
      cases hspeaks.symm.trans (Element.isDynamic_content hown hnothing)
    · rintro ⟨hid, hasks, hdomain, hleaves⟩
      refine ⟨hid, ⟨?_, hdomain⟩, hasks⟩
      rw [hasks]
      refine eq_false_of_ne_true fun hdynamic => ?_
      cases hleaves.symm.trans (Element.leaves_eq_false_of_isDynamic hown hclosed hdynamic)

def nameless : Element :=
  ⟨.ofStatements "p" [("domain", "d"), ("translate", "")],
    [.text "$\x7ba\x7d ", .startTag { name := "b", suffix := some ">" }]⟩

theorem visitAll_offered_nameless :
    ∃ s', Reaches
      (Walker.visitAll { engine := "python" } [.element nameless.tag none nameless.children]) {}
      () s' ∧
      s'.messages = [{ text := some "$\x7ba\x7d <dynamic element>", location := ⟨"f", 1⟩ }] ∧
      allBlank (nameless.ownText "python") = true ∧
      (nameless.stretches "python").all Stretch.closed = true ∧
          nameless.leaves "python" = true := by
  have hrun : ((ExceptT.run (Walker.visitAll { engine := "python" }
      [.element nameless.tag none nameless.children])).run {}).1 = .ok () := by
    decide +kernel
  have hown : allBlank (nameless.ownText "python") = true := by decide +kernel
  have hclosed : (nameless.stretches "python").all Stretch.closed = true := by decide +kernel
  have hgiven : Walker.messagesAt { engine := "python" } {} (.content ⟨nameless, [], []⟩) ≠ [] := by
    decide +kernel
  obtain ⟨hmessages, -, hspots⟩ := visitAll_offered (Prod.ext hrun rfl)
  obtain ⟨-, -, -, hleaves⟩ := ((hspots ⟨nameless, [], []⟩).2 hown hclosed).mp hgiven
  exact ⟨_, Prod.ext hrun rfl, hmessages.trans (by decide +kernel), hown, hclosed, hleaves⟩

def bracesInside : Element :=
  ⟨.ofStatements "p" [("domain", "d"), ("translate", "")], [.text "$\x7bdict(a=\x7b\x7d)\x7d"]⟩

/-- It is offered although it says nothing on its own: the run ends before the code does. -/
theorem visitAll_offered_bracesInside :
    ((ExceptT.run (Walker.visitAll { engine := "python" }
      [.element bracesInside.tag none bracesInside.children])).run {}).1 = .ok () ∧
    ((ExceptT.run (Walker.visitAll { engine := "python" }
      [.element bracesInside.tag none bracesInside.children])).run {}).2.messages =
      [{ text := some "$\x7bdict(a=\x7b\x7d)\x7d", location := ⟨"f", 1⟩ }] ∧
    bracesInside.id? = some "" ∧ bracesInside.ownText "python" = [] := by
  decide +kernel

end Harvest.Template
