import Harvest.Proofs.Template.Reading

/-!
# The message of a passage

A passage that has gathered what stands right inside an element gives the message for the content of
that element. The line that tells the text around it may be added later, when that text is known.
-/

namespace Harvest.Template

open Text

/-! ## Texts with nothing to translate -/

theorem isDynamic_eq (inside : Bool) (s : List Char) :
    isDynamic inside s =
      ((!inside || s.contains '\x7d') && allBlank (withoutRunsFrom inside s)) := by
  fun_induction isDynamic inside s with
  | case1 inside => cases inside <;> rfl
  | case2 c cs ih =>
    rw [ih, withoutRunsFrom]
    by_cases hc : c = '\x7d'
    · simp [hc]
    · have hne : (c != '\x7d') = true := bne_iff_ne.mpr hc
      simp [hne, Ne.symm hc]
  | case3 cs ih =>
    rw [ih, withoutRunsFrom]
    by_cases hcs : cs.contains '\x7d' = true
    · rw [if_pos hcs, hcs]
      rfl
    · -- A run that is never closed stays, and its dollar sign is no blank.
      have hdollar : isBlank '$' = false := by decide
      rw [if_neg hcs, eq_false_of_ne_true hcs]
      simp [allBlank, hdollar]
  | case4 c cs hrun ih =>
    rw [ih, withoutRunsFrom]
    · simp [allBlank]
    · exact hrun

/-- There is nothing to translate in a text that is blank without its runs in braces. -/
theorem isDynamic_eq_allBlank (s : List Char) : isDynamic false s = allBlank (withoutRuns s) :=
  isDynamic_eq false s

theorem present?_some (s : String) : present? (some s) = if s.isEmpty then none else some s := by
  cases h : s.isEmpty <;> simp [present?, Option.filter, h]

theorem ne_empty_of_present? {o : Option String} {s : String} (h : present? o = some s) :
    s ≠ "" := by
  have hs : (!s.isEmpty) = true := (Option.filter_eq_some_iff.mp h).2
  rintro rfl
  cases hs

/-! ## The passage of an element -/

namespace Outset

/-- The passage of an element when all that stands in it has been gathered. -/
def passage (o : Outset) (id : String) (spot : Spot) : Passage :=
  { domain := (o.scopeAt spot.path).domain
    context := (o.scopeAt spot.path).context
    id
    comment := (o.scopeAt spot.path).comment
    location := ⟨o.file, o.line + feeds (spot.before ++ spot.element.tag.written)⟩
    pieces := spot.element.children.filterMap (Node.shown? (o.asks spot.path))
    parts := Assoc.latest (spot.element.children.filterMap (o.part? spot.path)) }

theorem fullText_passage (o : Outset) (id : String) (spot : Spot) :
    (o.passage id spot).fullText = o.text spot.element spot.around := by
  unfold Passage.fullText Passage.words
  rw [collapse_trim]
  rfl

theorem isIgnored_passage (o : Outset) (id : String) (spot : Spot) :
    (o.passage id spot).isIgnored =
      allBlank (withoutRuns (o.text spot.element spot.around).toList) := by
  rw [← fullText_passage o id, ← isDynamic_eq_allBlank]
  unfold Passage.isIgnored Passage.fullText
  rw [String.toList_ofList]

theorem message_passage (o : Outset) (id : String) (spot : Spot) :
    (o.passage id spot).message (o.sentence? spot.around) = o.contentMessage id spot := by
  have hid : (o.passage id spot).idAndText =
      if id.isEmpty then (o.text spot.element spot.around, none)
      else (id, present? (o.text spot.element spot.around)) := by
    unfold Passage.idAndText
    rw [fullText_passage]
    rfl
  unfold Passage.message Passage.commentLines contentMessage commentLines
  rw [hid]
  by_cases hempty : id.isEmpty = true
  · rw [if_pos hempty]
    simp only [hempty]
    rfl
  · rw [if_neg hempty]
    rw [present?_some]
    by_cases htext : (o.text spot.element spot.around).isEmpty = true
    · simp only [hempty, htext]
      rfl
    · simp only [hempty, htext]
      rfl

end Outset

/-! ## Texts that are told later -/

theorem ne_empty_of_mem_commentLines {p : Passage} {line : String}
    (hline : line ∈ p.commentLines none) : line ≠ "" := by
  unfold Passage.commentLines at hline
  simp only [List.mem_append, Option.mem_toList, Option.map_eq_some_iff, List.mem_map] at hline
  rcases hline with ((hcomment | ⟨text, -, hdefault⟩) | ⟨part, -, hpart⟩) | ⟨text, hnone, -⟩
  · exact ne_empty_of_present? hcomment
  · rw [← hdefault]
    exact fun h => absurd (String.append_eq_empty_iff.mp h).1 (by decide)
  · rw [← hpart]
    exact fun h => absurd (String.append_eq_empty_iff.mp h).2 (by decide)
  · cases hnone

theorem isEmpty_intercalate {lines : List String} (hlines : ∀ line ∈ lines, line ≠ "") :
    ("\n".intercalate lines).isEmpty = lines.isEmpty := by
  cases lines with
  | nil => rfl
  | cons line rest =>
    have hline : line ≠ "" := hlines line List.mem_cons_self
    cases rest with
    | nil => simp [hline]
    | cons next rest => simp [String.intercalate_cons_cons, hline]

theorem intercalate_concat {lines : List String} (line : String)
    (hlines : ∀ line ∈ lines, line ≠ "") :
    "\n".intercalate (lines ++ [line]) =
      if ("\n".intercalate lines).isEmpty then line
      else "\n".intercalate lines ++ "\n" ++ line := by
  rw [isEmpty_intercalate hlines]
  cases lines with
  | nil => rfl
  | cons first rest =>
    rw [String.intercalate_append_of_ne_nil (List.cons_ne_nil _ _) (List.cons_ne_nil _ _),
      String.intercalate_singleton]
    rfl

def Draft.finishIn (sentence : Option String) (d : Draft) : Draft :=
  sentence.elim d d.finish

theorem Draft.finishIn_of_not_inSentence (sentence : Option String) {d : Draft}
    (hd : d.inSentence = false) : d.finishIn sentence = d := by
  cases sentence with
  | none => rfl
  | some text => simp [Draft.finishIn, Draft.finish, hd]

theorem Draft.map_finishIn_told (sentence : Option String) (origin : Origin) (ms : List Message) :
    (ms.map (⟨origin, ·, false⟩)).map (Draft.finishIn sentence) = ms.map (⟨origin, ·, false⟩) := by
  rw [List.map_map]
  exact List.map_congr_left fun m _ => Draft.finishIn_of_not_inSentence sentence rfl

theorem Draft.exists_finishIn (sentence : Option String) (d : Draft) :
    ∃ comment inSentence,
      d.finishIn sentence = { d with message := { d.message with comment }, inSentence } := by
  cases sentence with
  | none => exact ⟨_, _, rfl⟩
  | some text =>
    unfold Draft.finishIn Draft.finish
    simp only [Option.elim_some]
    split
    · exact ⟨_, _, rfl⟩
    · exact ⟨_, _, rfl⟩

theorem Draft.origin_finishIn (sentence : Option String) (d : Draft) :
    (d.finishIn sentence).origin = d.origin := by
  obtain ⟨comment, inSentence, h⟩ := d.exists_finishIn sentence
  rw [h]

theorem Draft.location_finishIn (sentence : Option String) (d : Draft) :
    (d.finishIn sentence).message.location = d.message.location := by
  obtain ⟨comment, inSentence, h⟩ := d.exists_finishIn sentence
  rw [h]

theorem Frame.finished_eq (f : Frame) :
    f.finished = f.drafts.map (Draft.finishIn (f.passage.map (·.fullText))) := by
  unfold Frame.finished
  cases f.passage with
  | none => exact (List.map_id _).symm
  | some p => rfl

theorem Draft.finishIn_message (p : Passage) (sentence : Option String) :
    Draft.finishIn sentence ⟨.passage, p.message none, sentence.isSome⟩ =
      ⟨.passage, p.message sentence, false⟩ := by
  cases sentence with
  | none => rfl
  | some text =>
    have hlines : p.commentLines (some text) = p.commentLines none ++
        [Passage.sentenceLine text] := by
      simp [Passage.commentLines]
    have hcomment : (p.message (some text)).comment =
        if (p.message none).comment.isEmpty then Passage.sentenceLine text
        else (p.message none).comment ++ "\n" ++ Passage.sentenceLine text := by
      unfold Passage.message
      rw [hlines, intercalate_concat _ fun line => ne_empty_of_mem_commentLines]
    have hmessage : p.message (some text) =
        { p.message none with comment := (p.message (some text)).comment } := rfl
    rw [hmessage, hcomment]
    rfl

end Harvest.Template
