import Harvest.Proofs.Template.Interpolations
import Harvest.Template.Walk

/-!
# The code that a walk hands on

A walk hands the code that it finds on, to be searched for messages. A code is handed on if it makes
a difference to the walk what is done with it. Only code that has been looked at and found valid is
handed on, also in a walk that fails later.
-/

namespace Harvest.Template

open Text

variable {engine : String} {code value : List Char}

/-! ## Codes that are found -/

theorem verdict_of_mem_interpolations {verdict : List Char → Source.Verdict} {s : List Char}
    (h : code ∈ (interpolations verdict engine s).codes) : verdict code = .valid := by
  have hall {s : List Char} {found : Interpolations}
    (hfound : Interpolated verdict engine s found) :
      ∀ code ∈ found.codes, verdict code = .valid := by
    induction hfound with
    | plain | refused | unreadable => exact nofun
    | taken _ _ hvalid _ ih => exact List.forall_mem_append.mpr ⟨hvalid, ih⟩
  exact hall (interpolated s) code h

theorem verdict_of_mem_ofCodes {codes : List (List Char)}
    (h : code ∈ (CodeSearch.ofCodes codes).codes) :
    Source.verdict code = .valid := by
  induction codes with
  | nil => cases h
  | cons first codes ih =>
    rw [CodeSearch.ofCodes] at h
    cases hverdict : Source.verdict first with
    | valid =>
      rw [hverdict] at h
      rcases List.mem_cons.mp h with rfl | h
      · exact hverdict
      · exact ih h
    | invalid | nullCharacter =>
      rw [hverdict] at h
      cases h

theorem verdict_of_mem_attributeCodes {name : QualifiedName}
    (h : code ∈ (attributeCodes engine name value).codes) : Source.verdict code = .valid := by
  unfold attributeCodes at h
  split at h
  · -- Only statements give codes that do not stand in interpolations.
    split at h
    · exact verdict_of_mem_ofCodes h
    · exact verdict_of_mem_ofCodes h
    · unfold definedCodes at h
      split at h
      · cases h
      · exact verdict_of_mem_ofCodes h
    · unfold repeatedCodes at h
      split at h
      · cases h
      · exact verdict_of_mem_ofCodes h
    · cases h
  · exact verdict_of_mem_interpolations h

/-! ## Walks that deal with code in another way -/

namespace Walker

theorem forM_congr {α : Type} {f f' : α → Walk PUnit} {xs : List α} (h : ∀ x ∈ xs, f x = f' x) :
    xs.forM f = xs.forM f' := by
  induction xs with
  | nil => rfl
  | cons x xs ih =>
    rw [List.forall_mem_cons] at h
    rw [List.forM, List.forM, h.1, ih h.2]

section

variable {g : Walker} {use : List Char → Walk Unit}
  (huse : ∀ code, Source.verdict code = .valid → use code = g.addCode code)
include huse

theorem addAttributeCode_congr (name : QualifiedName) (value : String) :
    g.addAttributeCode name value use = g.addAttributeCode name value := by
  have hsearch (value : List Char) : g.runSearch (attributeCodes g.engine name value) use =
      g.runSearch (attributeCodes g.engine name value) g.addCode := by
    unfold runSearch
    rw [forM_congr fun code hcode => huse code (verdict_of_mem_attributeCodes hcode)]
  unfold addAttributeCode
  rw [funext hsearch]

theorem openElement_congr (tag : Tag) : g.openElement tag use = g.openElement tag := by
  unfold openElement
  simp only [addAttributeCode_congr huse]

theorem addLine_congr (line : List Char) : g.addLine line use = g.addLine line := by
  unfold addLine
  congr 1
  funext line
  have hcode (code)
    (hcode : code ∈ (interpolations Source.verdict g.engine line).codes.filter hasMark) :
      use code = g.addCode code :=
        huse code (verdict_of_mem_interpolations (List.mem_filter.mp hcode).1)
  dsimp only
  rw [forM_congr fun code h => by rw [hcode code h]]

theorem addText_congr (s : String) : g.addText s use = g.addText s := by
  unfold addText
  simp only [addLine_congr huse]

end

mutual

theorem visit_congr {g : Walker} {use : List Char → Walk Unit}
    (huse : ∀ code, Source.verdict code = .valid → use code = g.addCode code) (node : Node) :
    g.visit node use = g.visit node := by
  match node with
  | .element start stop children =>
    rw [visit, visit, openElement_congr huse, visitAll_congr huse children]
  | .startTag tag => rw [visit, visit, openElement_congr huse]
  | .text s => rw [visit, visit, addText_congr huse]
  | .comment s | .characterData s | .instruction s | .declaration s | .unknown s =>
    rw [visit, visit]

/-- A walk that deals with valid code as usual is the usual one, whatever it would do with other
code. -/
theorem visitAll_congr {g : Walker} {use : List Char → Walk Unit}
    (huse : ∀ code, Source.verdict code = .valid → use code = g.addCode code) (nodes : List Node) :
    g.visitAll nodes use = g.visitAll nodes := by
  match nodes with
  | [] => rw [visitAll, visitAll]
  | node :: rest => rw [visitAll, visitAll, visit_congr huse node, visitAll_congr huse rest]

end

/-- It makes a difference to a walk what is done with a code: there is something else to do with it
that leads to another outcome or another state. This is so just if the walk comes to the code, for
then it can be made to fail there. -/
def HandsOn (g : Walker) (nodes : List Node) (s : WalkState) (code : List Char) : Prop :=
  ∃ other : Walk Unit,
    (ExceptT.run (g.visitAll nodes fun c => if c = code then other else g.addCode c)).run s ≠
      (ExceptT.run (g.visitAll nodes)).run s

/-- Any code that a walk through a template hands on is valid, whether or not the walk succeeds. -/
theorem verdict_of_handsOn {g : Walker} {nodes : List Node} {s : WalkState} {code : List Char}
    (h : g.HandsOn nodes s code) : Source.verdict code = .valid := by
  obtain ⟨other, hother⟩ := h
  by_contra hinvalid
  apply hother
  rw [visitAll_congr]
  intro c hc
  have hne : c ≠ code := fun heq => hinvalid (heq ▸ hc)
  exact if_neg hne

def brokenOff : List Node :=
  [.startTag
    { name := "p"
      suffix := some ">"
      qualified := [(⟨.other "", "title"⟩, "$\x7bx\x7d"), (⟨.statements, "content"⟩, "1 +")] }]

theorem verdict_of_handsOn_brokenOff :
    HandsOn { engine := "python" } brokenOff {} ['x'] ∧
      ((ExceptT.run (visitAll { engine := "python" } brokenOff)).run {}).1 = .error (.exit 1) ∧
      Source.verdict ['x'] = .valid := by
  have hfails : ((ExceptT.run (visitAll { engine := "python" } brokenOff)).run {}).1 =
      .error (.exit 1) := by
    decide +kernel
  have hhands : HandsOn { engine := "python" } brokenOff {} ['x'] := by
    refine ⟨throw .onlyNamed, fun hsame => ?_⟩
    have hother := (congrArg Prod.fst hsame).trans hfails
    exact absurd hother (by decide +kernel)
  exact ⟨hhands, hfails, verdict_of_handsOn hhands⟩

end Walker

end Harvest.Template
