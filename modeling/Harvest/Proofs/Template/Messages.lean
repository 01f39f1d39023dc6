import Harvest.Proofs.Template.Visit

/-!
# The messages and lines of a template

What a successful walk through a template gives, told from its tree alone: the messages for the
contents of elements, the messages for attributes, and the line after it.
-/

namespace Harvest.Template

open Text Walk

/-! ## Messages in the order of the elements -/

theorem messagesOf_collect (origin : Origin) (entering leaving : Spot → List Draft)
    (around : List Element) (before : List Char) (node : Node) :
    messagesOf origin (node.collect entering leaving around before) =
      node.collect (fun spot => messagesOf origin (entering spot))
        (fun spot => messagesOf origin (leaving spot)) around before := by
  unfold messagesOf
  simp only [List.filterMap_eq_flatMap_toList, Node.flatMap_collect]

namespace Outset

variable (o : Outset)

/-- The messages of contents come in the order in which the elements end. -/
theorem messagesOf_passage (node : Node) :
    messagesOf .passage (node.collect o.entering o.leaving [] []) =
      node.postorder.filterMap o.contentMessage? := by
  have hentering (spot : Spot) : messagesOf .passage (o.entering spot) = [] := by
    unfold messagesOf entering
    rw [List.filterMap_map]
    exact List.filterMap_eq_nil_iff.mpr fun m _ => rfl
  have hleaving (spot : Spot) :
      messagesOf .passage (o.leaving spot) = (o.contentMessage? spot).toList := by
    unfold leaving
    cases o.contentMessage? spot <;> rfl
  rw [messagesOf_collect, funext hentering, funext hleaving, Node.postorder,
    List.filterMap_eq_flatMap_toList, Node.flatMap_collect]
  simp only [List.flatMap_nil, List.flatMap_singleton]

/-- The messages of attributes come in the order in which the elements start. -/
theorem messagesOf_attribute (node : Node) :
    messagesOf .attribute (node.collect o.entering o.leaving [] []) =
      node.preorder.flatMap o.attributeMessages := by
  have hentering (spot : Spot) :
      messagesOf .attribute (o.entering spot) = o.attributeMessages spot := by
    unfold messagesOf entering
    rw [List.filterMap_map]
    exact List.filterMap_some
  rw [messagesOf_collect, funext hentering, funext o.messagesOf_attribute_leaving, Node.preorder,
    Node.flatMap_collect]
  simp only [List.flatMap_nil, List.flatMap_singleton]

/-- The message of a content is on the line on which the start tag ends. -/
theorem location_contentMessage? (spot : Spot) :
    (o.contentMessage? spot).map (·.location) =
      if (spot.element.id?.isSome && o.offers spot) = true then
        some ⟨o.file, o.line + feeds (spot.before ++ spot.element.tag.written)⟩
      else none := by
  unfold contentMessage?
  cases spot.element.id? with
  | none => rfl
  | some id =>
    cases o.offers spot with
    | true => simp [contentMessage]
    | false => rfl

end Outset

theorem location_messagesOf_finishIn (origin : Origin) (sentence : Option String)
    (ds : List Draft) :
    (messagesOf origin (ds.map (Draft.finishIn sentence))).map (·.location) =
      (messagesOf origin ds).map (·.location) := by
  unfold messagesOf
  rw [List.map_filterMap, List.map_filterMap, List.filterMap_map]
  apply List.filterMap_congr
  intro d _
  simp only [Function.comp_apply, Draft.origin_finishIn]
  split
  · exact congrArg some (d.location_finishIn sentence)
  · rfl

/-! ## Walks from any state -/

def Walker.outset (g : Walker) (s : WalkState) : Outset :=
  { asked := g.includes
    file := g.file
    line := s.line
    scope := s.frame.scope
    sentence := s.frame.passage.map (·.fullText) }

/-- A walk through a node adds what the node says, wherever the walk starts. -/
theorem visit_grows_outset {g : Walker} {node : Node} {s s' : WalkState}
    (h : Reaches (g.visit node) s () s') :
    Grows (g.outset s).sentence (.ofNode (g.outset s) [] [] node) s s' := by
  have hat : (g.outset s).At [] [] s := ⟨rfl, (Int.add_zero _).symm, Option.isSome_map.symm⟩
  exact visit_grows rfl rfl node hat h

theorem drafts_of_outermost {s : WalkState} (houter : s.outer = [])
    (hpassage : s.frame.passage = none) : s.drafts = s.frame.drafts := by
  unfold WalkState.drafts
  rw [houter, List.reverse_singleton, List.flatMap_singleton, Frame.finished_eq, hpassage]
  exact List.map_id _

/-- A walk through a node that starts outside of every element leaves none of them open, and finds
one message for each element whose content is to be translated, has a domain, and has more to it
than interpolations; the elements come in the order in which they end. -/
theorem visit_contentMessages (g : Walker) (node : Node) (s s' : WalkState)
    (hdomain : g.options.domain = none) (houter : s.outer = []) (hpassage : s.frame.passage = none)
    (h : Reaches (g.visit node) s () s') :
    s'.outer = [] ∧ s'.frame.scope = s.frame.scope ∧ s'.frame.passage = none ∧
      messagesOf .passage s'.drafts = messagesOf .passage s.drafts ++
        node.postorder.filterMap (Outset.contentMessage?
          { asked := fun _ => true, file := g.file, line := s.line, scope := s.frame.scope }) := by
  have hasked : g.includes = fun _ => true := by
    funext domain
    unfold Walker.includes
    rw [hdomain]
    rfl
  have hgrows := visit_grows_outset h
  obtain ⟨found, hfound, -, hframe⟩ := hgrows.frame
  have houter' : s'.outer = [] := hgrows.outer.trans houter
  have hpassage' : s'.frame.passage = none := by
    rw [hframe, hpassage]
    rfl
  refine ⟨houter', by rw [hframe], hpassage', ?_⟩
  have hsentence : (g.outset s).sentence = none := by
    unfold Walker.outset
    rw [hpassage]
    rfl
  have hnew : messagesOf .passage found =
      node.postorder.filterMap (g.outset s).contentMessage? := by
    rw [← messagesOf_ofMarkup (by decide), ← Outset.messagesOf_passage]
    rw [hsentence] at hfound
    exact congrArg _ ((List.map_id _).symm.trans hfound)
  rw [drafts_of_outermost houter hpassage, drafts_of_outermost houter' hpassage', hframe,
    messagesOf_append, hnew]
  unfold Walker.outset
  rw [hasked, hpassage]
  rfl

def Tag.ofStatements (name : String) (statements : List (String × String)) : Tag :=
  { name
    suffix := some ">"
    attributes := statements.map fun (name, value) => ⟨" ", "i18n:" ++ name, "=", "\"", value⟩
    qualified := statements.map fun (name, value) => (⟨.internationalization, name⟩, value) }

/-- A passage with another one inside, whose name is said twice. -/
def greeting : Node :=
  .element (.ofStatements "p" [("domain", "d"), ("translate", "greeting")]) none
    [.text "Dear\n ",
      .element (.ofStatements "b" [("name", "you"), ("translate", "")]) none
        [.text " dear  reader"],
      .text ",", .startTag (.ofStatements "i" [("name", "you")])]

theorem visit_contentMessages_greeting :
    ∃ s', Reaches (Walker.visit { engine := "python" } greeting) {} () s' ∧ s'.outer = [] ∧
      messagesOf .passage s'.drafts =
        [{ text := some "dear reader"
           comment := "Used in sentence: \"Dear $\x7byou\x7d,$\x7byou\x7d\""
           location := ⟨"f", 2⟩ },
         { text := some "greeting"
           comment := "Default: Dear $\x7byou\x7d,$\x7byou\x7d\n" ++
            "Canonical text for $\x7byou\x7d is: \"dear reader\""
           location := ⟨"f", 1⟩ }] := by
  have h : Reaches (Walker.visit { engine := "python" } greeting) {} ()
      ((ExceptT.run (Walker.visit { engine := "python" } greeting)).run {}).2 := by
    with_unfolding_all rfl
  obtain ⟨houter, -, -, hmessages⟩ := visit_contentMessages _ greeting {} _ rfl rfl rfl h
  exact ⟨_, h, houter, hmessages.trans rfl⟩

/-- A walk through a node goes down as many lines as the node has line feeds. The message for an
attribute is on the line on which the value of the last attribute with its name starts, and the
message for the content of an element on the line on which its start tag ends. -/
theorem visit_lines (g : Walker) (node : Node) (s s' : WalkState)
    (h : Reaches (g.visit node) s () s') :
    s'.line = s.line + feeds node.written ∧ s'.outer = s.outer ∧
      ∃ found, s'.frame.drafts = s.frame.drafts ++ found ∧
        messagesOf .attribute found = node.preorder.flatMap (g.outset s).attributeMessages ∧
        (messagesOf .passage found).map (·.location) =
          (node.postorder.filter fun spot =>
            spot.element.id?.isSome && (g.outset s).offers spot).map fun spot =>
              ⟨g.file, s.line + feeds (spot.before ++ spot.element.tag.written)⟩ := by
  have hgrows := visit_grows_outset h
  obtain ⟨found, hfound, hattributes, hframe⟩ := hgrows.frame
  refine ⟨hgrows.line, hgrows.outer, found, by rw [hframe], ?_, ?_⟩
  · rw [hattributes, ← Outset.messagesOf_attribute]
    rfl
  · rw [← messagesOf_ofMarkup (by decide) found,
      ← location_messagesOf_finishIn _ (g.outset s).sentence, hfound]
    change (messagesOf .passage (node.collect _ _ [] [])).map _ = _
    rw [Outset.messagesOf_passage, List.map_filterMap, funext (g.outset s).location_contentMessage?,
      ← List.filterMap_filter, List.filterMap_eq_map']
    rfl

/-- A picture with two attributes of one plain name, which stand on several lines. -/
def picture : Node :=
  .startTag
    { name := "img"
      suffix := some "\n/>"
      attributes := [⟨"\n", "alt", "=", "\"", "a\nb"⟩, ⟨" ", "x:alt", "=\n", "\"", "c"⟩,
        ⟨" ", "i18n:attributes", "=", "\"", "alt"⟩]
      qualified := [(⟨.internationalization, "attributes"⟩, "alt")] }

theorem visit_lines_picture :
    ∃ s', Reaches (Walker.visit { engine := "python" } picture) {} () s' ∧ s'.line = 5 ∧
      messagesOf .attribute s'.frame.drafts = [{ text := some "c", location := ⟨"f", 4⟩ }] := by
  have h : Reaches (Walker.visit { engine := "python" } picture) {} ()
      ((ExceptT.run (Walker.visit { engine := "python" } picture)).run {}).2 := by
    with_unfolding_all rfl
  obtain ⟨hline, -, found, hfound, hattributes, -⟩ := visit_lines _ picture {} _ h
  exact ⟨_, h, hline.trans rfl, hfound ▸ hattributes.trans rfl⟩

end Harvest.Template
