import Harvest.Proofs.Template.Passage

/-!
# What a walk adds to an open element

A part of a template adds to the element that is open around it: lines, pieces and parts of its
passage, and messages. The messages for contents right inside a passage wait there for the text of
the passage.
-/

namespace Harvest.Template

open Text

/-! ## What elements give -/

namespace Outset

variable (o : Outset)

def entering (spot : Spot) : List Draft := (o.attributeMessages spot).map (⟨.attribute, ·, false⟩)

def leaving (spot : Spot) : List Draft :=
  (o.contentMessage? spot).toList.map (⟨.passage, ·, false⟩)

theorem finishIn_entering (sentence : Option String) (spot : Spot) :
    (o.entering spot).map (Draft.finishIn sentence) = o.entering spot :=
  Draft.map_finishIn_told sentence .attribute _

theorem finishIn_leaving (sentence : Option String) (spot : Spot) :
    (o.leaving spot).map (Draft.finishIn sentence) = o.leaving spot :=
  Draft.map_finishIn_told sentence .passage _

theorem finishIn_collectAll (sentence : Option String) (around : List Element)
    (before : List Char) (nodes : List Node) :
    (Node.collectAll o.entering o.leaving around before nodes).map (Draft.finishIn sentence) =
      Node.collectAll o.entering o.leaving around before nodes := by
  rw [List.map_eq_flatMap, Node.flatMap_collectAll]
  simp only [← List.map_eq_flatMap, finishIn_entering, finishIn_leaving]

end Outset

/-! ## What nodes add to an open element -/

/-- What a part of a template adds: its text, what it shows and which parts it has in the passage
around it, and the messages found in its markup. -/
structure Yield where
  written : List Char := []
  shown : List (List Char) := []
  parts : List (String × String) := []
  drafts : List Draft := []

namespace Yield

def append (y z : Yield) : Yield :=
  { written := y.written ++ z.written
    shown := y.shown ++ z.shown
    parts := y.parts ++ z.parts
    drafts := y.drafts ++ z.drafts }

def ofNode (o : Outset) (path : List Element) (before : List Char) (node : Node) : Yield :=
  { written := node.written
    shown := (node.shown? (o.asks path)).toList
    parts := (o.part? path node).toList
    drafts := node.collect o.entering o.leaving path before }

/-- What an element adds that is closed by the text `stop`. -/
def ofElement (o : Outset) (path : List Element) (before : List Char) (e : Element)
    (stop : List Char) : Yield :=
  { written := e.tag.written ++ Node.allWritten e.children ++ stop
    shown := [e.mark]
    parts := (o.partOf? path e).toList
    drafts := o.entering ⟨e, path, before⟩ ++
      Node.collectAll o.entering o.leaving (e :: path) (before ++ e.tag.written) e.children ++
      o.leaving ⟨e, path, before⟩ }

def ofNodes (o : Outset) (path : List Element) (before : List Char) (nodes : List Node) : Yield :=
  { written := Node.allWritten nodes
    shown := nodes.filterMap (Node.shown? (o.asks path))
    parts := nodes.filterMap (o.part? path)
    drafts := Node.collectAll o.entering o.leaving path before nodes }

theorem ofNode_element (o : Outset) (path : List Element) (before : List Char) (start : Tag)
    (stop : Option Tag) (children : List Node) :
    ofNode o path before (.element start stop children) =
      ofElement o path before ⟨start, children⟩ ((stop.map Tag.written).getD []) := by
  unfold ofNode ofElement
  rw [Node.written, Node.collect]
  rfl

theorem ofNode_startTag (o : Outset) (path : List Element) (before : List Char) (tag : Tag) :
    ofNode o path before (.startTag tag) = ofElement o path before ⟨tag, []⟩ [] := by
  unfold ofNode ofElement
  rw [Node.written, Node.collect, Node.allWritten, Node.collectAll]
  simp only [List.append_nil]
  rfl

theorem ofNodes_nil (o : Outset) (path : List Element) (before : List Char) :
    ofNodes o path before [] = {} := by
  unfold ofNodes
  rw [Node.allWritten, Node.collectAll]
  rfl

theorem ofNodes_cons (o : Outset) (path : List Element) (before : List Char) (node : Node)
    (rest : List Node) :
    ofNodes o path before (node :: rest) =
      (ofNode o path before node).append (ofNodes o path (before ++ node.written) rest) := by
  unfold ofNodes ofNode append
  rw [Node.allWritten, Node.collectAll]
  congr 1
  · rw [List.filterMap_cons]
    cases node.shown? (o.asks path) <;> rfl
  · rw [List.filterMap_cons]
    cases o.part? path node <;> rfl

end Yield

def Passage.extend (p : Passage) (shown : List (List Char)) (parts : List (String × String)) :
    Passage :=
  { p with
    pieces := p.pieces ++ shown
    parts := parts.foldl (fun bound part => bind part.1 part.2 bound) p.parts }

theorem Passage.extend_nil (p : Passage) : p.extend [] [] = p := by
  unfold Passage.extend
  rw [List.append_nil, List.foldl_nil]

def ofMarkup (ds : List Draft) : List Draft := ds.filter (·.origin ≠ .code)

def messagesOf (origin : Origin) (ds : List Draft) : List Message :=
  ds.filterMap fun d => if d.origin = origin then some d.message else none

/-- From one state to the next the walk has added this to the innermost element and has gone down
its lines. `sentence` is the text that the element will have, if it is a passage; the messages of
attributes do not wait for it. -/
structure Grows (sentence : Option String) (y : Yield) (s s' : WalkState) : Prop where
  line : s'.line = s.line + feeds y.written
  outer : s'.outer = s.outer
  frame : ∃ found, (ofMarkup found).map (Draft.finishIn sentence) = y.drafts ∧
    messagesOf .attribute found = messagesOf .attribute y.drafts ∧
    s'.frame = { s.frame with
      passage := s.frame.passage.map (·.extend y.shown y.parts)
      drafts := s.frame.drafts ++ found }

/-- The walk is right inside of some elements and after a part of the text. -/
structure Outset.At (o : Outset) (path : List Element) (before : List Char) (s : WalkState) :
    Prop where
  scope : s.frame.scope = o.scopeAt path
  line : s.line = o.line + feeds before
  passage : s.frame.passage.isSome = (o.sentence? path).isSome

theorem ofMarkup_append (ds es : List Draft) : ofMarkup (ds ++ es) = ofMarkup ds ++ ofMarkup es :=
  List.filter_append ..

theorem ofMarkup_of_code {ds : List Draft} (hds : ∀ d ∈ ds, d.origin = .code) :
    ofMarkup ds = [] := by
  unfold ofMarkup
  rw [List.filter_eq_nil_iff]
  intro d hd
  simp [hds d hd]

theorem messagesOf_append (origin : Origin) (ds es : List Draft) :
    messagesOf origin (ds ++ es) = messagesOf origin ds ++ messagesOf origin es :=
  List.filterMap_append

theorem messagesOf_ofMarkup {origin : Origin} (horigin : origin ≠ .code) (ds : List Draft) :
    messagesOf origin (ofMarkup ds) = messagesOf origin ds := by
  unfold messagesOf ofMarkup
  rw [List.filterMap_filter]
  apply List.filterMap_congr
  intro d _
  by_cases hcode : d.origin = .code
  · simp [hcode, Ne.symm horigin]
  · simp [hcode]

theorem Outset.messagesOf_attribute_leaving (o : Outset) (spot : Spot) :
    messagesOf .attribute (o.leaving spot) = [] := by
  unfold Outset.leaving
  cases o.contentMessage? spot <;> rfl

theorem ofMarkup_entering (o : Outset) (spot : Spot) :
    ofMarkup (o.entering spot) = o.entering spot := by
  unfold ofMarkup Outset.entering
  rw [List.filter_map]
  exact congrArg _ (List.filter_eq_self.mpr fun m _ => rfl)

theorem Grows.append {sentence : Option String} {y z : Yield} {s t u : WalkState}
    (hst : Grows sentence y s t) (htu : Grows sentence z t u) :
    Grows sentence (y.append z) s u := by
  obtain ⟨found, hfound, hattributes, hframe⟩ := hst.frame
  obtain ⟨more, hmore, hattributes', hframe'⟩ := htu.frame
  refine ⟨?_, htu.outer.trans hst.outer, found ++ more, ?_, ?_, ?_⟩
  · rw [htu.line, hst.line, Yield.append, feeds_append, Int.natCast_add, Int.add_assoc]
  · rw [ofMarkup_append, List.map_append, hfound, hmore]
    rfl
  · rw [Yield.append, messagesOf_append, messagesOf_append, hattributes, hattributes']
  · rw [hframe', hframe]
    simp only [Option.map_map, List.append_assoc, Yield.append]
    congr 2
    funext p
    simp [Passage.extend]

theorem Outset.At.grow {o : Outset} {path : List Element} {before : List Char} {y : Yield}
    {s s' : WalkState} (hat : o.At path before s) (hgrows : Grows (o.sentence? path) y s s') :
    o.At path (before ++ y.written) s' := by
  obtain ⟨found, -, -, hframe⟩ := hgrows.frame
  refine ⟨?_, ?_, ?_⟩
  · rw [hframe]
    exact hat.scope
  · rw [hgrows.line, hat.line, feeds_append, Int.natCast_add, Int.add_assoc]
  · rw [hframe, Option.isSome_map]
    exact hat.passage

theorem Grows.of_line {sentence : Option String} {written : List Char} {s s' : WalkState}
    (hline : s'.line = s.line + feeds written) (houter : s'.outer = s.outer)
    (hframe : s'.frame = s.frame) : Grows sentence { written } s s' := by
  refine ⟨hline, houter, [], rfl, rfl, ?_⟩
  rw [hframe, funext Passage.extend_nil, Option.map_id', List.append_nil]

end Harvest.Template
