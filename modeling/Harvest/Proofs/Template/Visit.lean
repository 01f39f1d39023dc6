import Harvest.Proofs.Template.Growth
import Harvest.Proofs.Template.Steps

/-!
# What a walk finds

A walk keeps a stack of open elements and passages that are still growing, and messages wait on it
until the text around them is known. What it finds is nevertheless what each element gives in its
place, and the line that it keeps is that of the text written so far.
-/

namespace Harvest.Template

open Text Walk

/-! ## Elements by their places -/

namespace Outset

variable (o : Outset)

theorem enter_scopeAt (e : Element) (around : List Element) :
    (o.scopeAt around).enter e.tag = o.scopeAt (e :: around) := by
  have hnearest (name : String) (initial : Option String) :
      (e.says? name).or ((around.findSome? (·.says? name)).or initial) =
        ((e :: around).findSome? (·.says? name)).or initial := by
    rw [List.findSome?_cons, ← Option.or_assoc]
    cases e.says? name <;> rfl
  unfold scopeAt
  rw [← hnearest, ← hnearest, ← hnearest]
  rfl

variable {o} {g : Walker}

/-- The walk makes of an element's attributes what the reading of the template says. -/
theorem attributeMessages_eq (hasked : o.asked = g.includes) (hfile : o.file = g.file)
    (spot : Spot) :
    g.attributeMessages (o.scopeAt spot.path)
        (o.line + feeds (spot.before ++ spot.element.tag.lead)) spot.element.tag =
      o.attributeMessages spot := by
  have hentry (entry : List Char) :
      g.attributeMessage? (o.scopeAt spot.path)
          (o.line + feeds (spot.before ++ spot.element.tag.lead))
          (plainAttributes spot.element.tag.attributes) entry =
        o.attributeMessage? spot entry := by
    unfold Walker.attributeMessage? attributeMessage?
    -- Both sides add up the line feeds before the value, from the start of the file.
    simp only [lookup_plainAttributes, Option.map_map, hfile, feeds_append, Int.natCast_add,
      Int.add_assoc]
    rfl
  unfold Walker.attributeMessages attributeMessages asks Element.says?
  rw [hasked, funext hentry]
  cases present? (spot.element.tag.get? .internationalization "attributes") with
  | none => exact (ite_self _).symm
  | some entries => rw [Option.toList_some, List.flatMap_singleton]

theorem passageDraft?_eq (hasked : o.asked = g.includes) {f : Frame} {spot : Spot}
    (hscope : f.scope = o.scopeAt spot.path)
    (hpassage : f.passage = spot.element.id?.map (o.passage · spot)) :
    (g.passageDraft? f (o.sentence? spot.around).isSome).toList.map
        (Draft.finishIn (o.sentence? spot.around)) =
      o.leaving spot := by
  unfold Walker.passageDraft? leaving contentMessage?
  rw [hpassage]
  cases spot.element.id? with
  | none => rfl
  | some id =>
    have hoffers :
      (!(o.passage id spot).isIgnored && (present? (o.passage id spot).domain).isSome &&
        g.includes f.scope.domain) = o.offers spot := by
      rw [isIgnored_passage, hscope, ← hasked]
      rfl
    simp only [Option.map_some, Option.bind_some, hoffers]
    cases o.offers spot with
    | false => rfl
    | true =>
      rw [if_pos rfl, if_pos rfl, Option.toList_some, List.map_singleton,
        Draft.finishIn_message, message_passage]
      rfl

end Outset

/-! ## Entering and leaving an element -/

section Element

variable {g : Walker} {o : Outset} {e : Element} {path : List Element} {before : List Char}
  {s t u s' : WalkState}

def Outset.opened (o : Outset) (spot : Spot) (id : String) : Passage :=
  { o.passage id spot with pieces := [], parts := [] }

theorem Outset.extend_opened (o : Outset) (spot : Spot) (id : String) :
    (o.opened spot id).extend (spot.element.children.filterMap (Node.shown? (o.asks spot.path)))
        (spot.element.children.filterMap (o.part? spot.path)) =
      o.passage id spot := by
  unfold Passage.extend
  rw [show (o.opened spot id).parts = [] from rfl, Assoc.foldl_bind]
  rfl

theorem Outset.map_text_id? (o : Outset) (e : Element) (around : List Element) :
    e.id?.map (fun _ => o.text e around) = o.sentence? (e :: around) := by
  rw [Outset.sentence?]
  cases e.id? <;> rfl

/-- The frame with the mark of an element shown in its passage. -/
def Frame.marked (f : Frame) (e : Element) : Frame :=
  { f with passage := f.passage.map (·.addElement (e.tag.get? .internationalization "name")) }

structure Entered (o : Outset) (e : Element) (path : List Element) (before : List Char)
    (s t : WalkState) : Prop where
  inside : o.At (e :: path) (before ++ e.tag.written) t
  outer : t.outer = s.frame.marked e :: s.outer
  name : t.frame.name = e.tag.get? .internationalization "name"
  passage : t.frame.passage = e.id?.map (o.opened ⟨e, path, before⟩)
  drafts : ofMarkup t.frame.drafts = o.entering ⟨e, path, before⟩

theorem openElement_entered (hasked : o.asked = g.includes) (hfile : o.file = g.file)
    (hat : o.At path before s) (h : Reaches (g.openElement e.tag) s () t) :
    Entered o e path before s t := by
  obtain ⟨session, code, hcode, rfl⟩ := Walker.openElement_reaches h
  -- Attributes are placed from the end of the tag's name on, and the passage at the end of the tag.
  have hname : s.line + e.tag.nameFeeds = o.line + feeds (before ++ e.tag.lead) := by
    rw [hat.line, feeds_append, Int.natCast_add, Int.add_assoc]
    rfl
  have hline : s.line + e.tag.nameFeeds + e.tag.restFeeds =
      o.line + feeds (before ++ e.tag.written) := by
    rw [hat.line, feeds_append, ← Tag.nameFeeds_add_restFeeds]
    omega
  have hscope : s.frame.scope.enter e.tag = o.scopeAt (e :: path) := by
    rw [hat.scope, Outset.enter_scopeAt]
  have hpassage :
    g.passage? (o.scopeAt (e :: path)) (o.line + feeds (before ++ e.tag.written)) e.tag =
      e.id?.map (o.opened ⟨e, path, before⟩) := by
    unfold Walker.passage?
    rw [← hfile]
    rfl
  have hattributes := Outset.attributeMessages_eq hasked hfile ⟨e, path, before⟩
  rw [hline, hname, hscope, hpassage]
  refine ⟨⟨rfl, rfl, ?_⟩, rfl, rfl, rfl, ?_⟩
  · rw [← o.map_text_id?, Option.isSome_map, Option.isSome_map]
  · rw [ofMarkup_append, ofMarkup_of_code hcode, List.append_nil, ← ofMarkup_entering]
    unfold Outset.entering
    rw [← hattributes]
    rfl

theorem ofMarkup_map_finishIn (sentence : Option String) (ds : List Draft) :
    ofMarkup (ds.map (Draft.finishIn sentence)) = (ofMarkup ds).map (Draft.finishIn sentence) := by
  unfold ofMarkup
  rw [List.filter_map]
  simp only [Function.comp_def, Draft.origin_finishIn]

theorem origin_of_mem_passageDraft? {f : Frame} {inSentence : Bool} {d : Draft}
    (hd : d ∈ (g.passageDraft? f inSentence).toList) : d.origin = .passage := by
  unfold Walker.passageDraft? at hd
  rw [Option.mem_toList] at hd
  split at hd
  · split at hd
    · cases hd
      rfl
    · cases hd
  · cases hd

theorem ofMarkup_passageDraft? (g : Walker) (f : Frame) (inSentence : Bool) :
    ofMarkup (g.passageDraft? f inSentence).toList = (g.passageDraft? f inSentence).toList := by
  unfold ofMarkup
  rw [List.filter_eq_self]
  intro d hd
  rw [origin_of_mem_passageDraft? hd]
  rfl

theorem messagesOf_attribute_passageDraft? (g : Walker) (f : Frame) (inSentence : Bool) :
    messagesOf .attribute (g.passageDraft? f inSentence).toList = [] := by
  unfold messagesOf
  rw [List.filterMap_eq_nil_iff]
  intro d hd
  rw [origin_of_mem_passageDraft? hd]
  rfl

/-- All that is inside the element at a place has been walked through, and this is its frame. -/
structure Filled (o : Outset) (e : Element) (path : List Element) (before : List Char) (f : Frame) :
    Prop where
  scope : f.scope = o.scopeAt (e :: path)
  name : f.name = e.tag.get? .internationalization "name"
  passage : f.passage = e.id?.map (o.passage · ⟨e, path, before⟩)
  drafts : (ofMarkup f.drafts).map (Draft.finishIn (o.sentence? (e :: path))) =
    o.entering ⟨e, path, before⟩ ++
      Node.collectAll o.entering o.leaving (e :: path) (before ++ e.tag.written) e.children

theorem Entered.filled (hentered : Entered o e path before s t)
    (hinside : Grows (o.sentence? (e :: path))
      (.ofNodes o (e :: path) (before ++ e.tag.written) e.children) t u) :
    Filled o e path before u.frame := by
  obtain ⟨found, hfound, -, hframe⟩ := hinside.frame
  rw [hframe]
  refine ⟨hentered.inside.scope, hentered.name, ?_, ?_⟩
  · rw [hentered.passage, Option.map_map]
    exact congrArg (Option.map · e.id?) (funext (o.extend_opened ⟨e, path, before⟩))
  · rw [ofMarkup_append, hentered.drafts, List.map_append, hfound, o.finishIn_entering]
    rfl

theorem Filled.finished {f : Frame} (hf : Filled o e path before f) :
    ofMarkup f.finished = o.entering ⟨e, path, before⟩ ++
      Node.collectAll o.entering o.leaving (e :: path) (before ++ e.tag.written) e.children := by
  have htext : e.id?.map (fun id => (o.passage id ⟨e, path, before⟩).fullText) =
      o.sentence? (e :: path) := by
    rw [← o.map_text_id?]
    simp only [Outset.fullText_passage]
  rw [Frame.finished_eq, ofMarkup_map_finishIn, hf.passage, Option.map_map, ← hf.drafts, ← htext]
  rfl

theorem Filled.passage_leave {inner : Frame} (hinner : Filled o e path before inner) (f : Frame) :
    (g.leave inner f).passage = f.passage.map (·.extend [] (o.partOf? path e).toList) := by
  unfold Walker.leave Outset.partOf? Element.says?
  rw [hinner.passage, hinner.name]
  cases f.passage with
  | none => rfl
  | some p =>
    cases e.id? with
    | none => exact congrArg some p.extend_nil.symm
    | some id =>
      cases present? (e.tag.get? .internationalization "name") with
      | none => exact congrArg some p.extend_nil.symm
      | some name =>
        change some
            { p with parts := bind name (o.passage id ⟨e, path, before⟩).fullText p.parts } =
          some { p with pieces := p.pieces ++ [], parts := bind name (o.text e path) p.parts }
        rw [Outset.fullText_passage, List.append_nil]

/-- An element that is done hands its messages and its text to the frame around it. -/
theorem Filled.leave {inner : Frame} (hinner : Filled o e path before inner) (f : Frame) :
    g.leave inner f = { f with
      passage := f.passage.map (·.extend [] (o.partOf? path e).toList)
      drafts := f.drafts ++
        (inner.finished ++ (g.passageDraft? inner f.passage.isSome).toList) } := by
  have hmove : g.leave inner f = { f with
      passage := (g.leave inner f).passage
      drafts := f.drafts ++ inner.finished ++
        (g.passageDraft? inner f.passage.isSome).toList } := rfl
  rw [hmove, hinner.passage_leave f, List.append_assoc]

theorem addElement_extend (p : Passage) (parts : List (String × String)) :
    (p.addElement (e.tag.get? .internationalization "name")).extend [] parts =
      p.extend [e.mark] parts := by
  have hmark : placeholder (e.tag.get? .internationalization "name") = e.mark := by
    unfold placeholder Element.mark Element.says?
    cases present? (e.tag.get? .internationalization "name") <;> rfl
  unfold Passage.addElement Passage.addText Passage.extend
  rw [hmark, List.append_nil]

theorem element_grows (hasked : o.asked = g.includes) {stop : Option Tag} (hat : o.At path before s)
    (hentered : Entered o e path before s t)
    (hinside : Grows (o.sentence? (e :: path))
      (.ofNodes o (e :: path) (before ++ e.tag.written) e.children) t u)
    (hclose : Reaches (g.closeElement stop) u () s') :
    Grows (o.sentence? path)
      (.ofElement o path before e ((stop.map Tag.written).getD [])) s s' := by
  have hfilled := hentered.filled hinside
  have hmarked : (s.frame.marked e).passage.isSome = (o.sentence? path).isSome :=
    Option.isSome_map.trans hat.passage
  have hextend : (s.frame.marked e).passage.map (·.extend [] (o.partOf? path e).toList) =
      s.frame.passage.map (·.extend [e.mark] (o.partOf? path e).toList) := by
    rw [Frame.marked, Option.map_map]
    exact congrArg (Option.map · s.frame.passage) (funext fun p => addElement_extend p _)
  have hstop : (stop.map fun tag => tag.nameFeeds + tag.restFeeds).getD 0 =
      feeds ((stop.map Tag.written).getD []) := by
    cases stop with
    | none => rfl
    | some tag => exact tag.nameFeeds_add_restFeeds
  have hclosed := Walker.closeElement_reaches (hinside.outer.trans hentered.outer) hclose
  rw [hfilled.leave (s.frame.marked e), hextend, hmarked, hstop] at hclosed
  refine ⟨?_, ?_, u.frame.finished ++ _, ?_, ?_, by rw [hclosed]; rfl⟩
  · rw [hclosed, hinside.line, hentered.inside.line, hat.line]
    simp only [Yield.ofElement, Yield.ofNodes, feeds_append]
    omega
  · rw [hclosed]
  · -- What was inside waits for nothing more, and the element's own message learns the text around
    -- it.
    rw [ofMarkup_append, List.map_append, hfilled.finished, List.map_append, o.finishIn_entering,
      o.finishIn_collectAll, ofMarkup_passageDraft?,
      Outset.passageDraft?_eq hasked hfilled.scope hfilled.passage]
    rfl
  · rw [messagesOf_append, ← messagesOf_ofMarkup (by decide) u.frame.finished, hfilled.finished,
      messagesOf_attribute_passageDraft?, Yield.ofElement, messagesOf_append _ (_ ++ _),
      o.messagesOf_attribute_leaving]

end Element

/-! ## Whole walks -/

section Visit

variable {g : Walker} {o : Outset}

theorem addText_grows (hasked : o.asked = g.includes) {text : String} {path : List Element}
    {before : List Char} {s s' : WalkState} (hat : o.At path before s)
    (h : Reaches (g.addText text) s () s') :
    Grows (o.sentence? path) (.ofNode o path before (.text text)) s s' := by
  obtain ⟨session, code, hcode, rfl⟩ := Walker.addText_reaches h
  refine ⟨rfl, rfl, code, ?_, ?_, ?_⟩
  · rw [ofMarkup_of_code hcode]
    rfl
  · rw [← messagesOf_ofMarkup (by decide), ofMarkup_of_code hcode]
    rfl
  · have hasks : g.includes s.frame.scope.domain = o.asks path := by
      rw [← hasked, hat.scope]
      rfl
    have hshown : (if o.asks path then s.frame.passage.map (·.addText text.toList)
        else s.frame.passage) =
        s.frame.passage.map (·.extend (Node.shown? (o.asks path) (.text text)).toList []) := by
      cases o.asks path with
      | true => rfl
      | false =>
        -- A text in a domain that is not asked for is passed over.
        change s.frame.passage = s.frame.passage.map (·.extend [] [])
        rw [funext Passage.extend_nil, Option.map_id']
    rw [hasks, hshown]
    rfl

mutual

/-- A node adds what its elements give in their places. -/
theorem visit_grows (hasked : o.asked = g.includes) (hfile : o.file = g.file) (node : Node)
    {path : List Element} {before : List Char} {s s' : WalkState}
    (hat : o.At path before s) (h : Reaches (g.visit node) s () s') :
    Grows (o.sentence? path) (.ofNode o path before node) s s' := by
  match node with
  | .element start stop children =>
    rw [Walker.visit] at h
    obtain ⟨_, t, hopen, h⟩ := reaches_bind h
    obtain ⟨_, u, hinside, hclose⟩ := reaches_bind h
    have hentered : Entered o ⟨start, children⟩ path before s t :=
      openElement_entered hasked hfile hat hopen
    rw [Yield.ofNode_element]
    exact element_grows hasked hat hentered
      (visitAll_grows hasked hfile children hentered.inside hinside) hclose
  | .startTag tag =>
    rw [Walker.visit] at h
    obtain ⟨_, t, hopen, hclose⟩ := reaches_bind h
    have hentered : Entered o ⟨tag, []⟩ path before s t :=
      openElement_entered hasked hfile hat hopen
    -- A start tag that is never closed is left at once.
    rw [Yield.ofNode_startTag]
    refine element_grows hasked hat hentered ?_ hclose
    rw [Yield.ofNodes_nil]
    exact .of_line (Int.add_zero _).symm rfl rfl
  | .text text =>
    rw [Walker.visit] at h
    exact addText_grows hasked hat h
  | .comment text =>
    rw [Walker.visit] at h
    rw [reaches_modify h]
    exact .of_line rfl rfl rfl
  | .characterData text =>
    rw [Walker.visit] at h
    rw [reaches_modify h]
    exact .of_line rfl rfl rfl
  | .instruction text =>
    rw [Walker.visit] at h
    rw [reaches_modify h]
    have hfeeds : feeds (Node.written (.instruction text)) = textFeeds text := by
      rw [Node.written, feeds_append, feeds_append]
      exact Nat.zero_add _
    exact .of_line (by rw [hfeeds]) rfl rfl
  | .declaration text =>
    rw [Walker.visit] at h
    obtain ⟨session, rfl⟩ := Walker.addDeclaration_reaches h
    exact .of_line rfl rfl rfl
  | .unknown kind =>
    rw [Walker.visit] at h
    obtain ⟨session, rfl⟩ := reaches_job h
    exact .of_line (Int.add_zero _).symm rfl rfl

theorem visitAll_grows (hasked : o.asked = g.includes) (hfile : o.file = g.file) (nodes : List Node)
    {path : List Element} {before : List Char} {s s' : WalkState}
    (hat : o.At path before s) (h : Reaches (g.visitAll nodes) s () s') :
    Grows (o.sentence? path) (.ofNodes o path before nodes) s s' := by
  match nodes with
  | [] =>
    rw [Walker.visitAll] at h
    rw [reaches_pure h, Yield.ofNodes_nil]
    exact .of_line (Int.add_zero _).symm rfl rfl
  | node :: rest =>
    rw [Walker.visitAll] at h
    obtain ⟨_, t, hnode, hrest⟩ := reaches_bind h
    have hst := visit_grows hasked hfile node hat hnode
    have htu := visitAll_grows hasked hfile rest (hat.grow hst) hrest
    rw [Yield.ofNodes_cons]
    exact hst.append htu

end

end Visit

end Harvest.Template
