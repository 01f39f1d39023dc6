import Harvest.Proofs.Template.Success

/-!
# All places of a template

A template is a list of places from which messages may come: for each element its attributes, the
code in its attributes and its content, and between them the code in texts. A walk succeeds just if
it can read the code at all these places, and then its messages are those of the places, one after
the other.
-/

namespace Harvest.Template

open Text Walk

/-! ## Places -/

/-- A place from which messages may come. -/
inductive Place where
  | attributes (spot : Spot)
  | tagCode (spot : Spot)
  | textCode (path : List Element) (before : List Char) (text : String)
  | content (spot : Spot)

namespace Place

def path : Place → List Element
  | .attributes spot | .tagCode spot | .content spot => spot.path
  | .textCode path _ _ => path

def origin : Place → Origin
  | .attributes _ => .attribute
  | .tagCode _ | .textCode .. => .code
  | .content _ => .passage

def codes (engine : String) : Place → List (List Char)
  | .tagCode spot => spot.element.tag.qualified.flatMap fun entry =>
      valueCodes engine entry.1 entry.2
  | .textCode _ _ text => (lines text.toList).flatMap (lineCodes engine)
  | .attributes _ | .content _ => []

/-- What is written before a place: up to the end of the name of a tag, or before a text. -/
def lead : Place → List Char
  | .attributes spot | .tagCode spot | .content spot => spot.before ++ spot.element.tag.lead
  | .textCode _ before _ => before

def ofElement (spot : Spot) (inside : List Place) : List Place :=
  [.attributes spot, .tagCode spot] ++ inside ++ [.content spot]

end Place

mutual

/-- The places of a node inside the elements `path` and after the text `before`, in the order in
which a walk comes to them. -/
def Node.places (path : List Element) (before : List Char) : Node → List Place
  | .element start _ children =>
      Place.ofElement ⟨⟨start, children⟩, path, before⟩
        (Node.allPlaces (⟨start, children⟩ :: path) (before ++ start.written) children)
  | .startTag tag => Place.ofElement ⟨⟨tag, []⟩, path, before⟩ []
  | .text s => [.textCode path before s]
  | .comment _ => []
  | .characterData _ => []
  | .instruction _ => []
  | .declaration _ => []
  | .unknown _ => []

def Node.allPlaces (path : List Element) (before : List Char) : List Node → List Place
  | [] => []
  | node :: rest => node.places path before ++ Node.allPlaces path (before ++ node.written) rest

end

namespace Walker

variable (g : Walker) (start : WalkState)

def codeMessagesAt (p : Place) : List Message :=
  (p.codes g.engine).flatMap (g.codeAt (g.keywords start) (start.line + feeds p.lead))

def messagesAt (p : Place) : List Message :=
  match p with
  | .attributes spot => (g.outset start).attributeMessages spot
  | .tagCode _ => g.codeMessagesAt start p
  | .textCode path _ _ => if (g.outset start).asks path then g.codeMessagesAt start p else []
  | .content spot => ((g.outset start).contentMessage? spot).toList

/-- Can the code of a place be read when a walk has started in some state? -/
def ReadsAt (p : Place) : Prop :=
  match p with
  | .tagCode spot => ∀ entry ∈ spot.element.tag.qualified,
      g.ReadsValue (g.keywords start) (start.line + feeds p.lead) entry.1 entry.2
  | .textCode path _ text => (g.outset start).asks path →
      ∀ line ∈ lines text.toList, g.ReadsLine (g.keywords start) (start.line + feeds p.lead) line
  | _ => True

def draftsAt (p : Place) : List Draft := (g.messagesAt start p).map (⟨p.origin, ·, false⟩)

theorem finishIn_draftsAt (sentence : Option String) (places : List Place) :
    (places.flatMap (g.draftsAt start)).map (Draft.finishIn sentence) =
      places.flatMap (g.draftsAt start) := by
  rw [List.map_flatMap]
  congr 1
  funext p
  exact Draft.map_finishIn_told sentence p.origin _

theorem message_draftsAt (places : List Place) :
    (places.flatMap (g.draftsAt start)).map (·.message) = places.flatMap (g.messagesAt start) := by
  rw [List.map_flatMap]
  congr 1
  funext p
  unfold draftsAt
  rw [List.map_map]
  exact List.map_id _

end Walker

/-! ## Messages -/

variable {g : Walker} {start s t u s' : WalkState} {path : List Element} {before : List Char}
  {sentence : Option String} {places more : List Place} {e : Element}

/-- From one state to the next the messages of these places have been added to the innermost
element, which will have the text `sentence` if it is a passage. -/
structure Surveys (g : Walker) (start : WalkState) (sentence : Option String) (places : List Place)
    (s s' : WalkState) : Prop where
  makes : Makes g.options.keywords (g.keywords start) s'.session
  frame : ∃ found, found.map (Draft.finishIn sentence) = places.flatMap (g.draftsAt start) ∧
    s'.frame.drafts = s.frame.drafts ++ found

theorem Surveys.append (hst : Surveys g start sentence places s t)
    (htu : Surveys g start sentence more t u) : Surveys g start sentence (places ++ more) s u := by
  obtain ⟨found, hfound, hdrafts⟩ := hst.frame
  obtain ⟨others, hothers, hdrafts'⟩ := htu.frame
  refine ⟨htu.makes, found ++ others, ?_, ?_⟩
  · rw [List.map_append, hfound, hothers, List.flatMap_append]
  · rw [hdrafts', hdrafts, List.append_assoc]

theorem Surveys.nothing (hs' : Makes g.options.keywords (g.keywords start) s'.session)
    (hdrafts : s'.frame.drafts = s.frame.drafts) : Surveys g start sentence [] s s' :=
  ⟨hs', [], rfl, hdrafts.trans (List.append_nil _).symm⟩

theorem Filled.map_fullText {o : Outset} {f : Frame} (hf : Filled o e path before f) :
    f.passage.map (·.fullText) = o.sentence? (e :: path) := by
  rw [hf.passage, Option.map_map, ← o.map_text_id?]
  congr 1
  funext id
  exact Outset.fullText_passage ..

theorem openElement_surveys (hat : (g.outset start).At path before s)
    (hs : Makes g.options.keywords (g.keywords start) s.session)
    (h : Reaches (g.openElement e.tag) s () t) :
    Makes g.options.keywords (g.keywords start) t.session ∧
      t.frame.drafts =
        g.draftsAt start (.attributes ⟨e, path, before⟩) ++
          g.draftsAt start (.tagCode ⟨e, path, before⟩) := by
  have hentered := openElement_entered rfl rfl hat h
  obtain ⟨hmakes, hcode⟩ := Walker.openElement_finds hs hat.line h
  refine ⟨hmakes, ?_⟩
  -- The messages of markup come before those of code.
  have hsplit : t.frame.drafts = ofMarkup t.frame.drafts ++ ofCode t.frame.drafts := by
    obtain ⟨session, found, hfound, rfl⟩ := Walker.openElement_reaches h
    have hmarkup {ms : List Message} {d : Draft} (hd : d ∈ ms.map (⟨.attribute, ·, false⟩)) :
        d.origin = .attribute := by
      obtain ⟨m, -, rfl⟩ := List.mem_map.mp hd
      rfl
    rw [ofMarkup_append, ofCode_append, ofMarkup_of_code hfound, List.append_nil]
    unfold ofMarkup ofCode
    rw [List.filter_eq_self.mpr fun d hd => by simp [hmarkup hd],
      List.filter_eq_nil_iff.mpr fun d hd => by simp [hmarkup hd],
      List.filter_eq_self.mpr fun d hd => by simp [hfound d hd]]
    rfl
  have hmessages : (e.tag.codeSites g.engine before).flatMap
      (g.codeMessages (g.keywords start) (g.outset start).line) =
        g.codeMessagesAt start (.tagCode ⟨e, path, before⟩) := by
    rw [Walker.flatMap_tagSites, ← List.flatMap_assoc]
    rfl
  rw [hsplit, hentered.drafts, hcode, hmessages]
  rfl

/-- When an element is left, what has been found in it moves to the element around it, and the
message for its content comes last. -/
theorem element_surveys {stop : Option Tag} (hat : (g.outset start).At path before s)
    (hentered : Entered (g.outset start) e path before s t)
    (hopened : t.frame.drafts =
      g.draftsAt start (.attributes ⟨e, path, before⟩) ++
        g.draftsAt start (.tagCode ⟨e, path, before⟩))
    (hgrows : Grows ((g.outset start).sentence? (e :: path))
      (.ofNodes (g.outset start) (e :: path) (before ++ e.tag.written) e.children) t u)
    (hinside : Surveys g start ((g.outset start).sentence? (e :: path)) places t u)
    (hclose : Reaches (g.closeElement stop) u () s') :
    Surveys g start ((g.outset start).sentence? path)
      (Place.ofElement ⟨e, path, before⟩ places) s s' := by
  have hfilled := hentered.filled hgrows
  obtain ⟨found, hfound, hdrafts⟩ := hinside.frame
  have hfinished : u.frame.finished =
      ([Place.attributes ⟨e, path, before⟩, Place.tagCode ⟨e, path, before⟩] ++ places).flatMap
        (g.draftsAt start) := by
    rw [Frame.finished_eq, hfilled.map_fullText, hdrafts, hopened, List.map_append, hfound,
      List.flatMap_append]
    congr 1
    have htold := g.finishIn_draftsAt start ((g.outset start).sentence? (e :: path))
      [.attributes ⟨e, path, before⟩, .tagCode ⟨e, path, before⟩]
    simpa using htold
  have hmarked : (s.frame.marked e).passage.isSome = ((g.outset start).sentence? path).isSome :=
    Option.isSome_map.trans hat.passage
  have hleaving :=
    Outset.passageDraft?_eq (g := g) (o := g.outset start) rfl hfilled.scope hfilled.passage
  have hclosed := Walker.closeElement_reaches (hgrows.outer.trans hentered.outer) hclose
  refine ⟨?_, u.frame.finished ++
    (g.passageDraft? u.frame (s.frame.marked e).passage.isSome).toList, ?_, ?_⟩
  · rw [hclosed]
    exact hinside.makes
  · have hlast (ps : List Place) (p : Place) : (ps ++ [p]).flatMap (g.draftsAt start) =
        ps.flatMap (g.draftsAt start) ++ g.draftsAt start p := by
      rw [List.flatMap_append, List.flatMap_singleton]
    rw [List.map_append, hfinished, g.finishIn_draftsAt, hmarked, hleaving, Place.ofElement, hlast]
    rfl
  · rw [hclosed]
    exact List.append_assoc ..

theorem addText_surveys {text : String} (hat : (g.outset start).At path before s)
    (hs : Makes g.options.keywords (g.keywords start) s.session)
    (h : Reaches (g.addText text) s () s') :
    Surveys g start sentence [.textCode path before text] s s' := by
  have hfinds := Walker.addText_finds hs h
  obtain ⟨found, hcode, hdrafts⟩ := hfinds.frame
  refine ⟨hfinds.makes, found, ?_, hdrafts⟩
  -- All that a text gives is code.
  have hall : ofCode found = found := by
    obtain ⟨session, others, hothers, rfl⟩ := Walker.addText_reaches h
    have hsame : found = others := (List.append_cancel_left hdrafts).symm
    rw [hsame]
    exact List.filter_eq_self.mpr fun d hd => by simp [hothers d hd]
  have hmessages : found = g.draftsAt start (.textCode path before text) := by
    rw [← hall, hcode, hat.line, hat.scope, ← List.flatMap_assoc]
    rfl
  have htold := g.finishIn_draftsAt start sentence [.textCode path before text]
  rw [List.flatMap_singleton] at htold ⊢
  rw [hmessages, htold]

mutual

theorem visit_surveys (node : Node) {path : List Element} {before : List Char} {s s' : WalkState}
    (hat : (g.outset start).At path before s)
    (hs : Makes g.options.keywords (g.keywords start) s.session)
    (h : Reaches (g.visit node) s () s') :
    Surveys g start ((g.outset start).sentence? path) (node.places path before) s s' := by
  match node with
  | .element first stop children =>
    rw [Walker.visit] at h
    obtain ⟨_, t, hopen, h⟩ := reaches_bind h
    obtain ⟨_, u, hinside, hclose⟩ := reaches_bind h
    have hentered : Entered (g.outset start) ⟨first, children⟩ path before s t :=
      openElement_entered rfl rfl hat hopen
    obtain ⟨hmakes, hopened⟩ := openElement_surveys (e := ⟨first, children⟩) hat hs hopen
    rw [Node.places]
    exact element_surveys hat hentered hopened
      (visitAll_grows rfl rfl children hentered.inside hinside)
      (visitAll_surveys children hentered.inside hmakes hinside) hclose
  | .startTag tag =>
    rw [Walker.visit] at h
    obtain ⟨_, t, hopen, hclose⟩ := reaches_bind h
    have hentered : Entered (g.outset start) ⟨tag, []⟩ path before s t :=
      openElement_entered rfl rfl hat hopen
    obtain ⟨hmakes, hopened⟩ := openElement_surveys (e := ⟨tag, []⟩) hat hs hopen
    have hnothing : Grows ((g.outset start).sentence? (⟨tag, []⟩ :: path))
        (.ofNodes (g.outset start) (⟨tag, []⟩ :: path) (before ++ tag.written) []) t t := by
      rw [Yield.ofNodes_nil]
      exact .of_line (Int.add_zero _).symm rfl rfl
    rw [Node.places]
    exact element_surveys hat hentered hopened hnothing (.nothing hmakes rfl) hclose
  | .text text =>
    rw [Walker.visit] at h
    exact addText_surveys hat hs h
  | .comment text | .characterData text | .instruction text =>
    rw [Walker.visit] at h
    rw [reaches_modify h]
    exact .nothing hs rfl
  | .declaration text =>
    rw [Walker.visit] at h
    have hmakes := (Walker.addDeclaration_finds hs h).makes
    obtain ⟨session, rfl⟩ := Walker.addDeclaration_reaches h
    exact .nothing hmakes rfl
  | .unknown kind =>
    rw [Walker.visit] at h
    have hmakes := (Walker.warn_finds hs h).makes
    obtain ⟨session, rfl⟩ := reaches_job h
    exact .nothing hmakes rfl

theorem visitAll_surveys (nodes : List Node) {path : List Element} {before : List Char}
    {s s' : WalkState} (hat : (g.outset start).At path before s)
    (hs : Makes g.options.keywords (g.keywords start) s.session)
    (h : Reaches (g.visitAll nodes) s () s') :
    Surveys g start ((g.outset start).sentence? path) (Node.allPlaces path before nodes) s s' := by
  match nodes with
  | [] =>
    rw [Walker.visitAll] at h
    rw [reaches_pure h]
    exact .nothing hs rfl
  | node :: rest =>
    rw [Walker.visitAll] at h
    obtain ⟨_, t, hnode, hrest⟩ := reaches_bind h
    have hst := visit_surveys node hat hs hnode
    have hinside := hat.grow (visit_grows rfl rfl node hat hnode)
    exact hst.append (visitAll_surveys rest hinside hst.makes hrest)

end

/-! ## Success -/

theorem forall_mem_ofElement {spot : Spot} {inside : List Place} :
    (∀ p ∈ Place.ofElement spot inside, g.ReadsAt start p) ↔
      g.ReadsAt start (.tagCode spot) ∧ ∀ p ∈ inside, g.ReadsAt start p := by
  unfold Place.ofElement
  -- Attributes and contents hold no code.
  have hattributes : g.ReadsAt start (.attributes spot) := trivial
  have hcontent : g.ReadsAt start (.content spot) := trivial
  simp [hattributes, hcontent, or_imp, forall_and]

/-- Whether an element can be opened depends on its place only, not on the walk that has come there.
-/
theorem openElement_succeeds_at_iff (hat : (g.outset start).At path before s)
    (hs : Makes g.options.keywords (g.keywords start) s.session) :
    Succeeds (g.openElement e.tag) s ↔ g.ReadsAt start (.tagCode ⟨e, path, before⟩) := by
  have hline : s.line + e.tag.nameFeeds = start.line + feeds (before ++ e.tag.lead) := by
    rw [hat.line, feeds_append, Int.natCast_add, ← Int.add_assoc]
    rfl
  rw [Walker.openElement_succeeds_iff hs, hline]
  rfl

mutual

/-- A walk through a node succeeds just if the code at all its places can be read. -/
theorem visit_succeeds_iff (node : Node) {path : List Element} {before : List Char} {s : WalkState}
    (hat : (g.outset start).At path before s)
    (hs : Makes g.options.keywords (g.keywords start) s.session) :
    Succeeds (g.visit node) s ↔ ∀ p ∈ node.places path before, g.ReadsAt start p := by
  match node with
  | .element first stop children =>
    have hentered {t : WalkState} (hopen : Reaches (g.openElement first) s () t) :
        Entered (g.outset start) ⟨first, children⟩ path before s t :=
      openElement_entered rfl rfl hat hopen
    have hinside {t : WalkState} (hopen : Reaches (g.openElement first) s () t) :=
      visitAll_succeeds_iff children (hentered hopen).inside
        (openElement_surveys (e := ⟨first, children⟩) hat hs hopen).1
    have hopens := openElement_succeeds_at_iff (e := ⟨first, children⟩) hat hs
    rw [Walker.visit, succeeds_bind_iff, Node.places, forall_mem_ofElement]
    constructor
    · rintro ⟨t, hopen, hrest⟩
      obtain ⟨u, hall, -⟩ := succeeds_bind_iff.mp hrest
      exact ⟨hopens.mp ⟨t, hopen⟩, (hinside hopen).mp ⟨u, hall⟩⟩
    · rintro ⟨htag, hall⟩
      obtain ⟨t, hopen⟩ := hopens.mpr htag
      obtain ⟨u, hall⟩ := (hinside hopen).mpr hall
      exact ⟨t, hopen, succeeds_bind_iff.mpr ⟨u, hall, g.closeElement_succeeds stop u⟩⟩
  | .startTag tag =>
    have hopens := openElement_succeeds_at_iff (e := ⟨tag, []⟩) hat hs
    rw [Walker.visit, succeeds_bind_iff, Node.places, forall_mem_ofElement]
    constructor
    · rintro ⟨t, hopen, -⟩
      exact ⟨hopens.mp ⟨t, hopen⟩, nofun⟩
    · rintro ⟨htag, -⟩
      obtain ⟨t, hopen⟩ := hopens.mpr htag
      exact ⟨t, hopen, g.closeElement_succeeds none t⟩
  | .text text =>
    rw [Walker.visit, Walker.addText_succeeds_iff hs, hat.line, hat.scope, Node.places,
      List.forall_mem_singleton]
    rfl
  | .comment text | .characterData text | .instruction text =>
    rw [Walker.visit]
    exact iff_of_true ⟨_, rfl⟩ nofun
  | .declaration text =>
    rw [Walker.visit]
    exact iff_of_true (g.addDeclaration_succeeds text s) nofun
  | .unknown kind =>
    rw [Walker.visit]
    exact iff_of_true ⟨_, rfl⟩ nofun

/-- A walk through nodes succeeds if the code at each of their places can be read. -/
theorem visitAll_succeeds_iff (nodes : List Node) {path : List Element} {before : List Char}
    {s : WalkState} (hat : (g.outset start).At path before s)
    (hs : Makes g.options.keywords (g.keywords start) s.session) :
    Succeeds (g.visitAll nodes) s ↔ ∀ p ∈ Node.allPlaces path before nodes, g.ReadsAt start p := by
  match nodes with
  | [] =>
    rw [Walker.visitAll]
    exact iff_of_true ⟨s, rfl⟩ nofun
  | node :: rest =>
    have hnext {t : WalkState} (hnode : Reaches (g.visit node) s () t) :=
      visitAll_succeeds_iff rest (hat.grow (visit_grows rfl rfl node hat hnode))
        (visit_surveys node hat hs hnode).makes
    rw [Walker.visitAll, succeeds_bind_iff, Node.allPlaces, List.forall_mem_append,
      ← visit_succeeds_iff node hat hs]
    constructor
    · rintro ⟨t, hnode, hrest⟩
      exact ⟨⟨t, hnode⟩, (hnext hnode).mp hrest⟩
    · rintro ⟨⟨t, hnode⟩, hrest⟩
      exact ⟨t, hnode, (hnext hnode).mpr hrest⟩

end

/-! ## Choices from a list of places -/

theorem flatMap_eq_flatMap_iff {α β : Type} {f f' : α → List β} {xs : List α}
    (hlength : ∀ x ∈ xs, (f' x).length ≤ (f x).length) :
    xs.flatMap f = xs.flatMap f' ↔ ∀ x ∈ xs, f x = f' x := by
  refine ⟨fun h => ?_, List.flatMap_congr⟩
  induction xs with
  | nil => nofun
  | cons x xs ih =>
    obtain ⟨hx, hxs⟩ := List.forall_mem_cons.mp hlength
    have htail : (xs.flatMap f').length ≤ (xs.flatMap f).length := by
      clear ih h hlength hx
      induction xs with
      | nil => exact Nat.le_refl 0
      | cons y ys ih =>
        obtain ⟨hy, hys⟩ := List.forall_mem_cons.mp hxs
        have hrest := ih hys
        simp only [List.flatMap_cons, List.length_append]
        omega
    rw [List.flatMap_cons, List.flatMap_cons] at h
    -- Neither part of the second list is longer, so both are as long.
    have hsum := congrArg List.length h
    simp only [List.length_append] at hsum
    obtain ⟨hhead, hrest⟩ := List.append_inj h (by omega)
    exact List.forall_mem_cons.mpr ⟨hhead, ih hxs hrest⟩

theorem flatMap_filter {α β : Type} (keep : α → Bool) (f : α → List β) (xs : List α) :
    (xs.filter keep).flatMap f = xs.flatMap fun x => if keep x then f x else [] := by
  induction xs with
  | nil => rfl
  | cons x xs ih =>
    rw [List.flatMap_cons, ← ih]
    cases hx : keep x <;> simp [hx]

theorem flatMap_eq_flatMap_filter_iff {α β : Type} (keep : α → Bool)
    (f : α → List β) (xs : List α) :
    xs.flatMap f = (xs.filter keep).flatMap f ↔ ∀ x ∈ xs, ¬ keep x → f x = [] := by
  have hshorter (x) (_ : x ∈ xs) : (if keep x then f x else []).length ≤ (f x).length := by
    split
    · exact Nat.le_refl _
    · exact Nat.zero_le _
  rw [flatMap_filter, flatMap_eq_flatMap_iff hshorter]
  refine forall₂_congr fun x _ => ?_
  by_cases hx : keep x = true <;> simp [hx]

/-! ## Walks from their start -/

theorem Walker.includes_of_none (hall : g.options.domain = none) (given : Option String) :
    g.includes given = true := by
  unfold includes
  rw [hall]
  rfl

theorem Walker.asks_of_none (hall : g.options.domain = none) (path : List Element) :
    (g.outset start).asks path = true := includes_of_none hall _

theorem Walker.at_start (g : Walker) (start : WalkState) : (g.outset start).At [] [] start :=
  ⟨rfl, (Int.add_zero _).symm, Option.isSome_map.symm⟩

/-- A walk through a whole template succeeds just if it can read the code at all places, and then it
gives the messages of the places, in order. -/
theorem reaches_visitAll_iff {nodes : List Node} {session : Session} {ms : List Message} :
    (∃ s', Reaches (g.visitAll nodes) { session } () s' ∧ s'.messages = ms) ↔
      (∀ p ∈ Node.allPlaces [] [] nodes, g.ReadsAt { session } p) ∧
        (Node.allPlaces [] [] nodes).flatMap (g.messagesAt { session }) = ms := by
  have hat := g.at_start { session }
  have hmessages {s' : WalkState} (h : Reaches (g.visitAll nodes) { session } () s') :
      s'.messages = (Node.allPlaces [] [] nodes).flatMap (g.messagesAt { session }) := by
    have hgrows := visitAll_grows rfl rfl nodes hat h
    obtain ⟨_, -, -, hframe⟩ := hgrows.frame
    obtain ⟨found, hfound, hdrafts⟩ := (visitAll_surveys nodes hat rfl h).frame
    have hpassage : s'.frame.passage = none := by
      rw [hframe]
      rfl
    rw [WalkState.messages, drafts_of_outermost hgrows.outer hpassage, hdrafts,
      ← g.message_draftsAt, ← hfound]
    exact congrArg (List.map _) (List.map_id _).symm
  rw [← visitAll_succeeds_iff nodes hat rfl]
  constructor
  · rintro ⟨s', h, rfl⟩
    exact ⟨⟨s', h⟩, (hmessages h).symm⟩
  · rintro ⟨⟨s', h⟩, rfl⟩
    exact ⟨s', h, hmessages h⟩

end Harvest.Template
