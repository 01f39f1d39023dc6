import Harvest.Proofs.Template.Messages
import Harvest.Proofs.Template.Survey

/-!
# Comments for translators

What an element says to translators holds for the texts inside it, unless an element inside says
something else. The comment on a content starts with it, and the comment on an attribute is just it.
An attribute whose text has a name of its own has lost it: the comment on it tells the text and
nothing else.
-/

namespace Harvest.Template

open Text Walk

/-- What is said to translators in the innermost of some elements that says something. -/
def noteOf? (path : List Element) : Option String := path.findSome? (·.says? "comment")

/-- The entries for the attributes of an element that are to be translated. -/
def Element.entries (e : Element) : List (List Char) :=
  (e.says? "attributes").toList.flatMap fun entries => (entries.toList.splitOn ';').map trim

namespace Outset

variable {o : Outset} {spot : Spot} {note : String}

theorem present?_comment_scopeAt {path : List Element} (h : noteOf? path = some note) :
    present? (o.scopeAt path).comment = some note := by
  obtain ⟨e, -, hsays⟩ := List.exists_of_findSome?_eq_some h
  have hcomment : (o.scopeAt path).comment = some note := by
    unfold scopeAt
    rw [show path.findSome? (·.says? "comment") = some note from h]
    rfl
  rw [hcomment]
  exact Option.filter_eq_some_iff.mpr ⟨rfl, (Option.filter_eq_some_iff.mp hsays).2⟩

/-- The comment of a content starts with what the elements around it say to translators. -/
theorem prefix_comment_contentMessage (h : noteOf? spot.path = some note) (id : String) :
    note.toList <+: (o.contentMessage id spot).comment.toList := by
  have hlines : ∃ more, o.commentLines id spot = note :: more := by
    unfold commentLines
    rw [present?_comment_scopeAt h]
    exact ⟨_, rfl⟩
  -- The other lines follow it.
  obtain ⟨more, hmore⟩ := hlines
  unfold contentMessage
  rw [hmore, String.toList_intercalate, List.map_cons]
  exact ⟨_, (join_cons _ _ _).symm⟩

/-- The comment of an attribute is what the elements say, unless a name stands for its text: then it
is the text. -/
theorem comment_attributeMessage? (h : noteOf? spot.path = some note)
    {entry : List Char} {m : Message} (hm : o.attributeMessage? spot entry = some m) :
    if ' ' ∈ entry then
      ∃ name id earlier a, words entry = [name, id] ∧
        lastNamed? (String.ofList name) spot.element.tag.attributes = some (earlier, a) ∧
        m.text = some (String.ofList id) ∧ m.comment = "Default: " ++ a.value
    else m.comment = note := by
  unfold attributeMessage? at hm
  dsimp only at hm
  rw [List.contains_eq_mem] at hm
  -- A blank in an entry divides the name of the attribute from the name for its text.
  by_cases hblank : ' ' ∈ entry
  · simp only [hblank, decide_true, if_true] at hm ⊢
    split at hm
    · rename_i name id hwords
      obtain ⟨⟨earlier, a⟩, hnamed, rfl⟩ := Option.map_eq_some_iff.mp hm
      exact ⟨name, id, earlier, a, hwords, hnamed, rfl, rfl⟩
    · cases hm
  · simp only [hblank, decide_false, Bool.false_eq_true, if_false] at hm ⊢
    obtain ⟨⟨earlier, a⟩, -, rfl⟩ := Option.map_eq_some_iff.mp hm
    have hcomment := (Option.filter_eq_some_iff.mp (present?_comment_scopeAt h (o := o))).1
    change (o.scopeAt spot.path).comment.getD "" = note
    rw [hcomment]
    rfl

theorem mem_attributeMessages {m : Message} (hm : m ∈ o.attributeMessages spot) :
    ∃ entry ∈ spot.element.entries, o.attributeMessage? spot entry = some m := by
  unfold attributeMessages at hm
  split at hm
  · obtain ⟨entries, hentries, hm⟩ := List.mem_flatMap.mp hm
    obtain ⟨entry, hentry, hmessage⟩ := List.mem_filterMap.mp hm
    exact ⟨entry, List.mem_flatMap.mpr ⟨entries, hentries, hentry⟩, hmessage⟩
  · cases hm

end Outset

/-- Comments in a template: for every element for which something is said to translators, be it in
the element itself or around it, the comment on its content starts with that, and the comment on an
attribute is that. Only an attribute for whose text a name is given has a comment that tells the
text instead. -/
theorem visitAll_notes {g : Walker} {nodes : List Node} {session : Session} {s' : WalkState}
    (h : Reaches (g.visitAll nodes) { session } () s') :
    s'.messages = (Node.allPlaces [] [] nodes).flatMap (g.messagesAt { session }) ∧
    ∀ spot note, noteOf? spot.path = some note →
      (∀ m ∈ g.messagesAt { session } (.content spot), note.toList <+: m.comment.toList) ∧
      ∀ m ∈ g.messagesAt { session } (.attributes spot), ∃ entry ∈ spot.element.entries,
        if ' ' ∈ entry then
          ∃ name id earlier a, words entry = [name, id] ∧
            lastNamed? (String.ofList name) spot.element.tag.attributes = some (earlier, a) ∧
            m.text = some (String.ofList id) ∧ m.comment = "Default: " ++ a.value
        else m.comment = note := by
  refine ⟨(reaches_visitAll_iff.mp ⟨s', h, rfl⟩).2.symm, fun spot note hnote => ⟨?_, ?_⟩⟩
  · intro m hm
    obtain ⟨id, -, hoffered⟩ := Option.bind_eq_some_iff.mp (Option.mem_toList.mp hm)
    split at hoffered
    · cases hoffered
      exact Outset.prefix_comment_contentMessage hnote id
    · cases hoffered
  · intro m hm
    obtain ⟨entry, hentry, hmessage⟩ := Outset.mem_attributeMessages hm
    exact ⟨entry, hentry, Outset.comment_attributeMessage? hnote hmessage⟩

def captioned : Element :=
  ⟨{ name := "img"
     suffix := some ">"
     attributes := [⟨" ", "alt", "=", "\"", "one"⟩, ⟨" ", "title", "=", "\"", "two"⟩]
     qualified := [(⟨.internationalization, "translate"⟩, "t"),
       (⟨.internationalization, "attributes"⟩, "alt; title u")] },
    [.text "three"]⟩

def captions : Element :=
  ⟨.ofStatements "div" [("domain", "d"), ("comment", "note")],
    [.element captioned.tag none captioned.children]⟩

theorem visitAll_notes_captions :
    ∃ s', Reaches
      (Walker.visitAll { engine := "python" } [.element captions.tag none captions.children]) {}
      () s' ∧
      s'.messages = [{ text := some "one", comment := "note", location := ⟨"f", 1⟩ },
        { text := some "u", comment := "Default: two", location := ⟨"f", 1⟩ },
        { text := some "t", comment := "note\nDefault: three", location := ⟨"f", 1⟩ }] ∧
      noteOf? [captioned, captions] = some "note" ∧
      ∀ m ∈ Walker.messagesAt { engine := "python" } {} (.content ⟨captioned, [captions], []⟩),
        "note".toList <+: m.comment.toList := by
  have hrun : ((ExceptT.run (Walker.visitAll { engine := "python" }
      [.element captions.tag none captions.children])).run {}).1 = .ok () := by
    decide +kernel
  have hnote : noteOf? [captioned, captions] = some "note" := by decide +kernel
  obtain ⟨hmessages, hnotes⟩ := visitAll_notes (Prod.ext hrun rfl)
  exact ⟨_, Prod.ext hrun rfl, hmessages.trans (by decide +kernel), hnote,
    (hnotes ⟨captioned, [captions], []⟩ "note" hnote).1⟩

/-- The start of an element with a comment of its own, and one attribute to translate for whose text
a name is given. -/
def labelled : Tag :=
  { name := "p"
    suffix := some ">"
    attributes := [⟨" ", "title", "=", "\"", "Hello"⟩]
    qualified :=
      [(⟨.internationalization, "domain"⟩, "d"), (⟨.internationalization, "comment"⟩, "note"),
      (⟨.internationalization, "attributes"⟩, "title t_id")] }

/-- What is said to translators is lost where a name is given for the text of an attribute. -/
theorem visitAll_lost_note :
    noteOf? [⟨labelled, []⟩] = some "note" ∧
    ((ExceptT.run (Walker.visitAll { engine := "python" } [.startTag labelled])).run {}).1 =
      .ok () ∧
    ((ExceptT.run
      (Walker.visitAll { engine := "python" } [.startTag labelled])).run {}).2.messages =
      [{ text := some "t_id", comment := "Default: Hello", location := ⟨"f", 1⟩ }] ∧
    ¬"note".toList <:+: "Default: Hello".toList := by
  decide +kernel

end Harvest.Template
