import Harvest.Zcml

/-!
# The domains of configuration elements

A configuration is read as a sequence of events, while a stack holds the domains of the open
elements. Here elements are trees, and the domain of an element is the one that the nearest of the
elements around it names, itself first. The stack rises and falls in step with the tree: it is the
same after an element as before it, and the messages of the element are those of all sites in it,
each in its own domain.
-/

namespace Harvest.Zcml

open Xml

abbrev Attributes := List (String × String)

/-- An element with its attributes, the line on which it starts, and the elements inside it. -/
inductive Element where
  | node (name : String) (attributes : Attributes) (line : Nat) (children : List Element)

mutual

def Element.events : Element → List Event
  | .node name attributes line children =>
      .start name attributes line :: (Element.eventsOf children ++ [.stop name])

def Element.eventsOf : List Element → List Event
  | [] => []
  | e :: es => e.events ++ Element.eventsOf es

end

/-- Where an element stands: `around` has the attributes of the elements around it, from the inside
out. -/
structure Site where
  attributes : Attributes
  around : List Attributes
  line : Nat

mutual

def Element.sites (around : List Attributes) : Element → List Site
  | .node _ attributes line children =>
      ⟨attributes, around, line⟩ :: Element.sitesOf (attributes :: around) children

def Element.sitesOf (around : List Attributes) : List Element → List Site
  | [] => []
  | e :: es => e.sites around ++ Element.sitesOf around es

end

/-- The domain that the nearest of these elements names, if any of them names one. -/
def nearestDomain? (path : List Attributes) : Option String :=
  path.findSome? (·.lookup "i18n_domain")

/-- One message for each title and description, if the element has a domain and that is
asked for. -/
def Site.messages (options : Options) (file : String) (s : Site) : List Message :=
  match nearestDomain? (s.attributes :: s.around) with
  | none => []
  | some domain =>
      if options.domain = none ∨ options.domain = some domain then
        (s.attributes.filter fun a => a.1 = "title" ∨ a.1 = "description").map fun a =>
          { text := some a.2, location := ⟨file, s.line⟩ }
      else []

/-! ## The stack of domains -/

theorem tail_enter (domains : List String) (attributes : Attributes) :
    (enter domains attributes).tail = domains := by
  unfold enter
  cases attributes.lookup "i18n_domain" with
  | some domain => rfl
  | none =>
    cases domains with
    | nil => rfl
    | cons domain outer => rfl

theorem head?_enter {domains : List String} {around : List Attributes}
    (h : domains.head? = nearestDomain? around) (attributes : Attributes) :
    (enter domains attributes).head? = nearestDomain? (attributes :: around) := by
  unfold enter nearestDomain?
  rw [List.findSome?_cons]
  cases attributes.lookup "i18n_domain" with
  | some domain => rfl
  | none =>
    change _ = nearestDomain? around
    rw [← h]
    cases domains with
    | nil => rfl
    | cons domain outer => rfl

/-- Of the attributes of an element, only titles and descriptions give messages. -/
theorem elementMessages_eq (file : String) (line : Nat) (attributes : Attributes) :
    elementMessages file line attributes =
      (attributes.filter fun a => a.1 = "title" ∨ a.1 = "description").map fun a =>
        { text := some a.2, location := ⟨file, line⟩ } := by
  have hname : (fun a : String × String => isMessageName a.1) =
      fun a => decide (a.1 = "title" ∨ a.1 = "description") := by
    funext a
    simp [isMessageName, Bool.beq_eq_decide_eq]
  unfold elementMessages
  rw [hname]

variable (options : Options) (file : String)

theorem includes_iff (domain : String) :
    includes options domain = true ↔ options.domain = none ∨ options.domain = some domain := by
  simp [includes]

theorem step_start {s : State} {around : List Attributes}
    (h : s.domains.head? = nearestDomain? around)
    (name : String) (attributes : Attributes) (line : Nat) :
    s.step options file (.start name attributes line) =
      { domains := enter s.domains attributes
        messages := s.messages ++ Site.messages options file ⟨attributes, around, line⟩ } := by
  have htop := head?_enter h attributes
  unfold State.step Site.messages
  dsimp only
  rw [← htop]
  cases hdomains : enter s.domains attributes with
  | nil =>
    -- No domain is known, so the stack was empty before as well.
    have hempty : s.domains =
      [] := by rw [← tail_enter s.domains attributes, hdomains, List.tail_nil]
    rw [List.head?_nil]
    change s = { domains := [], messages := s.messages ++ [] }
    rw [List.append_nil, ← hempty]
  | cons domain outer =>
    rw [List.head?_cons]
    dsimp only
    by_cases hasked : options.domain = none ∨ options.domain = some domain
    · rw [if_pos hasked, if_pos ((includes_iff options domain).mpr hasked), elementMessages_eq]
    · rw [if_neg hasked, if_neg (fun h => hasked ((includes_iff options domain).mp h)),
        List.append_nil]

/-! ## Whole elements -/

theorem run_append (s : State) (first second : List Event) :
    s.run options file (first ++ second) = (s.run options file first).run options file second :=
  List.foldl_append

mutual

/-- An element adds the messages of its sites and leaves the stack as it was. -/
theorem run_element (e : Element) (s : State) (around : List Attributes)
    (h : s.domains.head? = nearestDomain? around) :
    s.run options file e.events =
      { s with
        messages := s.messages ++ (e.sites around).flatMap (Site.messages options file) } := by
  match e with
  | .node name attributes line children =>
    -- The children see the stack with the element's own domain on top.
    have hinside := run_elements children
      { domains := enter s.domains attributes
        messages := s.messages ++ Site.messages options file ⟨attributes, around, line⟩ }
      (attributes :: around) (head?_enter h attributes)
    have hstart := step_start options file h name attributes line
    rw [Element.events, Element.sites, List.flatMap_cons, ← List.append_assoc]
    change ((s.step options file (.start name attributes line)).run options file
      (Element.eventsOf children ++ [.stop name])) = _
    rw [hstart, run_append, hinside]
    change ({ domains := (enter s.domains attributes).tail, messages := _ } : State) = _
    rw [tail_enter]

theorem run_elements (es : List Element) (s : State) (around : List Attributes)
    (h : s.domains.head? = nearestDomain? around) :
    s.run options file (Element.eventsOf es) =
      { s with
        messages := s.messages ++
          (Element.sitesOf around es).flatMap (Site.messages options file) } := by
  match es with
  | [] =>
    rw [Element.eventsOf, Element.sitesOf, List.flatMap_nil, List.append_nil]
    rfl
  | e :: es =>
    rw [Element.eventsOf, Element.sitesOf, run_append, run_element e s around h,
      List.flatMap_append,
      ← List.append_assoc]
    exact run_elements es _ around h

end

/-- The events of an element, from an empty stack on, leave the stack empty and give the messages of
all sites in document order, and no others. -/
theorem run_events (e : Element) :
    State.run options file {} e.events =
      { domains := [], messages := (e.sites []).flatMap (Site.messages options file) } :=
  run_element options file e {} [] rfl

/-- Two domains, one inside the other, and an element outside of both. -/
example : State.run { domain := some "b" } "f" {} (Element.node "configure" [("title", "outside")] 1
    [.node "view" [("i18n_domain", "a"), ("title", "first")] 2
      [.node "page" [("description", "second"), ("i18n_domain", "b")] 3 [],
        .node "page" [("title", "third")] 4 []]]).events =
    { domains := [], messages := [{ text := some "second", location := ⟨"f", 3⟩ }] } := by
  decide

end Harvest.Zcml
