import Harvest.Proofs.Announcing
import Harvest.Proofs.History
import Harvest.Proofs.Template.Domains

/-!
# Announced ends

A line that announces the end of the program is its last: nothing is given after it. There is one
exception, an attribute that repeats an element with more than one variable, where the walk through
a template goes on. Besides, the name of a file, with which warnings start, may look like an
announcement.
-/

namespace Harvest

open Text

variable {excuses : Excuses} {file : String}

/-! ## Sources -/

theorem newline_notMem_toString (n : Int) : '\n' ∉ (toString n).toList := fun h =>
  absurd (mem_toString_int h) (by decide)

theorem announces_warning {fault : PickFault} {firstLine : Int} {line : String}
    (h : fault.warning? file firstLine = some line) :
    announces line.toList = announces file.toList := by
  cases fault with
  | wrongCount | absent => cases h
  | notText part row =>
    have hline : line.toList =
        file.toList ++
          '[' :: ((toString (firstLine + row)).toList ++ "]: ".toList ++
              part.complaint.toList) := by
      rw [← Option.some.inj h]
      change (file ++ "[" ++ toString (firstLine + row) ++ "]: " ++ part.complaint).toList = _
      simp only [String.toList_append, List.append_assoc]
      rfl
    have hcomplaint : '\n' ∉ part.complaint.toList := by cases part <;> decide
    have hrest : '\n' ∉
        '[' :: ((toString (firstLine + row)).toList ++ "]: ".toList ++ part.complaint.toList) := by
      rw [List.mem_cons, List.mem_append, List.mem_append]
      rintro (h | (h | h) | h)
      · exact absurd h (by decide)
      · exact newline_notMem_toString _ h
      · exact absurd h (by decide)
      · exact hcomplaint h
    rw [hline, announces_append (by decide) hrest]

namespace Source.Reader

variable {g : Reading} {r r' : Reader} {t : Token} {line : String}

theorem exists_fault_of_refusal {c : OpenCall} {firstLine : Int} {lines : List String}
    (h : c.refusal file firstLine = .ok lines) (hline : line ∈ lines) :
    ∃ fault : PickFault, fault.warning? file firstLine = some line := by
  unfold OpenCall.refusal at h
  split at h
  · split at h
    · cases h
      cases hline
    · rename_i fault _
      cases h
      exact ⟨fault, Option.mem_toList.mp hline⟩
  · split at h
    · cases h
    · cases h
      cases hline

theorem mem_warnings_step (h : r.step g t = .ok r') (hline : line ∈ r'.warnings) :
    line ∈ r.warnings ∨ ∃ fault : PickFault, fault.warning? g.file g.firstLine = some line := by
  rcases token_cases r.phase t with ⟨hkind, hheeds⟩ | ⟨c, parts, hended, hparts⟩ |
    ⟨c, hended, hparts⟩ | ⟨hcomment, hended⟩
  · rw [step_of_comment hkind hheeds] at h
    cases h
    rw [(bare_comment _ _ _).2] at hline
    exact .inl hline
  · rw [step_of_ended hended, closeCall_of_parts? hparts] at h
    rcases addMessage_cases h with ⟨-, rfl⟩ | ⟨m, -, -, rfl⟩ <;> exact .inl hline
  · rw [step_of_ended hended, closeCall_of_refusal hparts] at h
    obtain ⟨lines, hlines, rfl⟩ := exists_of_map_eq_ok h
    rcases List.mem_append.mp hline with hline | hline
    · exact .inl hline
    · exact .inr (exists_fault_of_refusal hlines hline)
  · obtain ⟨next, hnext⟩ := exists_moves_step g.keywords hcomment hended
    rw [hnext.eq g r rfl rfl] at h
    obtain ⟨p', -, rfl⟩ := exists_of_map_eq_ok h
    exact .inl hline

theorem mem_warnings_run {ts : List Token} (hline : line ∈ (r.run g ts).1.warnings) :
    line ∈ r.warnings ∨ ∃ fault : PickFault, fault.warning? g.file g.firstLine = some line := by
  induction ts generalizing r with
  | nil => exact .inl hline
  | cons t ts ih =>
    rw [run] at hline
    split at hline
    · rename_i hstep
      rcases ih hline with hline | hfault
      · exact mem_warnings_step hstep hline
      · exact .inr hfault
    · exact .inl hline

end Source.Reader

namespace Source

theorem tells_readFailure {α : Type} {sure : Bool} (file : String) (firstLine : Int)
    (fault : ReadFault) :
    Tells Session.printed excuses sure (readFailure file firstLine fault : Job α) := by
  cases fault with
  | unexpected what row => exact Job.tells_abort _
  | failure cause => exact .throw cause

theorem tells_scanFailure {α : Type} {sure : Bool} (file : String) (firstLine : Int)
    (fault : ScanFault) :
    Tells Session.printed excuses sure (scanFailure file firstLine fault : Job α) := by
  cases fault with
  | openString | openStatement => exact Job.tells_abort _
  | badDedent | undecodable => exact .throw _

theorem tells_extract (hfile : announces file.toList = true → excuses.err) (options : Options)
    (firstLine : Int) (lines : List Line) :
    Tells Session.printed excuses false (extract options file firstLine lines) := by
  refine .bind_right (Job.tells_addKeywords _) fun _ => .get_bind fun s => ?_
  refine .bind_right (Job.tells_warnings fun line hline hannounces => ?_) fun _ => ?_
  · rcases Reader.mem_warnings_run hline with hnone | ⟨fault, hfault⟩
    · cases hnone
    · rw [announces_warning hfault] at hannounces
      exact hfile hannounces
  · split
    · exact tells_readFailure _ _ _
    · exact tells_scanFailure _ _ _
    · exact .pure _

end Source

/-! ## Configurations and plugins -/

theorem Zcml.tells_extract (options : Options) (file : String) (bytes : List UInt8) :
    Tells Session.printed excuses false (Zcml.extract options file bytes) := by
  unfold Zcml.extract
  split
  · exact .pure _
  · exact Job.tells_abort _
  · exact .throw _
  · exact .throw _

namespace Plugin

theorem exists_fault_of_parts {g : Adapter} {call : Found} {failure : Failure}
    {warning : Option String}
    {line : String} (h : g.parts call = .error (failure, warning)) (hline : warning = some line) :
    ∃ fault : PickFault, ∃ firstLine, fault.warning? g.file firstLine = some line := by
  unfold Adapter.parts at h
  split at h
  · split at h
    · cases h
    · rename_i fault _
      cases h
      exact ⟨fault, _, hline⟩
  · split at h
    · cases h
      cases hline
    · cases h

theorem mem_warnings_harvest {g : Adapter} {found : List Found} {line : String}
    (hline : line ∈ (g.harvest found).warnings) :
    ∃ fault : PickFault, ∃ firstLine, fault.warning? g.file firstLine = some line := by
  induction found with
  | nil => cases hline
  | cons call calls ih =>
    unfold Adapter.harvest at hline
    split at hline
    · rename_i failure warning hparts
      exact exists_fault_of_parts hparts (Option.mem_toList.mp hline)
    · split at hline
      · cases hline
      · exact ih hline
      · split at hline
        · cases hline
        · exact ih hline

theorem tells_run (hfile : announces file.toList = true → excuses.err) (program : Plugin)
    (domain : DomainChoice) (settings : Bindings) (options : Options) (firstLine : Int)
    (content : List UInt8) :
    Tells Session.printed excuses false
      (program.run domain settings options file firstLine content) := by
  refine .get_bind fun s => ?_
  split
  split
  · exact Job.tells_abort _
  · refine .bind_right (Job.tells_warnings fun line hline hannounces => ?_) fun _ => .pure _
    obtain ⟨fault, firstLine, hfault⟩ := mem_warnings_harvest hline
    rw [announces_warning hfault] at hannounces
    exact hfile hannounces

end Plugin

/-! ## Templates -/

namespace Template

inductive Node.Known : Node → Prop
  | element {start : Tag} {stop : Option Tag} {children : List Node}
      (children_known : ∀ node ∈ children, node.Known) : Node.Known (.element start stop children)
  | startTag (tag : Tag) : Node.Known (.startTag tag)
  | text (s : String) : Node.Known (.text s)
  | comment (s : String) : Node.Known (.comment s)
  | characterData (s : String) : Node.Known (.characterData s)
  | instruction (s : String) : Node.Known (.instruction s)
  | declaration (s : String) : Node.Known (.declaration s)

structure Builder.Known (b : Builder) : Prop where
  opened : ∀ top ∈ b.opened, ∀ node ∈ top.nodes, node.Known
  nodes : ∀ node ∈ b.nodes, node.Known

theorem Builder.Known.add {b : Builder} (h : b.Known) {node : Node} (hnode : node.Known) :
    (b.add node).Known := by
  unfold Builder.add
  split
  · exact ⟨h.opened, List.forall_mem_cons.mpr ⟨hnode, h.nodes⟩⟩
  · rename_i top outer hopened
    have hopen := h.opened
    rw [hopened] at hopen
    obtain ⟨htop, houter⟩ := List.forall_mem_cons.mp hopen
    exact ⟨List.forall_mem_cons.mpr ⟨List.forall_mem_cons.mpr ⟨hnode, htop⟩, houter⟩, h.nodes⟩

theorem OpenTag.known_leaves {top : OpenTag} (h : ∀ node ∈ top.nodes, node.Known) :
    ∀ node ∈ top.leaves, node.Known :=
  List.forall_mem_append.mpr ⟨h, List.forall_mem_singleton.mpr (.startTag _)⟩

theorem known_closeTag? {name : String} {inner children : List Node} {opened outer : List OpenTag}
    {tag : Tag} (hinner : ∀ node ∈ inner, node.Known)
    (hopened : ∀ top ∈ opened, ∀ node ∈ top.nodes, node.Known)
    (h : closeTag? name inner opened = some (children, tag, outer)) :
    (∀ node ∈ children, node.Known) ∧ ∀ top ∈ outer, ∀ node ∈ top.nodes, node.Known := by
  induction opened generalizing inner with
  | nil => cases h
  | cons top rest ih =>
    obtain ⟨htop, hrest⟩ := List.forall_mem_cons.mp hopened
    unfold closeTag? at h
    split at h
    · cases h
      exact ⟨List.forall_mem_append.mpr ⟨hinner, htop⟩, hrest⟩
    · exact ih (List.forall_mem_append.mpr ⟨hinner, OpenTag.known_leaves htop⟩) hrest h

theorem known_declarationNode {s : List Char} {node : Node} (h : declarationNode s = .ok node) :
    node.Known := by
  unfold declarationNode at h
  dsimp only at h
  split at h
  · split at h
    · cases h
    · cases h
      exact .comment _
  · split at h
    · cases h
      exact .characterData _
    · split at h
      · cases h
        cases instructionText? s with
        | none => exact .declaration _
        | some t => exact .instruction _
      · cases h
        exact .declaration _

theorem Builder.Known.addEmpty {b b' : Builder} (h : b.Known) {s : List Char}
    (hstep : b.addEmpty s = .ok b') : b'.Known := by
  obtain ⟨⟨tag, known⟩, -, hadded⟩ := Except.bind_eq_ok hstep
  cases hadded
  exact h.add (.element nofun)

theorem Builder.Known.open {b b' : Builder} (h : b.Known) {s : List Char}
    (hstep : b.open s = .ok b') : b'.Known := by
  obtain ⟨⟨tag, known⟩, -, hadded⟩ := Except.bind_eq_ok hstep
  cases hadded
  exact ⟨List.forall_mem_cons.mpr ⟨nofun, h.opened⟩, h.nodes⟩

theorem Builder.Known.close {b b' : Builder} (h : b.Known) {s : List Char}
    (hstep : b.close s = .ok b') : b'.Known := by
  obtain ⟨⟨stop, known⟩, -, hclosed⟩ := Except.bind_eq_ok hstep
  dsimp only at hclosed
  split at hclosed
  · cases hclosed
  · rename_i children start outer hfound
    obtain ⟨hchildren, houter⟩ := known_closeTag? (List.forall_mem_nil _) h.opened hfound
    have hrest : Builder.Known { b with opened := outer, prefixes := b.prefixes.drop 1 } :=
      ⟨houter, h.nodes⟩
    cases hclosed
    exact hrest.add (.element fun node hnode => hchildren node (List.mem_reverse.mp hnode))

theorem Builder.Known.step {b b' : Builder} (h : b.Known) {s : List Char}
    (hstep : b.step s = .ok b') :
    b'.Known := by
  have hdeclaration (hdeclared : (do return b.add (← declarationNode s) : Except Failure Builder) =
    .ok b') :
      b'.Known := by
    obtain ⟨node, hnode, hadded⟩ := Except.bind_eq_ok hdeclared
    cases hadded
    exact h.add (known_declarationNode hnode)
  unfold Builder.step at hstep
  split at hstep
  · split at hstep
    · exact h.addEmpty hstep
    · split at hstep
      · exact hdeclaration hstep
      · exact hdeclaration hstep
      · exact h.close hstep
      · split at hstep
        · exact h.addEmpty hstep
        · split at hstep
          · exact h.open hstep
          · cases hstep
            exact h.add (.declaration _)
  · cases hstep
    exact h.add (.text _)

/-- Only nodes of known kinds are built of pieces. -/
theorem Builder.Known.foldlM {pieces : List (List Char)} {b b' : Builder} (h : b.Known)
    (hsteps : pieces.foldlM Builder.step b = .ok b') : b'.Known := by
  induction pieces generalizing b with
  | nil =>
    cases hsteps
    exact h
  | cons piece pieces ih =>
    obtain ⟨next, hstep, hrest⟩ := Except.bind_eq_ok hsteps
    exact ih (h.step hstep) hrest

theorem known_parse {s : List Char} {nodes : List Node} (h : Node.parse s = .ok nodes) :
    ∀ node ∈ nodes, node.Known := by
  obtain ⟨b, hsteps, hfinished⟩ := Except.bind_eq_ok h
  cases hfinished
  have hstart : Builder.Known {} := ⟨List.forall_mem_nil _, List.forall_mem_nil _⟩
  have hb : b.Known := hstart.foldlM hsteps
  intro node hnode
  rcases List.mem_append.mp (List.mem_reverse.mp hnode) with hnode | hnode
  · obtain ⟨top, htop, hnode⟩ := List.mem_flatMap.mp hnode
    exact OpenTag.known_leaves (hb.opened top htop) node hnode
  · exact hb.nodes node hnode

/-! ## Repeated elements -/

def definesSeveral (value : List Char) : Bool := (definitions value).toOption.any (1 < ·.length)

/-- Does an attribute repeat its element with more than one variable? -/
def repeatsSeveral (name : QualifiedName) (value : List Char) : Bool :=
  name.space == .statements && name.name == "repeat" && definesSeveral value

def Tag.repeatsSeveral (tag : Tag) : Bool :=
  tag.qualified.any fun entry =>
    (decodeReferences entry.2.toList).toOption.any (Template.repeatsSeveral entry.1)

mutual

def Node.repeatsSeveral : Node → Bool
  | .element start _ children => start.repeatsSeveral || Node.anyRepeatsSeveral children
  | .startTag tag => tag.repeatsSeveral
  | _ => false

def Node.anyRepeatsSeveral : List Node → Bool
  | [] => false
  | node :: rest => node.repeatsSeveral || Node.anyRepeatsSeveral rest

end

theorem definitionParts_ne_nil (s : List Char) : definitionParts s ≠ [] := by
  unfold definitionParts
  dsimp only
  split
  · rename_i hlong
    rw [Bool.and_eq_true, decide_eq_true_eq] at hlong
    rw [← List.length_pos_iff, List.length_dropLast]
    omega
  · rw [Ne, List.map_eq_nil_iff]
    exact List.splitOn_ne_nil _ _

theorem length_definitions_pos {s : List Char} {defined : List (List Char)}
    (h : definitions s = .ok defined) : 0 < defined.length := by
  rw [length_of_mapM_eq_ok h, List.length_pos_iff]
  exact definitionParts_ne_nil s

theorem complaint_ofCodes (codes : List (List Char)) :
    (CodeSearch.ofCodes codes).complaint = none := by
  induction codes with
  | nil => rfl
  | cons code codes ih =>
    unfold CodeSearch.ofCodes
    split
    · exact ih
    · rfl

theorem isSome_complaint_repeatedCodes (engine : String) (value : List Char) :
    (repeatedCodes engine value).complaint.isSome = definesSeveral value := by
  unfold repeatedCodes definesSeveral
  cases hdefined : definitions value with
  | error cause => rfl
  | ok defined =>
    have hpos := length_definitions_pos hdefined
    change (if defined.length = 1 then none else some value).isSome = decide (1 < defined.length)
    split
    · rw [decide_eq_false (by omega)]
      rfl
    · rw [decide_eq_true (by omega)]
      rfl

theorem complaint_definedCodes (engine : String) (value : List Char) :
    (definedCodes engine value).complaint = none := by
  unfold definedCodes
  split
  · rfl
  · exact complaint_ofCodes _

theorem isSome_complaint (engine : String) (name : QualifiedName) (value : List Char) :
    (attributeCodes engine name value).complaint.isSome = repeatsSeveral name value := by
  unfold attributeCodes repeatsSeveral
  by_cases hspace : name.space = .statements
  · rw [if_pos hspace, beq_iff_eq.mpr hspace, Bool.true_and]
    split
    case h_1 hname | h_2 hname =>
      rw [hname, insertedCodes, complaint_ofCodes]
      rfl
    case h_3 hname =>
      rw [hname, complaint_definedCodes]
      rfl
    case h_4 hname =>
      rw [hname, isSome_complaint_repeatedCodes]
      rfl
    case h_5 hrepeat =>
      rw [beq_false_of_ne hrepeat]
      rfl
  · rw [if_neg hspace, beq_false_of_ne hspace]
    rfl

/-! ## Walks -/

theorem announces_complaint (file : String) (line : Int) (what : String) :
    announces (s!"Aborting due to syntax error in {file}[{line}]: {what}").toList = true := by
  have hline : (s!"Aborting due to syntax error in {file}[{line}]: {what}").toList =
      announcement ++
        (" syntax error in ".toList ++ file.toList ++ "[".toList ++ (toString line).toList ++
        "]: ".toList ++ what.toList) := by
    change ("Aborting due to syntax error in " ++ file ++ "[" ++ toString line ++
      "]: " ++ what).toList = _
    simp only [String.toList_append, ← List.append_assoc]
    rfl
  rw [hline]
  exact announces_announcement _

theorem announces_badMarkup (file : String) (line : Int) :
    announces (s!"{file}:{line}\n    Warning: Node type 'default', possible bad markup").toList =
      announces file.toList := by
  have hline : (s!"{file}:{line}\n    Warning: Node type 'default', possible bad markup").toList =
      (file.toList ++ ':' :: (toString line).toList) ++
        '\n' :: "    Warning: Node type 'default', possible bad markup".toList := by
    change (file ++ ":" ++ toString line ++
      "\n    Warning: Node type 'default', possible bad markup").toList = _
    simp only [String.toList_append, List.append_assoc]
    rfl
  have hnumber : '\n' ∉ ':' :: (toString line).toList := by
    rw [List.mem_cons, not_or]
    exact ⟨by decide, newline_notMem_toString line⟩
  have hwarning : announces "    Warning: Node type 'default', possible bad markup".toList =
      false := by
    decide
  rw [hline, announces_append_newline, announces_append (by decide) hnumber,
    hwarning, Bool.or_false]

def WalkState.printed (s : WalkState) : Transcript := s.session.printed

namespace Walk

theorem tells_job {α : Type} {sure : Bool} {j : Job α} (hj : Tells Session.printed excuses sure j) :
    Tells WalkState.printed excuses sure (job j) := by
  intro s hs
  have h := hj s.session hs
  unfold job
  rw [run_get_bind]
  dsimp only [StateT.run, ExceptT.run] at h ⊢
  rcases hrun : j s.session with ⟨outcome, session⟩
  rw [hrun] at h
  cases outcome with
  | ok a => exact h
  | error cause => exact h

theorem tells_advance (lines : Nat) : Tells WalkState.printed excuses false (advance lines) :=
  .modify fun _ => rfl

theorem tells_addDraft (d : Draft) : Tells WalkState.printed excuses false (addDraft d) :=
  .modify fun _ => rfl

theorem tells_changePassage (f : Passage → Passage) :
    Tells WalkState.printed excuses false (changePassage f) :=
  .modify fun _ => rfl

end Walk

namespace Walker

variable {g : Walker} {sure : Bool}

theorem tells_abort {α : Type} (what : List Char) :
    Tells WalkState.printed excuses sure (g.abort what : Walk α) :=
  .get_bind fun _ => .exit (Walk.tells_job (Job.tells_say _ fun _ => trivial).perhaps) fun _ =>
    ⟨(), rfl⟩

section Steps

variable (hfile : announces g.file.toList = true → excuses.err)

include hfile

theorem tells_addCode (code : List Char) : Tells WalkState.printed excuses false (g.addCode code) :=
  .get_bind fun s =>
    .bind_right (Walk.tells_job (Source.tells_extract hfile g.options s.line _)) fun _ =>
      .forM_silent fun _ _ => Walk.tells_addDraft _

omit hfile in
theorem tells_endSearch (ending : CodeEnd) :
    Tells WalkState.printed excuses false (g.endSearch ending) := by
  cases ending with
  | done => exact .pure ()
  | invalid code => exact tells_abort code
  | failed cause => exact .throw cause

theorem tells_runSearch {found : CodeSearch} (h : found.complaint.isSome = true → excuses.out) :
    Tells WalkState.printed excuses found.complaint.isSome (g.runSearch found g.addCode) := by
  have hcodes : Tells WalkState.printed excuses false
      (do found.codes.forM g.addCode; g.endSearch found.ending) :=
    .bind_right (.forM_silent fun _ _ => tells_addCode hfile _) fun _ => tells_endSearch _
  unfold runSearch
  cases hcomplaint : found.complaint with
  | none => exact hcodes
  | some what =>
    rw [hcomplaint] at h
    refine .get_bind fun s => .bind_left (Walk.tells_job ?_) fun _ => hcodes
    have hsay := Job.tells_say
      s!"Aborting due to syntax error in {g.file}[{s.line}]: {String.ofList what}" fun _ => h rfl
    rwa [announces_complaint] at hsay

theorem tells_addAttributeCode {name : QualifiedName} {value : String}
    (h : (decodeReferences value.toList).toOption.any (repeatsSeveral name) = true → excuses.out) :
    Tells WalkState.printed excuses
      ((decodeReferences value.toList).toOption.any (repeatsSeveral name))
      (g.addAttributeCode name value) := by
  unfold addAttributeCode
  cases hdecoded : decodeReferences value.toList with
  | error cause => exact Tells.throw cause
  | ok decoded =>
    rw [hdecoded] at h
    change Tells _ _ (repeatsSeveral name decoded)
      (g.runSearch (attributeCodes g.engine name decoded) g.addCode)
    rw [← isSome_complaint g.engine]
    refine tells_runSearch hfile fun hcomplaint => h ?_
    rw [isSome_complaint] at hcomplaint
    exact hcomplaint

theorem tells_openElement {tag : Tag} (h : tag.repeatsSeveral = true → excuses.out) :
    Tells WalkState.printed excuses tag.repeatsSeveral (g.openElement tag) := by
  refine .bind_right (Walk.tells_advance _) fun _ =>
    .bind_right (Walk.tells_changePassage _) fun _ =>
    .get_set_bind (fun _ => rfl) fun s =>
      .bind_right (.forM_silent fun _ _ => Walk.tells_addDraft _) fun _ =>
        .bind_left (.forM fun entry hentry => ?_) fun _ => .modify fun _ => rfl
  obtain ⟨name, value⟩ := entry
  exact tells_addAttributeCode hfile fun hseveral => h (List.any_eq_true.mpr ⟨_, hentry, hseveral⟩)

omit hfile in
theorem tells_closeElement (stop : Option Tag) :
    Tells WalkState.printed excuses false (g.closeElement stop) := by
  unfold closeElement
  cases stop
  case' some tag => refine .bind_right (Walk.tells_advance _) fun _ => ?_
  all_goals
    refine .modify fun s => ?_
    split <;> rfl

theorem tells_addLine (line : List Char) :
    Tells WalkState.printed excuses false (g.addLine line) := by
  refine .bind_right (.liftM _) fun line => .bind_right (.forM_silent fun code _ => ?_) fun _ => ?_
  · refine .tryCatch (tells_addCode hfile code) (fun cause => ?_) rfl
    split
    · exact tells_abort line
    · exact .throw cause
  · split
    · exact .pure ()
    · exact tells_abort line
    · exact .throw _

theorem tells_addText (text : String) : Tells WalkState.printed excuses false (g.addText text) := by
  refine .get_bind fun s => ?_
  split
  · exact .bind_right (.forM_silent fun _ _ => tells_addLine hfile _) fun _ =>
      .bind_right (Walk.tells_changePassage _) fun _ => Walk.tells_advance _
  · exact Walk.tells_advance _

theorem tells_addDeclaration (text : String) :
    Tells WalkState.printed excuses false (g.addDeclaration text) := by
  unfold addDeclaration
  split
  · refine .get_bind fun s =>
      .bind_right (Walk.tells_job (Job.tells_warn _ fun hannounces => ?_)) fun _ =>
      Walk.tells_advance _
    rw [announces_badMarkup] at hannounces
    exact hfile hannounces
  · exact Walk.tells_advance _

end Steps

mutual

theorem tells_visit (hfile : announces g.file.toList = true → excuses.err) {node : Node}
    (hknown : node.Known) (h : node.repeatsSeveral = true → excuses.out) :
    Tells WalkState.printed excuses node.repeatsSeveral (g.visit node) := by
  match node, hknown with
  | .element start stop children, .element hchildren =>
    rw [visit, Node.repeatsSeveral]
    rw [Node.repeatsSeveral, Bool.or_eq_true] at h
    exact .bind (tells_openElement hfile fun hstart => h (.inl hstart)) fun _ =>
      .bind_left (tells_visitAll hfile hchildren fun hinside => h (.inr hinside)) fun _ =>
        tells_closeElement stop
  | .startTag tag, _ =>
    rw [visit, Node.repeatsSeveral]
    rw [Node.repeatsSeveral] at h
    exact .bind_left (tells_openElement hfile h) fun _ => tells_closeElement none
  | .text s, _ =>
    rw [visit]
    exact tells_addText hfile s
  | .comment s, _ | .characterData s, _ | .instruction s, _ =>
    rw [visit]
    exact Walk.tells_advance _
  | .declaration s, _ =>
    rw [visit]
    exact tells_addDeclaration hfile s

theorem tells_visitAll (hfile : announces g.file.toList = true → excuses.err) {nodes : List Node}
    (hknown : ∀ node ∈ nodes, node.Known) (h : Node.anyRepeatsSeveral nodes = true → excuses.out) :
    Tells WalkState.printed excuses (Node.anyRepeatsSeveral nodes) (g.visitAll nodes) := by
  match nodes with
  | [] =>
    rw [visitAll]
    exact .pure ()
  | node :: rest =>
    obtain ⟨hnode, hrest⟩ := List.forall_mem_cons.mp hknown
    rw [visitAll, Node.anyRepeatsSeveral]
    rw [Node.anyRepeatsSeveral, Bool.or_eq_true] at h
    exact .bind (tells_visit hfile hnode fun hfirst => h (.inl hfirst)) fun _ =>
      tells_visitAll hfile hrest fun hothers => h (.inr hothers)

end

end Walker

def repeatsSeveralIn (bytes : List UInt8) : Bool :=
  match decodeUtf8 bytes with
  | .ok text => Node.anyRepeatsSeveral (nodesOf text)
  | .error _ => false

theorem tells_extract (hfile : announces file.toList = true → excuses.err) {bytes : List UInt8}
    (h : repeatsSeveralIn bytes = true → excuses.out) (options : Options) (engine : String) :
    Tells Session.printed excuses (repeatsSeveralIn bytes) (extract options file engine bytes) := by
  unfold repeatsSeveralIn at h ⊢
  cases hdecoded : decodeUtf8 bytes with
  | error fault =>
    unfold extract
    rw [hdecoded]
    exact Job.tells_abort _
  | ok text =>
    rw [hdecoded] at h
    dsimp only at h ⊢
    cases hnodes : Node.parse text with
    | error cause =>
      unfold extract
      rw [hdecoded]
      dsimp only
      rw [hnodes]
      exact Tells.throw cause
    | ok nodes =>
      have hsame : nodesOf text = nodes := by
        unfold nodesOf
        rw [hnodes]
        rfl
      rw [hsame] at h
      intro s hs
      have hwalk := Walker.tells_visitAll (g := { options, file, engine }) hfile
        (known_parse hnodes) h
        { session := s } hs
      rw [run_extract_of_parse options file engine hdecoded hnodes s, hsame]
      exact hwalk.map _

end Template

/-! ## Extractions -/

namespace Extraction

def fileName : Extraction → String
  | .source _ file _ _ => file
  | .template _ file _ _ => file
  | .configuration _ file _ => file
  | .plugin _ _ _ _ file _ _ => file

def repeatsSeveral : Extraction → Bool
  | .template _ _ _ content => Template.repeatsSeveralIn content
  | _ => false

/-- What an extraction announces is excused by its file name or by an attribute that repeats. -/
theorem tells_job {e : Extraction} (hfile : announces e.fileName.toList = true → excuses.err)
    (h : e.repeatsSeveral = true → excuses.out) :
    Tells Session.printed excuses e.repeatsSeveral e.job := by
  cases e with
  | source options file firstLine lines =>
    exact .bind_left (Source.tells_extract hfile options firstLine lines) fun _ => .pure _
  | template options file engine content =>
    exact .bind_left (Template.tells_extract hfile h options engine) fun _ => .pure _
  | configuration options file content =>
    exact .bind_left (Zcml.tells_extract options file content) fun _ => .pure _
  | plugin program domain settings options file firstLine content =>
    exact .bind_left (Plugin.tells_run hfile program domain settings options firstLine content)
      fun _ => .pure _

/-- If the end of the program is announced while an extraction is made, then the extraction ends the
program. There are two exceptions: a template that repeats an element with more than one variable,
which announces an end on the first stream whenever it is read with success, and a file with a name
that looks like the announcement, which starts the warnings on the second stream. -/
theorem announces_perform (e : Extraction) (keywords : KeywordTable) :
    let outcome := (e.perform keywords).1
    (announces outcome.printed.out.toList = true →
      outcome.result = .error (.exit 1) ∨ e.repeatsSeveral = true) ∧
    (announces outcome.printed.err.toList = true →
      outcome.result = .error (.exit 1) ∨ announces e.fileName.toList = true) ∧
    (e.repeatsSeveral = true → ∀ gain, outcome.result = .ok gain →
      announces outcome.printed.out.toList = true) := by
  have hjob : Tells Session.printed ⟨e.repeatsSeveral = true, announces e.fileName.toList = true⟩
      e.repeatsSeveral e.job := tells_job id id
  -- Nothing is printed before.
  have hstart : Transcript.Whole {} := ⟨.inl rfl, .inl rfl⟩
  have hempty : ¬ announces "".toList = true := by decide
  have hperform := hjob { keywords } hstart
  refine ⟨fun hout => ?_, fun herr => ?_, hperform.surely⟩
  · exact ((hperform.out hout).resolve_left hempty).symm
  · exact ((hperform.err herr).resolve_left hempty).symm

def twoVariables : Extraction :=
  .template {} "f" "python"
    (encodeUtf8 "<p tal:repeat=\"a b; c d\">$\x7b_('x')\x7d</p>".toList)

/-- The end of the program is announced, and the message after it is given all the same. -/
theorem perform_twoVariables :
    (twoVariables.perform .builtin).1 =
      { result := .ok { messages := [{ text := some "x", location := ⟨"f", 3⟩ }] }
        printed := { out := "Aborting due to syntax error in f[1]: a b; c d\n" } } := by
  decide +kernel

end Extraction

end Harvest
