import Harvest.Plugin
import Harvest.Proofs.Source.Displaced

/-!
# Calls that plugins find

A call that a plugin finds is meant to give the message that the same call gives in a source. The
adapter of the plugins and the reader of sources come to their messages separately, and they differ
where there is none: the reader passes over a call that cannot be used, and knows which domain it
extracts.
-/

namespace Harvest.Plugin

open Source (OpenCall ReadFault Reader Reading)

namespace Adapter

/-! ## Found calls in a source -/

def openCall (g : Adapter) (found : Found) : OpenCall :=
  { keyword := found.function.bind g.keywords.get?, row := 0
    arguments := found.arguments.map fun value => ⟨none, value, 0⟩ }

def reading (g : Adapter) (options : Options) (found : Found) : Reading :=
  { options, keywords := g.keywords, file := g.file, firstLine := g.firstLine + found.line }

def read (g : Adapter) (options : Options) (r : Reader) (found : Found) : Except ReadFault Reader :=
  r.closeCall (g.reading options found) (g.openCall found)

/-- Why the adapter gives up at a call: the call gives no message, or a domain although the adapter
was not told which one to extract, or a message without a text. -/
def refusal? (g : Adapter) (options : Options) (found : Found) : Option Failure :=
  (g.openCall found).parts?.elim (some .unusableCall) fun parts =>
    if g.domain = .untold ∧ (parts.domain.filter (!·.isEmpty)).isSome then some .untoldDomain
    else if Reader.wantsDomain options parts.domain ∧ parts.text = none then some .noText
    else none

variable {g : Adapter} {options : Options} {found : Found} {parts : MessageParts}

/-! ## One call -/

/-- The adapter leaves out what a reader with the same domain does, but needs to know the domain. -/
theorem leavesOut_eq
    (hdomain : ∀ own, g.domain = .told own → options.domain = own.filter (!·.isEmpty))
    (domain : Option String) :
    g.leavesOut domain =
      if g.domain = .untold ∧ (domain.filter (!·.isEmpty)).isSome then none
      else some (!Reader.wantsDomain options domain) := by
  unfold leavesOut
  cases domain with
  | none =>
    have hwanted : Reader.wantsDomain options none = true := by
      unfold Reader.wantsDomain
      cases options.domain <;> rfl
    simp [hwanted]
  | some domain =>
    by_cases hempty : domain = ""
    · subst hempty
      have hwanted : Reader.wantsDomain options (some "") = true := by
        unfold Reader.wantsDomain
        cases options.domain <;> rfl
      have hfilter : (some "").filter (!·.isEmpty) = none := rfl
      rw [hfilter, hwanted]
      simp
    · have hfilter : (some domain).filter (!·.isEmpty) = some domain := by simp [hempty]
      rw [hfilter]
      cases hg : g.domain with
      | untold => simp
      | told own =>
        unfold Reader.wantsDomain
        rw [hdomain own hg]
        dsimp only
        generalize own.filter (!·.isEmpty) = kept
        cases kept with
        | none => simp
        | some kept => simp [hempty, bne, Bool.beq_comm]

/-- For a keyword, the parts that the adapter finds are those that a reader does. -/
theorem parts_eq (hknown : (g.openCall found).keyword.isSome) :
    ∃ warning, g.parts found =
      (g.openCall found).parts?.elim (.error (.unusableCall, warning)) .ok := by
  obtain ⟨keyword, hkeyword⟩ := Option.isSome_iff_exists.mp hknown
  have hcall : (g.openCall found).parts? =
      (keyword.pick (found.arguments.map fun value => ⟨none, value, found.line⟩)).toOption := by
    unfold OpenCall.parts?
    rw [hkeyword, ← toOption_pick_unrowed keyword (found.arguments.map _), List.map_map]
    rfl
  have hfunction : found.function.bind g.keywords.get? = some keyword := hkeyword
  unfold parts
  rw [hcall, hfunction]
  dsimp only
  cases keyword.pick (found.arguments.map fun value => ⟨none, value, found.line⟩) with
  | error fault => exact ⟨_, rfl⟩
  | ok parts => exact ⟨none, rfl⟩

theorem message?_eq_none_iff : g.message? found parts = none ↔ parts.text = none := by
  unfold message? Message.withFormatFlags
  cases parts.text <;> simp

theorem message?_reader (hcomments : found.comments = []) {r : Reader}
    (hpending : r.pending = none) :
    r.message? (g.reading options found) (g.openCall found) parts = g.message? found parts := by
  have hremark : r.remarkFor (g.openCall found).row = none := by
    unfold Reader.remarkFor
    rw [hpending]
  -- The separator of comments does not matter where there is one comment at most.
  have hcomment : "\n".intercalate (if parts.comment.isEmpty then [] else [parts.comment]) =
      " ".intercalate (if parts.comment.isEmpty then [] else [parts.comment]) := by
    split <;> rfl
  have hline : g.firstLine + found.line + ((g.openCall found).row : Int) =
      g.firstLine + found.line :=
    Int.add_zero _
  unfold Reader.message? message?
  rw [hremark, hcomments, List.nil_append, ← hcomment]
  dsimp only [reading, Option.map_none, Option.toList_none]
  rw [List.append_nil, hline]
  rfl

theorem harvest_of_parts (hparts : g.parts found = .ok parts) (rest : List Found) :
    g.harvest (found :: rest) =
      (g.leavesOut parts.domain).elim { failure := some .untoldDomain } fun out =>
      if out then g.harvest rest
      else (g.message? found parts).elim { failure := some .noText } (g.harvest rest).cons := by
  rw [harvest, hparts]
  dsimp only
  rcases g.leavesOut parts.domain with _ | _ | _
  · rfl
  · cases g.message? found parts <;> rfl
  · rfl

/-- The adapter gives up at a call, or it adds the same messages as a reader. -/
theorem harvest_cons (hknown : (g.openCall found).keyword.isSome) (hcomments : found.comments = [])
    (hdomain : ∀ own, g.domain = .told own → options.domain = own.filter (!·.isEmpty)) :
    (∃ cause, g.refusal? options found = some cause ∧
        ∀ rest, (g.harvest (found :: rest)).failure = some cause ∧
          (g.harvest (found :: rest)).messages = []) ∨
      g.refusal? options found = none ∧ ∃ messages,
        (∀ rest, (g.harvest (found :: rest)).failure = (g.harvest rest).failure ∧
          (g.harvest (found :: rest)).messages = messages ++ (g.harvest rest).messages) ∧
        ∀ r : Reader, r.pending = none → ∃ r', g.read options r found = .ok r' ∧ r'.pending = none ∧
          r'.messages = r.messages ++ messages := by
  obtain ⟨warning, hparts⟩ := parts_eq hknown
  unfold refusal?
  cases hcall : (g.openCall found).parts? with
  | none =>
    rw [hcall] at hparts
    refine .inl ⟨_, rfl, fun rest => ?_⟩
    rw [harvest, hparts]
    exact ⟨rfl, rfl⟩
  | some parts =>
    rw [hcall, Option.elim_some] at hparts
    have hread (r : Reader) : g.read options r found = _ := Reader.closeCall_of_parts? hcall _ r
    simp only [Option.elim_some, harvest_of_parts hparts, leavesOut_eq hdomain]
    -- The adapter looks at the domain first, so a message without a text is no fault where it is
    -- left out.
    by_cases huntold : g.domain = .untold ∧ (parts.domain.filter (!·.isEmpty)).isSome
    · simp only [if_pos huntold]
      exact .inl ⟨_, rfl, fun rest => ⟨rfl, rfl⟩⟩
    simp only [if_neg huntold, Option.elim_some]
    cases hwanted : Reader.wantsDomain options parts.domain with
    | false =>
      refine .inr ⟨by simp, [], fun rest => ⟨rfl, rfl⟩, fun r hpending => ?_⟩
      exact ⟨{ r with phase := .idle }, by rw [hread, Reader.addMessage_of_unwanted hwanted],
        hpending,
        (List.append_nil _).symm⟩
    | true =>
      cases hmessage : g.message? found parts with
      | none => exact .inl ⟨.noText, by simp [message?_eq_none_iff.mp hmessage],
        fun rest => ⟨rfl, rfl⟩⟩
      | some message =>
        have htext : parts.text ≠ none := fun htext => by
          rw [message?_eq_none_iff.mpr htext] at hmessage
          cases hmessage
        refine .inr ⟨by simp [htext], [message], fun rest => ⟨rfl, rfl⟩, fun r hpending => ?_⟩
        refine ⟨{ r with phase := .idle, messages := r.messages ++ [message] }, ?_, hpending, rfl⟩
        rw [hread, Reader.addMessage_of_wanted hwanted,
          message?_reader hcomments (by exact hpending), hmessage]
        rfl

/-- A call that gives no message makes a reader of sources go on, where a plugin's adapter gives up.
-/
theorem read_of_unusable (hknown : (g.openCall found).keyword.isSome)
    (h : g.refusal? options found = some .unusableCall) (r : Reader) :
    ∃ r', g.read options r found = .ok r' ∧ r'.messages = r.messages := by
  cases hcall : (g.openCall found).parts? with
  | none =>
    obtain ⟨keyword, hkeyword⟩ := Option.isSome_iff_exists.mp hknown
    unfold read
    rw [Reader.closeCall_of_refusal hcall]
    unfold OpenCall.refusal
    rw [hkeyword]
    dsimp only
    cases keyword.pick (g.openCall found).arguments <;> exact ⟨_, rfl, rfl⟩
  | some parts =>
    unfold refusal? at h
    rw [hcall, Option.elim_some] at h
    split at h
    · cases h
    · split at h <;> cases h

/-! ## All calls -/

/-- A reader that goes on with the calls up to the first refused one finds what the
adapter finds. -/
theorem harvest_eq_foldlM {founds : List Found}
    (hknown : ∀ found ∈ founds, (g.openCall found).keyword.isSome)
    (hcomments : ∀ found ∈ founds, found.comments = [])
    (hdomain : ∀ own, g.domain = .told own → options.domain = own.filter (!·.isEmpty)) {r : Reader}
    (hpending : r.pending = none) :
    (g.harvest founds).failure = founds.findSome? (g.refusal? options) ∧
    ∃ r', (founds.takeWhile fun found => (g.refusal? options found).isNone).foldlM
      (g.read options) r = .ok r' ∧
      r'.messages = r.messages ++ (g.harvest founds).messages := by
  induction founds generalizing r with
  | nil => exact ⟨rfl, r, rfl, (List.append_nil _).symm⟩
  | cons found rest ih =>
    rw [List.forall_mem_cons] at hknown hcomments
    obtain ⟨cause, hrefusal, hstop⟩ | ⟨hrefusal, messages, hgo, hread⟩ :=
      harvest_cons hknown.1 hcomments.1 hdomain
    · obtain ⟨hfailure, hmessages⟩ := hstop rest
      rw [hfailure, hmessages, List.findSome?_cons, hrefusal, List.takeWhile_cons, hrefusal]
      exact ⟨rfl, r, rfl, (List.append_nil _).symm⟩
    · obtain ⟨hfailure, hmessages⟩ := hgo rest
      obtain ⟨r', hr', hpending', hadded⟩ := hread r hpending
      obtain ⟨ihfailure, r'', hr'', hrest⟩ := ih hknown.2 hcomments.2 hpending'
      rw [hfailure, hmessages, List.findSome?_cons, hrefusal, List.takeWhile_cons, hrefusal]
      refine ⟨ihfailure, r'', ?_, ?_⟩
      · rw [Option.isNone_none, if_pos rfl, List.foldlM_cons, hr']
        exact hr''
      · rw [hrest, hadded, List.append_assoc]

/-- The adapter treats calls as a reader of sources does up to the first one that it refuses. There
it stops: at a call that cannot be used, which a reader passes over, and at a call with a domain if
it was not told which one to extract. -/
theorem harvest_eq_read {founds : List Found}
    (hknown : ∀ found ∈ founds, (g.openCall found).keyword.isSome)
    (hcomments : ∀ found ∈ founds, found.comments = [])
    (hdomain : ∀ own, g.domain = .told own → options.domain = own.filter (!·.isEmpty)) :
    (g.harvest founds).failure = founds.findSome? (g.refusal? options) ∧
    (∃ r, (founds.takeWhile fun found => (g.refusal? options found).isNone).foldlM
      (g.read options) {} = .ok r ∧
      r.messages = (g.harvest founds).messages) ∧
    ∀ found ∈ founds, g.refusal? options found = some .unusableCall →
      ∀ r : Reader, ∃ r', g.read options r found = .ok r' ∧ r'.messages = r.messages := by
  obtain ⟨hfailure, r, hr, hmessages⟩ := harvest_eq_foldlM hknown hcomments hdomain (r := {}) rfl
  exact ⟨hfailure, ⟨r, hr, hmessages⟩, fun found hfound => read_of_unusable (hknown found hfound)⟩

def onlyMine : Options := { domain := some "mine" }

def mine : Adapter :=
    { keywords := .builtin, file := "f", firstLine := 10, domain := .told onlyMine.domain }

/-- Calls of which one has another domain and one has too few arguments. -/
def mixedCalls : List Found :=
  [⟨1, some "gettext", [.text "%d pages"], []⟩,
    ⟨2, some "dgettext", [.text "other", .text "Open"], []⟩,
    ⟨3, some "pgettext", [.text "menu", .text "Open"], []⟩,
      ⟨4, some "ngettext", [.text "page"], []⟩,
    ⟨5, some "gettext", [.text "Close"], []⟩]

theorem harvest_eq_read_mixedCalls :
    ((∀ found ∈ mixedCalls, (mine.openCall found).keyword.isSome) ∧
      (∀ found ∈ mixedCalls, found.comments = []) ∧
      ∀ own, mine.domain = .told own → onlyMine.domain = own.filter (!·.isEmpty)) ∧
    (mine.harvest mixedCalls).failure = some .unusableCall ∧
    (mine.harvest mixedCalls).messages =
      [{ text := some "%d pages", flags := ["c-format"], location := ⟨"f", 11⟩ },
        { context := some "menu", text := some "Open", location := ⟨"f", 13⟩ }] ∧
    ∃ r, (mixedCalls.take 3).foldlM (mine.read onlyMine) {} = .ok r ∧
      r.messages = (mine.harvest mixedCalls).messages := by
  have hknown : ∀ found ∈ mixedCalls, (mine.openCall found).keyword.isSome := by decide +kernel
  have hcomments : ∀ found ∈ mixedCalls, found.comments = [] := by decide +kernel
  have hdomain (own : Option String) (hown : mine.domain = .told own) :
      onlyMine.domain = own.filter (!·.isEmpty) := by
    cases hown
    decide +kernel
  have htake :
      mixedCalls.takeWhile (fun found => (mine.refusal? onlyMine found).isNone) =
          mixedCalls.take 3 := by
    decide +kernel
  obtain ⟨hfailure, hread, -⟩ := harvest_eq_read hknown hcomments hdomain
  refine ⟨⟨hknown, hcomments, hdomain⟩, hfailure.trans (by decide +kernel), by decide +kernel, ?_⟩
  rwa [htake] at hread

/-- A call without arguments ends the work of the adapter, while a reader passes over it. -/
theorem harvest_unusable :
    let g : Adapter := { keywords := .builtin, file := "f" }
    let founds : List Found := [⟨1, some "gettext", [], []⟩, ⟨2, some "gettext", [.text "x"], []⟩]
    g.harvest founds = { failure := some .unusableCall } ∧
    (founds.foldlM (g.read {}) {}).toOption.map (·.messages) =
      some [{ text := some "x", location := ⟨"f", 2⟩ }] := by
  decide +kernel

end Adapter

end Harvest.Plugin
