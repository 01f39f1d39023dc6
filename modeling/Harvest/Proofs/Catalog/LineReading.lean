import Harvest.Proofs.Catalog.Fields
import Harvest.Proofs.Catalog.Occurrences

/-!
# Reading the lines of a catalog

A written line is recognised by its first word. Reading it either starts something new or adds to
what the line before was about.
-/

namespace Harvest.Catalog

open Text

/-! ## What a line amounts to -/

theorem LineWords.of_words {s w : List Char} {ws : List (List Char)} (h : words s = w :: ws) :
    (LineWords.of s).first = w ∧ (LineWords.of s).second = ws.head? := by
  unfold LineWords.of
  rw [h]
  match ws with
  | [] => exact ⟨rfl, rfl⟩
  | [v] => exact ⟨rfl, rfl⟩
  | v :: u :: ws => exact ⟨rfl, rfl⟩

def lineOf (s : List Char) : Line := plainLine (LineWords.of s) s

def Unbroken (s : List Char) : Prop := '\n' ∉ s ∧ '\r' ∉ s

instance (s : List Char) : Decidable (Unbroken s) := inferInstanceAs (Decidable (_ ∧ _))

/-- A written line: it starts with a character that is not blank, and no mark of disuse. -/
structure Plain (s first : List Char) (rest : List (List Char)) : Prop where
  ne_nil : s ≠ []
  unmarked : s.head? ≠ some (Char.ofNat 0xFEFF)
  startsBlank_eq : startsBlank s = false
  words_eq : words s = first :: rest
  used : first ≠ ['#', '~'] ∧ first ≠ ['#', '~', '|']
  unbroken : Unbroken s

namespace Plain

variable {s first : List Char} {rest : List (List Char)} (h : Plain s first rest)

include h

theorem trim_append : trim (s ++ ['\n']) = trimRight s := by
  unfold trim
  rw [trimLeft_of_startsBlank (by rw [startsBlank_append h.ne_nil, h.startsBlank_eq]),
    trimRight_append_blank s (by decide)]

theorem trimRight_ne_nil : trimRight s ≠ [] :=
  Catalog.trimRight_ne_nil (allBlank_of_startsBlank h.ne_nil h.startsBlank_eq)

theorem first_of : (LineWords.of (trimRight s)).first = first :=
  (LineWords.of_words ((words_trimRight s).trans h.words_eq)).1

theorem marked_of : Marked.of (trimRight s) = ⟨false, LineWords.of (trimRight s), trimRight s⟩ := by
  unfold Marked.of
  dsimp only
  rw [h.first_of]
  simp [h.used.1]

theorem head?_append_ne : (s ++ ['\n']).head? ≠ some (Char.ofNat 0xFEFF) := by
  rw [List.head?_append_of_ne_nil _ h.ne_nil]
  exact h.unmarked

theorem step_of_nothing (hline : lineOf (trimRight s) = .nothing)
    (file : Option String) (r : Reader) :
    Reader.step file r (s ++ ['\n']) =
      .ok { r with line := r.line + 1, any := true, comment := first.head? == some '#' } := by
  have hused : first ≠ "#~|".toList := h.used.2
  unfold lineOf at hline
  unfold Reader.step
  simp only [h.head?_append_ne, decide_false, Bool.and_false, Bool.false_eq_true, if_false]
  rw [h.trim_append, h.first_of, h.marked_of,
    if_neg (by simpa using h.trimRight_ne_nil), if_neg hused]
  dsimp only
  rw [hline, h.first_of]

theorem step_of_role {t : List Char} {role : Role} {reading : Reading}
    {file : Option String} {r : Reader}
    (hline : lineOf (trimRight s) = .role role t)
    (happly : r.reading.apply? role false t = some reading) :
    Reader.step file r (s ++ ['\n']) =
      .ok { reading, line := r.line + 1, any := true, comment := first.head? == some '#' } := by
  have hused : first ≠ "#~|".toList := h.used.2
  unfold lineOf at hline
  unfold Reader.step
  simp only [h.head?_append_ne, decide_false, Bool.and_false, Bool.false_eq_true, if_false]
  rw [h.trim_append, h.first_of, h.marked_of,
    if_neg (by simpa using h.trimRight_ne_nil), if_neg hused]
  dsimp only
  rw [hline, h.first_of]
  dsimp only
  rw [happly]

end Plain

/-! ## Runs -/

/-- Reading lines leads from `a` to `b`; then the last one is no comment if `closed` holds. -/
structure Reads (file : Option String) (ls : List (List Char)) (a b : Reading) (closed : Prop) :
    Prop where
  unbroken : ∀ line ∈ ls, Unbroken line
  run : ∀ r : Reader, r.reading = a → ∃ r',
    (ls.map (· ++ ['\n'])).foldlM (Reader.step file) r = .ok r' ∧ r'.reading = b ∧
      (closed → r'.any = true ∧ r'.comment = false)

namespace Reads

variable {file : Option String} {ls : List (List Char)} {a b c : Reading} {closed : Prop}

theorem nil : Reads file [] a a False := ⟨by simp, fun r hr => ⟨r, rfl, hr, False.elim⟩⟩

theorem append {ms : List (List Char)} {before : Prop} (hls : Reads file ls a b before)
    (hms : Reads file ms b c closed) : Reads file (ls ++ ms) a c closed := by
  refine ⟨List.forall_mem_append.mpr ⟨hls.unbroken, hms.unbroken⟩, fun r hr => ?_⟩
  obtain ⟨r', hrun, hr', -⟩ := hls.run r hr
  obtain ⟨r'', hrun', hr'', hclosed⟩ := hms.run r' hr'
  refine ⟨r'', ?_, hr'', hclosed⟩
  rw [List.map_append, List.foldlM_append, hrun]
  exact hrun'

theorem imp {other : Prop} (h : Reads file ls a b closed) (himp : other → closed) :
    Reads file ls a b other := by
  refine ⟨h.unbroken, fun r hr => ?_⟩
  obtain ⟨r', hrun, hr', hclosed⟩ := h.run r hr
  exact ⟨r', hrun, hr', fun hother => hclosed (himp hother)⟩

theorem empty : Reads file [[]] a a False := by
  refine ⟨by simp [Unbroken], fun r hr => ?_⟩
  have hhead : ¬ ['\n'].head? = some (Char.ofNat 0xFEFF) := by decide
  have htrim : trim ['\n'] = [] := by decide
  have hstep : Reader.step file r ['\n'] = .ok { r with line := r.line + 1 } := by
    unfold Reader.step
    simp only [hhead, htrim, decide_false, Bool.and_false, Bool.false_eq_true, if_false,
      List.isEmpty_nil, if_true]
  refine ⟨{ r with line := r.line + 1 }, ?_, hr, False.elim⟩
  rw [List.map_singleton, List.nil_append, List.foldlM_cons, hstep]
  rfl

theorem of_nothing {s first : List Char} {rest : List (List Char)} (hs : Plain s first rest)
    (hline : lineOf (trimRight s) = .nothing) : Reads file [s] a a (first.head? ≠ some '#') := by
  refine ⟨by simpa using hs.unbroken, fun r hr => ?_⟩
  refine ⟨{ r with line := r.line + 1, any := true, comment := first.head? == some '#' }, ?_, hr,
    fun hclosed => ⟨rfl, beq_eq_false_iff_ne.mpr hclosed⟩⟩
  rw [List.map_singleton, List.foldlM_cons, hs.step_of_nothing hline]
  rfl

theorem of_role {s first t : List Char} {rest : List (List Char)} {role : Role}
    (hs : Plain s first rest) (hline : lineOf (trimRight s) = .role role t)
    (happly : a.apply? role false t = some b) : Reads file [s] a b (first.head? ≠ some '#') := by
  refine ⟨by simpa using hs.unbroken, fun r hr => ?_⟩
  refine ⟨⟨b, r.line + 1, true, first.head? == some '#'⟩, ?_, rfl,
    fun hclosed => ⟨rfl, beq_eq_false_iff_ne.mpr hclosed⟩⟩
  rw [List.map_singleton, List.foldlM_cons, hs.step_of_role hline (hr ▸ happly)]
  rfl

end Reads

/-! ## Lines after a mark -/

theorem plain_of_mark {s first : List Char} {rest : List (List Char)} (hhead : s.head? = some '#')
    (hwords : words s = first :: rest) (hused : first ≠ ['#', '~'] ∧ first ≠ ['#', '~', '|'])
    (hs : Unbroken s) : Plain s first rest := by
  obtain ⟨cs, rfl⟩ := List.head?_eq_some_iff.mp hhead
  constructor
  case ne_nil => exact List.cons_ne_nil _ _
  case unmarked => exact fun hhead => absurd (Option.some.inj hhead) (by decide)
  case startsBlank_eq => exact (by decide : isBlank '#' = false)
  case words_eq => exact hwords
  case used => exact hused
  case unbroken => exact hs

theorem not_field_of_mark {s : List Char} (hhead : s.head? = some '#') :
    s.head? ≠ some '"' ∧ ¬ "msgstr[".toList.isPrefixOf s = true := by
  obtain ⟨cs, rfl⟩ := List.head?_eq_some_iff.mp hhead
  exact ⟨by simp, fun h => absurd (List.isPrefixOf_iff_prefix.mp h) (by simp)⟩

def marks : List (Char × Role) := [('.', .generated), (':', .occurrences), (',', .flags)]

def led (mark : Char) (content : List Char) : List Char := '#' :: mark :: ' ' :: content

def Role.add (role : Role) (content : List Char) (e : Entry) : Entry :=
  match role with
  | .generated => { e with comments := addCommentLine e.comments (String.ofList content) }
  | .occurrences => { e with occurrences := e.occurrences ++ (words content).map Occurrence.parse }
  | .flags =>
      { e with flags := e.flags ++ (content.splitOn ',').map fun flag => String.ofList (trim flag) }
  | _ => e

theorem words_led {mark : Char} (hmark : isBlank mark = false) (content : List Char) :
    words (led mark content) = ['#', mark] :: words content := by
  have hfirst : words ['#', mark] = [['#', mark]] :=
    words_of_forall_not_blank (by simp) (by simp [hmark]; decide)
  calc
    words (led mark content) = words (['#', mark] ++ ' ' :: content) := rfl
    _ = ['#', mark] :: words content := by
      rw [words_append_blank (by decide), hfirst]
      rfl

theorem mem_marks_iff {mark : Char} {role : Role} :
    (mark, role) ∈ marks ↔
      (mark = '.' ∧ role = .generated) ∨ (mark = ':' ∧ role = .occurrences) ∨
        (mark = ',' ∧ role = .flags) := by
  simp [marks]

theorem isBlank_of_mem_marks {mark : Char} {role : Role} (h : (mark, role) ∈ marks) :
    isBlank mark = false := by
  rcases mem_marks_iff.mp h with ⟨rfl, -⟩ | ⟨rfl, -⟩ | ⟨rfl, -⟩ <;> decide

theorem plain_led {mark : Char} {role : Role} (h : (mark, role) ∈ marks) {content : List Char}
    (hcontent : Unbroken content) : Plain (led mark content) ['#', mark] (words content) := by
  have hmark : mark ≠ '~' ∧ mark ≠ '\n' ∧ mark ≠ '\r' := by
    rcases mem_marks_iff.mp h with ⟨rfl, -⟩ | ⟨rfl, -⟩ | ⟨rfl, -⟩ <;> decide
  refine plain_of_mark rfl (words_led (isBlank_of_mem_marks h) content) (by simp [hmark.1]) ?_
  simp [Unbroken, led, hcontent.1, hcontent.2, hmark.2.1.symm, hmark.2.2.symm]

theorem trimRight_led {mark : Char} (hmark : isBlank mark = false) (content : List Char) :
    trimRight (led mark content) =
      if allBlank content then ['#', mark] else led mark (trimRight content) := by
  calc
    trimRight (led mark content) = trimRight (['#', mark, ' '] ++ content) := rfl
    _ = _ := by
      have hspace : trimRight ['#', mark, ' '] = ['#', mark] := by
        have hblank : isBlank ' ' = true := by decide
        simp [trimRight, trimRightOf, hblank, hmark]
      rw [trimRight_append, hspace]
      rfl

theorem lineOf_led {mark : Char} {role : Role} (h : (mark, role) ∈ marks) {s : List Char}
    {rest : List (List Char)} (hwords : words s = ['#', mark] :: rest)
    (hhead : s.head? = some '#') :
    lineOf s = if rest.isEmpty then .nothing else .role role s := by
  obtain ⟨hfirst, hsecond⟩ := LineWords.of_words hwords
  obtain ⟨hquote, hform⟩ := not_field_of_mark hhead
  unfold lineOf plainLine
  rw [hfirst, hsecond]
  dsimp only
  -- The tests for the first word stand in a fixed order, and each mark fails those before its own.
  rcases mem_marks_iff.mp h with ⟨rfl, rfl⟩ | ⟨rfl, rfl⟩ | ⟨rfl, rfl⟩
  · have hkeyword : keywordRole? ['#', '.'] = none := by decide
    rw [hkeyword]
    dsimp only
    rw [if_neg (by decide), if_neg hquote, if_neg hform, if_neg (by decide), if_neg (by decide),
      if_pos rfl]
    cases rest <;> rfl
  · have hkeyword : keywordRole? ['#', ':'] = none := by decide
    rw [hkeyword]
    dsimp only
    rw [if_pos rfl]
    cases rest <;> rfl
  · have hkeyword : keywordRole? ['#', ','] = none := by decide
    rw [hkeyword]
    dsimp only
    rw [if_neg (by decide), if_neg hquote, if_neg hform, if_pos rfl]
    cases rest <;> rfl

theorem reading_of_led {mark : Char} {role : Role} (h : (mark, role) ∈ marks) (a : Reading)
    (content : List Char) :
    a.apply? role false (led mark content) =
      some { a.fresh with current := role.add content a.fresh.current, stage := .after role } := by
  rcases mem_marks_iff.mp h with ⟨rfl, rfl⟩ | ⟨rfl, rfl⟩ | ⟨rfl, rfl⟩ <;> rfl

theorem Reading.fresh_of_not_done {a : Reading} (h : a.stage.isDone = false) : a.fresh = a := by
  simp [Reading.fresh, h]

/-- A new entry may start here, or lines be added to one that has not come to its fields: `entries`
are done, and what is new is added to `current`. -/
structure Reading.Opens (a : Reading) (entries : List Entry) (current : Entry) : Prop where
  allowed : a.stage.allows .context = true
  entries_eq : a.fresh.entries = entries
  current_eq : a.fresh.current = current

theorem Stage.allows_context_of_mark {mark : Char} {role : Role} (h : (mark, role) ∈ marks) :
    (Stage.after role).allows .context = true ∧ (Stage.after role).isDone = false := by
  rcases mem_marks_iff.mp h with ⟨-, rfl⟩ | ⟨-, rfl⟩ | ⟨-, rfl⟩ <;> decide

/-- A line of comment is added to the entry that is open, unless it is blank. -/
theorem Reading.Opens.exists_reads_led {mark : Char} {role : Role} (h : (mark, role) ∈ marks)
    (file : Option String) {a : Reading} {entries : List Entry} {current : Entry}
    (ha : a.Opens entries current) {content : List Char} (hcontent : Unbroken content) :
    ∃ b closed, Reads file [led mark content] a b closed ∧
      b.Opens entries
        (if allBlank content then current else role.add (trimRight content) current) := by
  have hplain := plain_led h hcontent
  have hwords := (words_trimRight _).trans hplain.words_eq
  have htrim := trimRight_led (isBlank_of_mem_marks h) content
  have hline := lineOf_led h hwords (by rw [htrim]; split <;> rfl)
  cases hblank : allBlank content with
  | true =>
    -- A mark alone has no role.
    rw [words_eq_nil_iff.mpr hblank] at hline
    exact ⟨a, _, .of_nothing hplain hline, ha⟩
  | false =>
    have hne : (words content).isEmpty = false := by
      rw [List.isEmpty_eq_false_iff, Ne, words_eq_nil_iff, hblank]
      exact Bool.false_ne_true
    rw [hne, htrim, hblank] at hline
    obtain ⟨hallowed, hdone⟩ := Stage.allows_context_of_mark h
    have hrole := reading_of_led h a (trimRight content)
    refine ⟨_, _, .of_role hplain (by rw [htrim, hblank]; exact hline) hrole, hallowed, ?_, ?_⟩
    · rw [Reading.fresh_of_not_done hdone]
      exact ha.entries_eq
    · rw [Reading.fresh_of_not_done hdone, ← ha.current_eq]
      rfl

/-- Lines of comments are added one after the other. -/
theorem Reading.Opens.exists_reads_leds {mark : Char} {role : Role} (h : (mark, role) ∈ marks)
    (file : Option String) {a : Reading} {entries : List Entry} {current : Entry}
    (ha : a.Opens entries current) {contents : List (List Char)}
    (hcontents : ∀ content ∈ contents, Unbroken content) :
    ∃ b closed, Reads file (contents.map (led mark)) a b closed ∧
      b.Opens entries (contents.foldl
        (fun e content => if allBlank content then e else role.add
        (trimRight content) e) current) := by
  induction contents generalizing a current with
  | nil => exact ⟨a, _, .nil, ha⟩
  | cons content contents ih =>
    rw [List.forall_mem_cons] at hcontents
    obtain ⟨b, _, hfirst, hb⟩ := ha.exists_reads_led h file hcontents.1
    obtain ⟨c, _, hrest, hc⟩ := ih hb hcontents.2
    exact ⟨c, _, hfirst.append hrest, hc⟩

theorem foldl_add_generated (contents : List (List Char)) (e : Entry) :
    contents.foldl
        (fun e content => if allBlank content then e else Role.generated.add
        (trimRight content) e) e =
      { e with comments := contents.foldl addContent e.comments } := by
  induction contents generalizing e with
  | nil => rfl
  | cons content contents ih =>
    rw [List.foldl_cons, ih, List.foldl_cons]
    unfold addContent
    split <;> rfl

theorem foldl_add_occurrences (contents : List (List Char)) (e : Entry) :
    contents.foldl
        (fun e content => if allBlank content then e else Role.occurrences.add
        (trimRight content) e) e =
      { e with
        occurrences := e.occurrences ++ (contents.flatMap words).map Occurrence.parse } := by
  induction contents generalizing e with
  | nil => simp
  | cons content contents ih =>
    rw [List.foldl_cons, ih]
    split
    case isTrue h => simp [words_eq_nil_iff.mpr h]
    case isFalse => simp [Role.add, words_trimRight]

/-! ## Fields -/

def keywords : List (String × Role) :=
  [("msgctxt", .context), ("msgid", .text), ("msgstr", .translation)]

def Role.set (role : Role) (value : List Char) (e : Entry) : Entry :=
  match role with
  | .context => { e with context := some (String.ofList value) }
  | .text => { e with obsolete := false, text := some (String.ofList value) }
  | .translation => { e with translation := String.ofList value }
  | _ => e

theorem mem_keywords_iff {label : String} {role : Role} :
    (label, role) ∈ keywords ↔
      (label = "msgctxt" ∧ role = .context) ∨ (label = "msgid" ∧ role = .text) ∨
        (label = "msgstr" ∧ role = .translation) := by
  simp [keywords]

theorem hasBareQuote_escape (before : Char) (s : List Char) :
    hasBareQuote before (escape s) = false := by
  induction s generalizing before with
  | nil => rfl
  | cons c cs ih =>
    rw [escape_cons]
    rcases escapeChar_cases c with ⟨hplain, -, hquote, -⟩ | ⟨d, hescaped, -⟩
    · simp [hplain, hasBareQuote, hquote, ih]
    · simp [hescaped, hasBareQuote, ih]

theorem hasInnerQuote_quoted (part : List Char) : hasInnerQuote (quoted part) = false := by
  unfold hasInnerQuote quoted
  rw [List.drop_one, List.tail_cons, List.dropLast_concat, hasBareQuote_escape]

theorem quotedPart_quoted (part : List Char) : quotedPart (quoted part) = String.ofList part := by
  unfold quotedPart quoted
  rw [List.drop_one, List.tail_cons, List.dropLast_concat, unescape_escape]

theorem trimRight_append_quoted (s part : List Char) :
    trimRight (s ++ quoted part) = s ++ quoted part := by
  have hquote : allBlank ['"'] = false ∧ trimRight ['"'] = ['"'] := by decide
  have hsplit : s ++ quoted part = (s ++ '"' :: escape part) ++ ['"'] := by simp [quoted]
  rw [hsplit, trimRight_append, hquote.1, hquote.2]
  rfl

theorem exists_words_quoted (part : List Char) :
    ∃ w ws, words (quoted part) = ('"' :: w) :: ws := by
  have hquote : isBlank '"' = false := by decide
  have hwords : words (quoted part) = wordsFrom ['"'] (escape part ++ ['"']) := by
    simp [words, quoted, wordsFrom, hquote]
  rw [hwords]
  exact exists_wordsFrom_eq_cons (List.cons_ne_nil _ _) _

theorem unbroken_quoted (part : List Char) : Unbroken (quoted part) := by
  have hescape (c : Char) (hc : c = '\n' ∨ c = '\r') : c ∉ escape part := by
    intro h
    rcases mem_escape h with ⟨-, -, hreturn, hfeed⟩ | hmem
    · exact hc.elim hfeed hreturn
    · rcases hc with rfl | rfl <;> exact absurd hmem (by decide)
  simp [Unbroken, quoted, hescape]

theorem quotedLine_quoted (role : Role) (part : List Char) :
    quotedLine role (quoted part) = .role role (quoted part) := by
  unfold quotedLine
  rw [hasInnerQuote_quoted]
  rfl

theorem plain_keyword {label : String} {role : Role} (h : (label, role) ∈ keywords)
    (part : List Char) :
    Plain (label.toList ++ ' ' :: quoted part) label.toList (words (quoted part)) := by
  have hlabel : ∃ cs, label.toList = 'm' :: cs ∧ words label.toList = [label.toList] := by
    rcases mem_keywords_iff.mp h with ⟨rfl, -⟩ | ⟨rfl, -⟩ | ⟨rfl, -⟩ <;> exact ⟨_, rfl, by decide⟩
  obtain ⟨cs, hcons, hwords⟩ := hlabel
  constructor
  case ne_nil => simp
  case unmarked => simp [hcons]
  case startsBlank_eq => simp [hcons, startsBlank]; decide
  case words_eq => rw [words_append_blank (by decide), hwords]; rfl
  case used => simp [hcons]
  case unbroken =>
    have hlabel : Unbroken label.toList := by
      rcases mem_keywords_iff.mp h with ⟨rfl, -⟩ | ⟨rfl, -⟩ | ⟨rfl, -⟩ <;> exact
        ⟨by decide, by decide⟩
    have hquoted := unbroken_quoted part
    simp [Unbroken, hlabel.1, hlabel.2, hquoted.1, hquoted.2]

theorem lineOf_keyword {label : String} {role : Role} (h : (label, role) ∈ keywords)
    (part : List Char) :
    lineOf (label.toList ++ ' ' :: quoted part) = .role role (quoted part) := by
  obtain ⟨w, ws, hquoted⟩ := exists_words_quoted part
  obtain ⟨hfirst, hsecond⟩ := LineWords.of_words (plain_keyword h part).words_eq
  have hrole : keywordRole? label.toList = some role := by
    rcases mem_keywords_iff.mp h with ⟨rfl, rfl⟩ | ⟨rfl, rfl⟩ | ⟨rfl, rfl⟩ <;> decide
  have hvalue : trimLeft ((label.toList ++ ' ' :: quoted part).drop label.toList.length) =
      quoted part := by
    have hblank : isBlank ' ' = true ∧ isBlank '"' = false := by decide
    simp [trimLeft, quoted, hblank]
  unfold lineOf plainLine
  rw [hfirst, hsecond, hquoted, hrole, hvalue]
  exact quotedLine_quoted role part

theorem reads_keyword {label : String} {role : Role} (h : (label, role) ∈ keywords)
    (file : Option String) {a : Reading} (hallows : a.stage.allows role = true)
    (hdone : role = .translation → a.stage.isDone = false) (part : List Char) :
    Reads file [label.toList ++ ' ' :: quoted part] a
      { a.fresh with current := role.set part a.fresh.current, stage := .after role } True := by
  have happly : a.apply? role false (quoted part) =
      some { a.fresh with current := role.set part a.fresh.current, stage := .after role } := by
    unfold Reading.apply?
    rw [hallows]
    rcases mem_keywords_iff.mp h with ⟨-, rfl⟩ | ⟨-, rfl⟩ | ⟨-, rfl⟩
    · simp [Role.set, quotedPart_quoted]
    · simp [Role.set, quotedPart_quoted]
    · -- A translation starts no entry of its own.
      simp [Role.set, quotedPart_quoted, Reading.fresh_of_not_done (hdone rfl)]
  have hlabel : label.toList.head? ≠ some '#' := by
    rcases mem_keywords_iff.mp h with ⟨rfl, -⟩ | ⟨rfl, -⟩ | ⟨rfl, -⟩ <;> decide
  have hline : lineOf (trimRight (label.toList ++ ' ' :: quoted part)) =
      .role role (quoted part) := by
    rw [← List.singleton_append, ← List.append_assoc, trimRight_append_quoted, List.append_assoc]
    exact lineOf_keyword h part
  exact (Reads.of_role (plain_keyword h part) hline happly).imp fun _ => hlabel

theorem keywordRole?_quote (w : List Char) : keywordRole? ('"' :: w) = none := by
  unfold keywordRole?
  split
  case h_5 => rfl
  all_goals
    rename_i h
    have hlist := congrArg String.toList h
    simp at hlist

theorem plain_quoted (part : List Char) :
    ∃ w ws, Plain (quoted part) ('"' :: w) ws ∧
      lineOf (quoted part) = .role .continuation (quoted part) := by
  obtain ⟨w, ws, hwords⟩ := exists_words_quoted part
  refine ⟨w, ws, ?_, ?_⟩
  · constructor
    case ne_nil => exact List.cons_ne_nil _ _
    case unmarked => exact fun hhead => absurd (Option.some.inj hhead) (by decide)
    case startsBlank_eq => exact (by decide : isBlank '"' = false)
    case words_eq => exact hwords
    case used => simp
    case unbroken => exact unbroken_quoted part
  · unfold lineOf plainLine
    have hhead : (quoted part).head? = some '"' := rfl
    rw [(LineWords.of_words hwords).1, keywordRole?_quote]
    dsimp only
    rw [if_neg (by simp), if_pos hhead]
    exact quotedLine_quoted .continuation part

theorem continueEntry_set {label : String} {role : Role} (h : (label, role) ∈ keywords) (form : Int)
    (value part : List Char) (e : Entry) :
    continueEntry (.after role) form (String.ofList part) (role.set value e) =
      role.set (value ++ part) e := by
  rcases mem_keywords_iff.mp h with ⟨-, rfl⟩ | ⟨-, rfl⟩ | ⟨-, rfl⟩ <;>
    simp [continueEntry, Role.set, String.ofList_append]

theorem reads_continuation (file : Option String) {a : Reading} {role : Role} {label : String}
    (h : (label, role) ∈ keywords) (hstage : a.stage = .after role) {value : List Char} {e : Entry}
    (hcurrent : a.current = role.set value e) (part : List Char) :
    Reads file [quoted part] a { a with current := role.set (value ++ part) e } True := by
  obtain ⟨w, ws, hplain, hline⟩ := plain_quoted part
  have hallows : a.stage.allows .continuation = true := by
    rw [hstage]
    rcases mem_keywords_iff.mp h with ⟨-, rfl⟩ | ⟨-, rfl⟩ | ⟨-, rfl⟩ <;> decide
  have happly : a.apply? .continuation false (quoted part) =
      some { a with current := role.set (value ++ part) e } := by
    unfold Reading.apply?
    rw [hallows, hstage, hcurrent, quotedPart_quoted, continueEntry_set h]
    rfl
  have htrim : trimRight (quoted part) = quoted part := trimRight_append_quoted [] part
  exact (Reads.of_role hplain (by rw [htrim, hline]) happly).imp fun _ => by simp

/-- A keyword with a quoted part, and quoted lines after it, set one field of the entry. -/
theorem exists_reads_field {label : String} {role : Role} (h : (label, role) ∈ keywords)
    (file : Option String) {a : Reading} (hallows : a.stage.allows role = true)
    (hdone : role = .translation → a.stage.isDone = false) (part : List Char)
    (parts : List (List Char)) :
    ∃ b, Reads file ((label.toList ++ ' ' :: quoted part) :: parts.map quoted) a b True ∧
      b.stage = .after role ∧ b.entries = a.fresh.entries ∧
      b.current = role.set (part :: parts).flatten a.fresh.current := by
  -- The induction is from the end, where a part is appended to the value so far.
  induction parts using List.reverseRecOn with
  | nil =>
    refine ⟨_, reads_keyword h file hallows hdone part, rfl, rfl, ?_⟩
    rw [List.flatten_cons, List.flatten_nil, List.append_nil]
  | append_singleton parts next ih =>
    obtain ⟨b, hread, hstage, hentries, hcurrent⟩ := ih
    refine ⟨{ b with current := role.set ((part :: parts).flatten ++ next) a.fresh.current }, ?_,
      hstage,
      hentries, by simp⟩
    rw [List.map_append, ← List.cons_append]
    exact hread.append (reads_continuation file h hstage hcurrent next)

end Harvest.Catalog
