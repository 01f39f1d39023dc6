import Harvest.Proofs.Catalog.Merge
import Harvest.Proofs.Catalog.Recognition
import Harvest.Proofs.Create.Delivery

/-!
# Making a catalog twice

A run leaves the file of its catalog alone if that holds the same entries already. Right after a run
that wrote the file, a run over the same sources does so if the catalog is legible, no entry has a
plural and all comments are kept. Plural forms cannot be compared, and what is blank at the start or
end of a comment is not read again.
-/

namespace Harvest

namespace Catalog

/-! ## New entries -/

theorem fresh_addMessages (located : Bool) (ms : List Message) :
    Fresh (addMessages located [] ms) := by
  rw [addMessages_eq_merged]
  constructor
  case distinct =>
    rw [List.map_map]
    exact (List.map_id _).symm ▸ nodup_eraseDups _
  case untranslated =>
    intro e he
    obtain ⟨key, -, rfl⟩ := List.mem_map.mp he
    refine ⟨rfl, rfl, ?_⟩
    unfold merged gather
    split <;> simp_all

theorem Fresh.perm {entries sorted : List Entry} (h : Fresh entries) (hperm : sorted.Perm entries) :
    Fresh sorted :=
  ⟨(hperm.map _).nodup_iff.mpr h.distinct, fun e he => h.untranslated e (hperm.mem_iff.mp he)⟩

theorem Fresh.map_stripLines {entries : List Entry} (h : Fresh entries) :
    Fresh (entries.map Entry.stripLines) := by
  refine ⟨by rw [List.map_map]; exact h.distinct, fun e he => ?_⟩
  obtain ⟨e, hmem, rfl⟩ := List.mem_map.mp he
  have hentry := h.untranslated e hmem
  exact ⟨hentry.live, hentry.translation, hentry.forms⟩

theorem perm_of_sortByPlace {entries sorted : List Entry}
    (h : sortByPlace id entries = .ok sorted) :
    sorted.Perm entries := by
  obtain ⟨keyed, hkeyed, h⟩ := Except.bind_eq_ok h
  obtain rfl := Except.ok.inj h
  have hforall : List.Forall₂ (fun e pair => e = pair.2) entries keyed := by
    refine (forall₂_of_mapM_eq_ok hkeyed).imp fun e pair hpair => ?_
    obtain ⟨places, -, hpair⟩ := Except.bind_eq_ok hpair
    rw [← Except.ok.inj hpair]
  have hentries : entries = keyed.map (·.2) := by
    rwa [← List.forall₂_eq_eq_eq, List.forall₂_map_right_iff]
  rw [hentries]
  exact (List.mergeSort_perm _ _).map _

end Catalog

namespace Create

open Catalog Text

/-! ## The catalog -/

def Arguments.catalog (a : Arguments) (now : Moment) (entries : List Entry) : Catalog :=
  { header :=
      { holder := a.holder, package := some a.package, version := some a.version
        bugsAddress := a.bugsAddress, created := now }
    width := a.width
    entries := if a.lineNumbers then entries else entries.map Entry.stripLines }

/-- What is made of the messages of files: checks first, and then the catalog. -/
def finish (now : Moment) (a : Arguments) (l : Files.Listing) (ms : List Message) : Job Catalog :=
  match l.invalid with
  | some source => Job.abort s!"Invalid file type for {source}"
  | none =>
      if (distinct l.files).isEmpty then Job.abort "No files scanned, aborting"
      else if (addMessages a.located [] ms).isEmpty then do
        Job.warn "No translatable strings found, aborting"
        throw (.exit 2)
      else do
        let entries ← sorted a.order (addMessages a.located [] ms)
        return a.catalog now entries

/-- A catalog is made in four steps: settings, files, messages and entries. -/
theorem catalogOf_eq (env : Environment) (a : Arguments) :
    catalogOf env a =
      setUp env a >>= fun r => listing env a r >>= fun l =>
        messagesOf env a r (distinct l.files) >>= finish env.now a l := by
  have hcatalog (entries : List Entry) : (pure (a.catalog env.now entries) : Job Catalog) =
      pure (if a.lineNumbers then { a.catalog env.now entries with entries }
        else stripLines { a.catalog env.now entries with entries }) := by
    unfold Arguments.catalog
    split <;> rfl
  unfold catalogOf
  refine bind_congr fun r => bind_congr fun l => bind_congr fun ms => ?_
  unfold finish
  simp only [hcatalog]
  -- Nothing is done after a run has failed, so the checks may as well be nested.
  cases l.invalid with
  | some source => rfl
  | none =>
    dsimp only
    split
    · rfl
    · split <;> rfl

/-- There is a catalog if no file is missing, some file was looked at, some message was found, and
the entries can be sorted. -/
theorem finish_gives_iff {now : Moment} {a : Arguments} {l : Files.Listing} {ms : List Message}
    {s s' : Session} {c : Catalog} :
    (finish now a l ms).Gives s c s' ↔
      (l.invalid = none ∧ (distinct l.files).isEmpty = false ∧
        (addMessages a.located [] ms).isEmpty = false) ∧
      ∃ entries, (sorted a.order (addMessages a.located [] ms)).Gives s entries s' ∧
        c = a.catalog now entries := by
  unfold finish
  cases l.invalid with
  | some source => simp [Job.not_gives_abort]
  | none =>
    cases (distinct l.files).isEmpty with
    | true => simp [Job.not_gives_abort]
    | false =>
      cases (addMessages a.located [] ms).isEmpty with
      | true => simp [Job.gives_bind_iff, Job.not_gives_throw]
      | false =>
        simp only [Bool.false_eq_true, if_false, and_self, true_and, Job.gives_bind_iff,
          Job.gives_pure_iff]
        constructor
        · rintro ⟨entries, t, hsorted, hc, rfl⟩
          exact ⟨entries, hsorted, hc⟩
        · rintro ⟨entries, hsorted, hc⟩
          exact ⟨entries, s', hsorted, hc, rfl⟩

theorem sorted_gives {order : Option Order} {entries result : List Entry} {s s' : Session}
    (h : (sorted order entries).Gives s result s') : result.Perm entries ∧ s' = s := by
  unfold sorted at h
  split at h
  · obtain ⟨rfl, rfl⟩ := Job.gives_pure_iff.mp h
    exact ⟨.refl _, rfl⟩
  · split at h
    · next hsorted =>
      obtain ⟨rfl, rfl⟩ := Job.gives_pure_iff.mp h
      unfold sortByText? at hsorted
      split at hsorted
      · cases hsorted
      · obtain rfl := Option.some.inj hsorted
        exact ⟨List.mergeSort_perm _ _, rfl⟩
    · exact absurd h Job.not_gives_throw
  · split at h
    · next hsorted =>
      obtain ⟨rfl, rfl⟩ := Job.gives_pure_iff.mp h
      exact ⟨perm_of_sortByPlace hsorted, rfl⟩
    · exact absurd h Job.not_gives_throw

theorem fresh_of_catalogOf {env : Environment} {a : Arguments} {s s' : Session} {c : Catalog}
    (h : (catalogOf env a).Gives s c s') : Fresh c.entries := by
  rw [catalogOf_eq] at h
  simp only [Job.gives_bind_iff] at h
  obtain ⟨r, s₁, -, l, s₂, -, ms, s₃, -, h⟩ := h
  obtain ⟨-, entries, hsorted, rfl⟩ := finish_gives_iff.mp h
  have hfresh := (fresh_addMessages a.located ms).perm (sorted_gives hsorted).1
  unfold Arguments.catalog
  dsimp only
  split
  · exact hfresh
  · exact hfresh.map_stripLines

/-! ## The same sources -/

/-- A run finds in the later environment what it finds in this one: the same settings, the same
plugins, and the same files with the same content. -/
structure SameSources (env later : Environment) (a : Arguments) (s : Session) : Prop where
  home : later.home = env.home
  plugins : later.plugins = env.plugins
  listing : ∀ r t, (setUp env a).Gives s r t →
    Files.listSources later.tree (r.extractorFor? · |>.isSome) a.sources =
      Files.listSources env.tree (r.extractorFor? · |>.isSome) a.sources
  content : ∀ r t l u, (setUp env a).Gives s r t → (Create.listing env a r).Gives t l u →
    ∀ file ∈ l.files,
      Files.find? later.tree file a.directories = Files.find? env.tree file a.directories ∧
      ∀ path ∈ Files.find? env.tree file a.directories,
        later.tree.content? path = env.tree.content? path

theorem fileMessages_congr {env later : Environment} {a : Arguments} (r : Registry) {file : String}
    (hplugins : later.plugins = env.plugins)
    (hfind : Files.find? later.tree file a.directories = Files.find? env.tree file a.directories)
    (hcontent : ∀ path ∈ Files.find? env.tree file a.directories,
      later.tree.content? path = env.tree.content? path) :
    fileMessages later a r file = fileMessages env a r file := by
  unfold fileMessages
  rw [hfind]
  cases hpath : Files.find? env.tree file a.directories with
  | none => rfl
  | some path =>
    dsimp only
    rw [hcontent path hpath, hplugins]

theorem messagesOf_congr {env later : Environment} {a : Arguments} (r : Registry)
    {files : List String}
    (h : ∀ file ∈ files, fileMessages later a r file = fileMessages env a r file) :
    messagesOf later a r files = messagesOf env a r files := by
  induction files with
  | nil => rfl
  | cons file files ih =>
    rw [List.forall_mem_cons] at h
    rw [messagesOf, messagesOf, h.1, ih h.2]

/-- From the same sources a later run makes the same entries; only the date may differ. -/
theorem catalogOf_later {env later : Environment} {a : Arguments} {s s' : Session} {c : Catalog}
    (h : (catalogOf env a).Gives s c s') (hsame : SameSources env later a s) :
    ∃ entries, c = a.catalog env.now entries ∧
      (catalogOf later a).Gives s (a.catalog later.now entries) s' := by
  rw [catalogOf_eq] at h ⊢
  simp only [Job.gives_bind_iff] at h ⊢
  obtain ⟨r, s₁, hr, l, s₂, hl, ms, s₃, hms, h⟩ := h
  obtain ⟨hchecks, entries, hsorted, rfl⟩ := finish_gives_iff.mp h
  -- A run reads three things of its environment before it puts the catalog together.
  have hsetUp : setUp later a = setUp env a := by
    unfold setUp
    rw [hsame.home]
  have hlisting : Create.listing later a r = Create.listing env a r := by
    unfold Create.listing Files.list
    rw [hsame.listing r s₁ hr]
  have hmessages : messagesOf later a r (distinct l.files) =
      messagesOf env a r (distinct l.files) := by
    refine messagesOf_congr r fun file hfile => ?_
    rw [distinct_eq, List.mem_eraseDups] at hfile
    obtain ⟨hfind, hcontent⟩ := hsame.content r s₁ l s₂ hr hl file hfile
    exact fileMessages_congr r hsame.plugins hfind hcontent
  refine ⟨entries, rfl, r, s₁, hsetUp ▸ hr, l, s₂, hlisting ▸ hl, ms, s₃, hmessages ▸ hms, ?_⟩
  exact finish_gives_iff.mpr ⟨hchecks, entries, hsorted, rfl⟩

/-! ## A second delivery -/

/-- What is delivered is the catalog of the messages in writing. -/
theorem render_of_deliver {env : Environment} {a : Arguments} {s s' t : Session} {c : Catalog}
    {d : Delivery} (hcatalog : (catalogOf env a).Gives s c s')
    (h : (deliver env a).Gives s (some d) t) : c.render = .ok d.text := by
  obtain ⟨found, u, hfound, ⟨-, -, hnone⟩ | ⟨-, text, htext, hd⟩⟩ := deliver_gives_iff.mp h
  · cases hnone
  · obtain ⟨rfl, rfl⟩ := hcatalog.unique hfound
    obtain rfl := Option.some.inj hd
    exact (replace_gives_iff.mp htext).1

/-- A catalog with a plural is never found unchanged, since plurals cannot be compared. -/
theorem not_deliver_none_of_plural {env : Environment} {a : Arguments}
    {s s' : Session} {c : Catalog}
    (hcatalog : (catalogOf env a).Gives s c s') {e : Entry} (he : e ∈ c.entries)
    (hplural : e.plural ≠ "")
    {content : List UInt8} (hcontent : env.tree.content? a.output = some content) (t : Session) :
    ¬ (deliver env a).Gives s none t := by
  intro h
  obtain ⟨hcurrent, -⟩ := (deliver_gives_none_iff hcatalog).mp h
  obtain ⟨⟨old, -, hsame⟩, -⟩ := (isCurrent_gives_true_iff hcontent).mp hcurrent
  exact hplural (plural_eq_of_same (fresh_of_catalogOf hcatalog) hsame he)

/-- A run that wrote a catalog, and then a run that finds the same sources and that catalog: the
second never leaves it alone if there is a plural. If the catalog is legible, the second run reports
that nothing has changed, and delivers nothing, exactly if no entry has a plural and all comments
are kept. -/
theorem deliver_again_iff {env later : Environment} {a : Arguments} {s s' t : Session} {c : Catalog}
    {d : Delivery} (hcatalog : (catalogOf env a).Gives s c s')
    (hfirst : (deliver env a).Gives s (some d) t) (hsame : SameSources env later a s)
    (hwritten : later.tree.content? a.output = some (encodeUtf8 d.text.toList)) :
    ((∃ e ∈ c.entries, e.plural ≠ "") → ∀ t, ¬ (deliver later a).Gives s none t) ∧
    (c.Legible →
      ((deliver later a).Gives s none
          { s' with
            printed := { s'.printed with
              out := s'.printed.out ++ s!"No changes found - not replacing {a.output}" ++ "\n" } } ↔
        ∀ e ∈ c.entries, e.plural = "" ∧ CommentKept e.comment.toList)) := by
  have hrender := render_of_deliver hcatalog hfirst
  obtain ⟨entries, hentries, hlater⟩ := catalogOf_later hcatalog hsame
  have hsameEntries : (a.catalog later.now entries).entries = c.entries := by rw [hentries]; rfl
  constructor
  · rintro ⟨e, he, hplural⟩
    exact not_deliver_none_of_plural hlater (hsameEntries ▸ he) hplural hwritten
  · intro hlegible
    rw [deliver_gives_none_iff hlater, isCurrent_gives_true_iff hwritten, hsameEntries,
      exists_load_same_iff hrender hlegible (fresh_of_catalogOf hcatalog) a.output]
    exact ⟨fun h => h.1.1, fun h => ⟨⟨h, rfl⟩, rfl⟩⟩

/-! ## A directory with one source -/

def withSource (source : String) (rest : Files.Directory) : Environment :=
  { tree := .file "a.py" (encodeUtf8 source.toList) rest
    now := { year := 2024, month := 2, day := 29, hour := 13, minute := 5 } }

def withText (source text : String) : Environment :=
  withSource source (.file "messages.pot" (encodeUtf8 text.toList) .nil)

def sourceRun : Arguments := { sources := ["a.py"] }

theorem lookup_eq_follow {path : String} (parts : List String)
    (hparts : Files.pathParts path = parts)
    (hpath : path.toList.head?.any (· != '/') = true) (d : Files.Directory) :
    d.lookup path = d.follow [] parts := by
  have hnamed : path.isEmpty = false := by
    refine String.isEmpty_eq_false_iff.mpr ?_
    rintro rfl
    cases hpath
  have hstart : path.startsWith "/" = false := by
    rw [Bool.eq_false_iff, ne_eq, Files.startsWith_slash_iff]
    intro hslash
    rw [hslash] at hpath
    cases hpath
  unfold Files.Directory.lookup
  rw [hnamed, hstart, hparts]
  rfl

theorem lookup_withSource (source : String) (rest : Files.Directory) :
    (withSource source rest).tree.lookup "a.py" = .ok (.file (encodeUtf8 source.toList)) := by
  rw [lookup_eq_follow ["a.py"] (by decide) (by decide)]
  rfl

theorem content?_withSource (source : String) (rest : Files.Directory) :
    (withSource source rest).tree.content? "./a.py" = some (encodeUtf8 source.toList) := by
  apply Files.Directory.content?_eq_some_iff.mpr
  rw [lookup_eq_follow [".", "a.py"] (by decide) (by decide)]
  rfl

theorem content?_withText (source text : String) :
    (withText source text).tree.content? "messages.pot" = some (encodeUtf8 text.toList) := by
  apply Files.Directory.content?_eq_some_iff.mpr
  rw [lookup_eq_follow ["messages.pot"] (by decide) (by decide)]
  rfl

theorem find?_withSource (source : String) (rest : Files.Directory) :
    Files.find? (withSource source rest).tree "a.py" [] = some "./a.py" := by
  have hjoin : Files.joinPath "." "a.py" = "./a.py" := by decide +kernel
  have hfile : (withSource source rest).tree.isFile "./a.py" = true := by
    unfold Files.Directory.isFile
    rw [content?_withSource]
    rfl
  unfold Files.find? Files.findFrom
  rw [hjoin]
  exact if_pos hfile

theorem listing_withSource (source : String) (rest : Files.Directory) (r : Registry) (s : Session) :
    (listing (withSource source rest) sourceRun r).Gives s { files := ["a.py"] } s := by
  unfold listing Files.list
  simp only [sourceRun, Files.listSources, lookup_withSource]
  rfl

theorem sameSources_withSource (source : String) (rest other : Files.Directory) (s : Session) :
    SameSources (withSource source rest) (withSource source other) sourceRun s := by
  constructor
  case home => rfl
  case plugins => rfl
  case listing =>
    intro r t _
    simp only [sourceRun, Files.listSources, lookup_withSource]
  case content =>
    intro r t l u _ hl file hfile
    obtain ⟨rfl, -⟩ := hl.unique (listing_withSource source rest r t)
    obtain rfl := List.mem_singleton.mp hfile
    refine ⟨(find?_withSource source other).trans (find?_withSource source rest).symm, ?_⟩
    intro path hpath
    obtain rfl := Option.some.inj ((find?_withSource source rest).symm.trans hpath)
    rw [content?_withSource, content?_withSource]

theorem temporary_withSource (source : String) (rest : Files.Directory) :
    ∃ file, Temporary (withSource source rest) "messages.pot" file := by
  have hdirectory : Files.directoryName "messages.pot" = "" := by decide
  have hnames : Files.pathNames "" = [] := by decide
  refine ⟨_, Files.startsWith_of_notMem ?_, (withSource source rest).tree, ?_, rfl⟩
  · rw [hdirectory]
    exact List.not_mem_nil
  · rw [hdirectory, hnames, Files.Directory.follow]

theorem takes_withSource (source : String) :
    (withSource source .nil).tree.Takes "messages.pot" := by
  have hdirectory : Files.directoryName "messages.pot" = "" := by decide
  refine ⟨by decide, ⟨(withSource source .nil).tree, ?_⟩, fun inside hinside => ?_⟩
  · rw [hdirectory]
    exact (lookup_eq_follow ["."] (by decide) (by decide) _).trans rfl
  · rw [lookup_eq_follow ["messages.pot"] (by decide) (by decide)] at hinside
    cases hinside

/-- Where no output is there yet, a catalog whose entries all have texts is delivered. -/
theorem exists_first_delivery {source : String} {c : Catalog} {s s' : Session}
    (hcatalog : (catalogOf (withSource source .nil) sourceRun).Gives s c s') (hwidth : 2 < c.width)
    (htext : ∀ e ∈ c.entries, e.text.isSome) :
    ∃ d t, (deliver (withSource source .nil) sourceRun).Gives s (some d) t := by
  obtain ⟨text, hrender⟩ := exists_render (.inr hwidth) htext
  have hcurrent : (isCurrent (withSource source .nil) "messages.pot" c).Gives s' false s' := by
    unfold isCurrent Files.Directory.content?
    rw [lookup_eq_follow ["messages.pot"] (by decide) (by decide)]
    rfl
  obtain ⟨file, hfile⟩ := temporary_withSource source .nil
  obtain ⟨t, hreplaced⟩ : ∃ t,
      (replace (withSource source .nil) "messages.pot" c).Gives s' text t :=
    ⟨_, replace_gives_iff.mpr ⟨hrender, takes_withSource source, file, hfile, rfl⟩⟩
  exact ⟨_, t, deliver_gives_iff.mpr ⟨c, s', hcatalog, .inr ⟨hcurrent, text, hreplaced, rfl⟩⟩⟩

def greetings : String := "# Shown first.\n_('Hello, %s')\n_('Bye')\n_('Bye')\n"

def greetingCatalog : Catalog :=
  sourceRun.catalog (withSource greetings .nil).now
    [{ text := some "Hello, %s", flags := ["c-format"], comments := ["Shown first."]
       translatorComments := [""], occurrences := [⟨"./a.py", "2"⟩] },
     { text := some "Bye", comments := [""], translatorComments := [""]
       occurrences := [⟨"./a.py", "3"⟩, ⟨"./a.py", "4"⟩] }]

theorem legible_greetingCatalog : greetingCatalog.Legible := by
  have hplaced : greetingCatalog.entries.all (·.occurrences.all fun o =>
      o.file.toList.all (!isBlank ·) && !o.line.isEmpty && o.line.toList.all (·.isDigit)) =
          true := by
    decide
  refine ⟨⟨by decide, by decide⟩, fun e he => ?_⟩
  have hoccurrences : ∀ o ∈ e.occurrences, o.Legible := by
    intro o ho
    have ho := List.all_eq_true.mp (List.all_eq_true.mp hplaced e he) o ho
    simp only [Bool.and_eq_true, List.all_eq_true, Bool.not_eq_true',
      String.isEmpty_eq_false_iff] at ho
    exact ⟨ho.1.1, .inl ⟨ho.1.2, ho.2⟩⟩
  rcases List.mem_cons.mp he with rfl | he
  · exact ⟨by decide, by decide, by decide, by decide, by decide,
      ⟨hoccurrences, by decide⟩, by decide⟩
  · obtain rfl := List.mem_singleton.mp he
    exact ⟨by decide, by decide, by decide, by decide, by decide,
      ⟨hoccurrences, by decide⟩, by decide⟩

/-- The catalog of greetings is written once and then left alone. -/
theorem deliver_again_greetings :
    ∃ d t, (catalogOf (withSource greetings .nil) sourceRun).Gives {} greetingCatalog {} ∧
      (deliver (withSource greetings .nil) sourceRun).Gives {} (some d) t ∧
      SameSources (withSource greetings .nil) (withText greetings d.text) sourceRun {} ∧
      (withText greetings d.text).tree.content? "messages.pot" = some (encodeUtf8 d.text.toList) ∧
      greetingCatalog.Legible ∧
      (deliver (withText greetings d.text) sourceRun).Gives {} none
        { printed := { out := "No changes found - not replacing messages.pot\n" } } := by
  have hcatalog : (catalogOf (withSource greetings .nil) sourceRun).Gives {} greetingCatalog {} :=
    Prod.ext (by decide +kernel) (by decide +kernel)
  obtain ⟨d, t, hfirst⟩ := exists_first_delivery hcatalog (by decide) (by decide)
  have hsame : SameSources (withSource greetings .nil) (withText greetings d.text) sourceRun {} :=
    sameSources_withSource ..
  have hwritten := content?_withText greetings d.text
  refine ⟨d, t, hcatalog, hfirst, hsame, hwritten, legible_greetingCatalog, ?_⟩
  exact ((deliver_again_iff hcatalog hfirst hsame hwritten).2 legible_greetingCatalog).mpr
    (by decide)

def plurals : String := "ngettext('a', 'b', n)\n"

def pluralCatalog : Catalog :=
  sourceRun.catalog (withSource plurals .nil).now
    [{ text := some "a", plural := "b", forms := [(0, ""), (1, "")], comments := [""]
       translatorComments := [""], occurrences := [⟨"./a.py", "1"⟩] }]

/-- The catalog of a call with a plural is not left alone by a second run. -/
theorem deliver_again_plurals :
    ∃ d t, (deliver (withSource plurals .nil) sourceRun).Gives {} (some d) t ∧
      (withText plurals d.text).tree.content? "messages.pot" = some (encodeUtf8 d.text.toList) ∧
      ∀ u, ¬ (deliver (withText plurals d.text) sourceRun).Gives {} none u := by
  have hcatalog : (catalogOf (withSource plurals .nil) sourceRun).Gives {} pluralCatalog {} :=
    Prod.ext (by decide +kernel) (by decide +kernel)
  obtain ⟨d, t, hfirst⟩ := exists_first_delivery hcatalog (by decide) (by decide)
  have hwritten := content?_withText plurals d.text
  have hlater : (catalogOf (withText plurals d.text) sourceRun).Gives {} pluralCatalog {} := by
    obtain ⟨entries, hentries, hlater⟩ := catalogOf_later hcatalog
      (sameSources_withSource plurals .nil (.file "messages.pot" (encodeUtf8 d.text.toList) .nil)
        {})
    rw [hentries]
    exact hlater
  exact ⟨d, t, hfirst, hwritten,
    not_deliver_none_of_plural hlater (List.mem_singleton_self _) (by decide) hwritten⟩

end Create

end Harvest
