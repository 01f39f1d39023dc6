import Harvest.Proofs.Announcements
import Harvest.Proofs.Create.Rerun

/-!
# The file of the catalog

A run may fail while it reads its command line or its settings, finds or reads the files, merges or
sorts their messages, compares the catalog with the one before it, or writes it. Wherever that is,
the file of the catalog is as it was: all that can be left over is a temporary file. A file that is
replaced holds the whole text of the catalog from then on, and at no time a part of it.
-/

namespace Harvest

open Files Text

/-! ## Reading changes no file -/

def anyLine : Excuses := ⟨True, True⟩

/-- A job that only tells something leaves the files as they are. -/
theorem Tells.changes {α : Type} {j : Job α} (h : Tells Session.printed anyLine false j)
    {s : Session} (hs : s.printed.Whole) :
    ((ExceptT.run j).run s).2.printed.changes = s.printed.changes :=
  (h s hs).changes

theorem Extractor.tells_extract (e : Extractor) (plugins : String → Plugin)
    (options : Options) (file : String) (content : List UInt8) :
    Tells Session.printed anyLine false (e.extract plugins options file content) := by
  have hfile : announces file.toList = true → anyLine.err := fun _ => trivial
  unfold extract
  split
  · exact Source.tells_extract hfile options 0 _
  · exact (Template.tells_extract hfile (fun _ => trivial) options e.engine).perhaps
  · exact (Template.tells_extract hfile (fun _ => trivial) options e.engine).perhaps
  · exact Zcml.tells_extract options file content
  · refine .bind_right (Plugin.tells_run hfile _ _ _ _ _ _) fun result => ?_
    dsimp only
    split
    · exact .throw _
    · exact .pure _

namespace Create

variable {env : Environment} {program : String} {words : List String} {a : Arguments} {c : Catalog}

/-- What a run that is asked for a catalog does to the files, and how it ends. -/
inductive Course (env : Environment) (a : Arguments) (o : Outcome) : Prop
  | untouched (hchanges : o.printed.changes = [])
      (hcurrent : o.failure = none →
        ∃ c s, (catalogOf env a).Gives {} c s ∧ (isCurrent env a.output c).Gives s true s)
  | leftOver (file : List String) (content : List UInt8) (hfailure : o.failure ≠ none)
      (hfile : Temporary env a.output file)
      (hchanges : o.printed.changes <+: [.create file, .fill file content])
  | replaced {c : Catalog} {s : Session} {text : String} {file : List String}
      (hfailure : o.failure = none) (hcatalog : (catalogOf env a).Gives {} c s)
      (hcurrent : (isCurrent env a.output c).Gives s false s) (hrender : c.render = .ok text)
      (htakes : env.tree.Takes a.output) (hfile : Temporary env a.output file)
      (hchanges : o.printed.changes =
        [.create file, .fill file (encodeUtf8 text.toList), .move file (pathNames a.output)])

/-- The files after the first `n` changes that a run makes. -/
def Outcome.treeAfter (o : Outcome) (before : Directory) (n : Nat) : Directory :=
  before.changed (o.printed.changes.take n)

/-- Until it is moved, only the temporary file is there in addition. -/
theorem Temporary.content?_cases {output : String} {file : List String}
    (h : Temporary env output file) {changes : List Change} {content : List UInt8}
    (hchanges : changes <+: [.create file, .fill file content]) (path : String) :
    (env.tree.changed changes).content? path = env.tree.content? path ∨
      Temporary env output (pathNames path) ∧ env.tree.content? path = none := by
  obtain ⟨names, name, inside, hfile, hspare⟩ := h.exists_spare
  by_cases hpath : pathNames path = file
  · exact .inr ⟨hpath ▸ h, hspare.content?_new (hpath.trans hfile)⟩
  · refine .inl ?_
    rw [hfile] at hchanges hpath
    have helsewhere {d : Directory} (halike : Directory.AlikeBut (names ++ [name]) env.tree d) :
        d.content? path = env.tree.content? path :=
      halike.sameDirectories.content?_eq (halike.elsewhere _ hpath)
    -- The changes so far: none, the file is made, or it is filled too.
    obtain rfl | ⟨rest, rfl, hrest⟩ := List.prefix_cons_iff.mp hchanges
    · rfl
    · obtain rfl | ⟨none, rfl, hnone⟩ := List.prefix_cons_iff.mp hrest
      · exact helsewhere hspare.alikeBut_create
      · obtain rfl := List.prefix_nil.mp hnone
        exact helsewhere (hspare.alikeBut_fill content)

/-- After any number of changes a file holds what it held before, or it is the temporary file, or it
is the output with the whole new catalog. -/
theorem Course.content?_cases {o : Outcome} (h : Course env a o) (n : Nat) (path : String) :
    (o.treeAfter env.tree n).content? path = env.tree.content? path ∨
      Temporary env a.output (pathNames path) ∧ env.tree.content? path = none ∨
      pathNames path = pathNames a.output ∧ o.failure = none ∧ o.printed.changes.length ≤ n ∧
        ∃ c s text, (catalogOf env a).Gives {} c s ∧ c.render = .ok text ∧
          (o.treeAfter env.tree n).content? path = some (encodeUtf8 text.toList) := by
  cases h with
  | untouched hchanges =>
    rw [Outcome.treeAfter, hchanges, List.take_nil]
    exact .inl rfl
  | leftOver file content _ hfile hchanges =>
    exact (hfile.content?_cases ((List.take_prefix n _).trans hchanges) path).imp_right .inl
  | @replaced c s text file hfailure hcatalog _ hrender htakes hfile hchanges =>
    unfold Outcome.treeAfter
    rw [hchanges]
    by_cases hn : 3 ≤ n
    · rw [List.take_of_length_le hn]
      obtain ⟨names, name, inside, rfl, hspare⟩ := hfile.exists_spare
      obtain hsame | ⟨hpath, hcontent⟩ := hspare.content?_move (encodeUtf8 text.toList) htakes path
      · exact .inl hsame
      · exact .inr (.inr ⟨hpath, hfailure, hn, c, s, text, hcatalog, hrender, hcontent⟩)
    · -- Nothing is moved before the last change.
      have hprefix : List.take n [Change.create file, .fill file (encodeUtf8 text.toList),
          .move file (pathNames a.output)] <+:
            [.create file, .fill file (encodeUtf8 text.toList)] :=
        List.take_prefix_take_left (by omega : n ≤ 2)
      exact (hfile.content?_cases hprefix path).imp_right .inl

end Create

end Harvest
