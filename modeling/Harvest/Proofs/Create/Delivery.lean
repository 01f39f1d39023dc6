import Harvest.Create.Run
import Harvest.Proofs.Files.Writing
import Harvest.Proofs.Jobs

/-!
# Delivering a catalog

A catalog that is not current is written to a new file in the directory of the output, and the new
file then takes the place of the old one. A delivery may fail before any of these steps. The last of
them is the only one that changes the output, and nothing can fail after it.
-/

namespace Harvest

def Session.changing (s : Session) (changes : List Files.Change) : Session :=
  { s with printed := { s.printed with changes := s.printed.changes ++ changes } }

theorem Session.changing_changing (s : Session) (first second : List Files.Change) :
    (s.changing first).changing second = s.changing (first ++ second) := by
  unfold changing
  rw [List.append_assoc]

theorem Job.gives_change_iff {change : Files.Change} {s s' : Session} {u : Unit} :
    (Job.change change).Gives s u s' ↔ s' = s.changing [change] := by
  constructor
  · rintro ⟨⟩
    rfl
  · rintro rfl
    rfl

namespace Create

open Files Text

variable {env : Environment} {output : String} {c : Catalog} {file : List String} {s s' : Session}

/-! ## Temporary files -/

/-- The temporary file beside an output is made in this place. -/
structure Temporary (env : Environment) (output : String) (file : List String) : Prop where
  below : (directoryName output).startsWith "/" = false
  place : ∃ inside, env.tree.follow [] (pathNames (directoryName output)) =
    .ok (.directory inside) ∧
    file = pathNames (directoryName output) ++ [env.naming.name inside]

theorem Temporary.exists_spare (h : Temporary env output file) :
    ∃ names name inside, file = names ++ [name] ∧ env.tree.Spare names name inside := by
  obtain ⟨inside, hfollow, hfile⟩ := h.place
  refine ⟨pathNames (directoryName output), env.naming.name inside, inside, hfile, ?_⟩
  exact ⟨env.naming.proper inside, hfollow, foldl_enter_pathNames _, env.naming.free inside⟩

theorem Temporary.takes_iff (h : Temporary env output file) (content : List UInt8) {path : String} :
    (env.tree.changed [.create file, .fill file content]).Takes path ↔ env.tree.Takes path := by
  obtain ⟨names, name, inside, hfile, hspare⟩ := h.exists_spare
  have halike := hspare.alikeBut_fill content
  rw [hfile]
  exact ⟨fun h => h.of_sameDirectories halike.symm.sameDirectories,
    fun h => h.of_sameDirectories halike.sameDirectories⟩

/-- A temporary file is made in a place that was free, and nothing else happens. -/
theorem makeTemporary_gives_iff :
    (makeTemporary env (directoryName output)).Gives s file s' ↔
      Temporary env output file ∧ s' = s.changing [.create file] := by
  unfold makeTemporary
  cases hbelow : (directoryName output).startsWith "/" with
  | true =>
    refine iff_of_false Job.not_gives_throw fun h => ?_
    rw [h.1.below] at hbelow
    cases hbelow
  | false =>
    rw [if_neg Bool.false_ne_true]
    cases hfollow : env.tree.follow [] (pathNames (directoryName output)) with
    | error fault =>
      have hnone : ¬ Temporary env output file := by
        rintro ⟨-, inside, h, -⟩
        rw [hfollow] at h
        cases h
      cases fault <;> exact iff_of_false Job.not_gives_throw fun h => hnone h.1
    | ok node =>
      cases node with
      | file content =>
        refine iff_of_false Job.not_gives_throw ?_
        rintro ⟨⟨-, inside, h, -⟩, -⟩
        rw [hfollow] at h
        cases h
      | directory inside =>
        have hplace : Temporary env output file ↔
            file = pathNames (directoryName output) ++ [env.naming.name inside] := by
          constructor
          · rintro ⟨-, found, h, hfile⟩
            rw [hfollow] at h
            cases h
            exact hfile
          · exact fun hfile => ⟨hbelow, inside, hfollow, hfile⟩
        rw [hplace]
        simp only [Job.gives_bind_iff, Job.gives_change_iff, Job.gives_pure_iff]
        constructor
        · rintro ⟨-, t, ht, hfile, hs⟩
          exact ⟨hfile, by rw [hs, ht, hfile]⟩
        · rintro ⟨hfile, hs⟩
          exact ⟨(), _, rfl, hfile, by rw [hs, hfile]⟩

variable {tree : Directory} {path : String}

theorem moveTo_gives_iff {u : Unit} :
    (moveTo tree file path).Gives s u s' ↔
      tree.Takes path ∧ s' = s.changing [.move file (pathNames path)] := by
  unfold moveTo
  dsimp only
  cases hnamed : path.isEmpty with
  | true =>
    exact iff_of_false Job.not_gives_throw fun h => h.1.named (String.isEmpty_iff.mp hnamed)
  | false =>
    rw [if_neg Bool.false_ne_true]
    cases hdirectory :
      tree.lookup (if (directoryName path).isEmpty then "." else directoryName path) with
    | error fault =>
      have hnone : ¬ tree.Takes path := by
        rintro ⟨-, ⟨inside, h⟩, -⟩
        rw [hdirectory] at h
        cases h
      cases fault <;> exact iff_of_false Job.not_gives_throw fun h => hnone h.1
    | ok node =>
      cases node with
      | file content =>
        refine iff_of_false Job.not_gives_throw ?_
        rintro ⟨⟨-, ⟨inside, h⟩, -⟩, -⟩
        rw [hdirectory] at h
        cases h
      | directory inside =>
        dsimp only
        split
        next held hheld => exact iff_of_false Job.not_gives_throw fun h => h.1.free held hheld
        next hfree =>
          rw [Job.gives_change_iff]
          exact (and_iff_right ⟨String.isEmpty_eq_false_iff.mp hnamed,
            ⟨inside, hdirectory⟩, hfree⟩).symm

/-- A file is replaced by all of the text, in three steps. -/
theorem replace_gives_iff {text : String} :
    (replace env output c).Gives s text s' ↔ c.render = .ok text ∧ env.tree.Takes output ∧
      ∃ file, Temporary env output file ∧ s' = s.changing
        [.create file, .fill file (encodeUtf8 text.toList), .move file (pathNames output)] := by
  unfold replace
  simp only [Job.gives_bind_iff, makeTemporary_gives_iff]
  cases c.render with
  | error fault => simp [Job.not_gives_throw]
  | ok rendered =>
    simp only [Job.gives_bind_iff, Job.gives_change_iff, moveTo_gives_iff, Job.gives_pure_iff,
      Except.ok.injEq]
    constructor
    · rintro ⟨file, _, ⟨hfile, rfl⟩, -, _, rfl, -, _, ⟨htakes, rfl⟩, rfl, rfl⟩
      refine ⟨rfl, (hfile.takes_iff _).mp htakes, file, hfile, ?_⟩
      rw [Session.changing_changing, Session.changing_changing]
      rfl
    · rintro ⟨rfl, htakes, file, hfile, rfl⟩
      refine ⟨file, _, ⟨hfile, rfl⟩, (), _, rfl, (), _,
        ⟨(hfile.takes_iff _).mpr htakes, rfl⟩, rfl, ?_⟩
      rw [Session.changing_changing, Session.changing_changing]
      rfl

/-- A file is current just if it can be read as a catalog that compares the same. -/
theorem isCurrent_gives_true_iff {content : List UInt8}
    (hcontent : env.tree.content? output = some content) :
    (isCurrent env output c).Gives s true s' ↔
      (∃ old, Catalog.load output content = .ok old ∧
        Catalog.compareEntries c.entries old = .same) ∧ s' = s := by
  unfold isCurrent
  rw [hcontent]
  dsimp only
  cases Catalog.load output content with
  | error fault => cases fault <;> simp [Job.not_gives_throw, Job.gives_pure_iff]
  | ok old =>
    dsimp only
    cases hcompare : Catalog.compareEntries c.entries old <;>
      simp [Job.not_gives_throw, Job.gives_pure_iff, hcompare]

theorem snd_run_isCurrent (env : Environment) (output : String) (c : Catalog) (s : Session) :
    ((ExceptT.run (isCurrent env output c)).run s).2 = s := by
  unfold isCurrent
  split
  · rfl
  · split
    · rfl
    · rfl
    · split <;> rfl

theorem isCurrent_gives {current : Bool} (h : (isCurrent env output c).Gives s current s') :
    s' = s := by
  rw [← snd_run_isCurrent env output c s, h]

variable {a : Arguments}

/-- A run either finds that its file is current and says so, or replaces it by the text of the
catalog. -/
theorem deliver_gives_iff {result : Option Delivery} :
    (deliver env a).Gives s result s' ↔ ∃ c t, (catalogOf env a).Gives s c t ∧
      ((isCurrent env a.output c).Gives t true t ∧
          (Job.say s!"No changes found - not replacing {a.output}").Gives t () s' ∧ result = none ∨
        (isCurrent env a.output c).Gives t false t ∧
          ∃ text, (replace env a.output c).Gives t text s' ∧ result = some ⟨a.output, text⟩) := by
  unfold deliver
  simp only [Job.gives_bind_iff]
  constructor
  · rintro ⟨c, t, hc, current, u, hcurrent, h⟩
    obtain rfl := isCurrent_gives hcurrent
    refine ⟨c, u, hc, ?_⟩
    cases current with
    | true =>
      obtain ⟨_, s'', hsay, h⟩ := Job.gives_bind_iff.mp h
      obtain ⟨rfl, rfl⟩ := Job.gives_pure_iff.mp h
      exact .inl ⟨hcurrent, hsay, rfl⟩
    | false =>
      obtain ⟨text, s'', htext, h⟩ := Job.gives_bind_iff.mp h
      obtain ⟨rfl, rfl⟩ := Job.gives_pure_iff.mp h
      exact .inr ⟨hcurrent, text, htext, rfl⟩
  · rintro ⟨c, t, hc, ⟨hcurrent, hsay, rfl⟩ | ⟨hcurrent, text, htext, rfl⟩⟩
    · exact ⟨c, t, hc, true, t, hcurrent,
        Job.gives_bind_iff.mpr ⟨(), s', hsay, Job.gives_pure_iff.mpr ⟨rfl, rfl⟩⟩⟩
    · exact ⟨c, t, hc, false, t, hcurrent,
        Job.gives_bind_iff.mpr ⟨text, s', htext, Job.gives_pure_iff.mpr ⟨rfl, rfl⟩⟩⟩

/-- A run delivers nothing just if the file is current, and then it says so. -/
theorem deliver_gives_none_iff {t : Session} (hcatalog : (catalogOf env a).Gives s c t) :
    (deliver env a).Gives s none s' ↔ (isCurrent env a.output c).Gives t true t ∧
      (Job.say s!"No changes found - not replacing {a.output}").Gives t () s' := by
  rw [deliver_gives_iff]
  constructor
  · rintro ⟨found, u, hfound, ⟨hcurrent, hsay, -⟩ | ⟨-, text, -, hnone⟩⟩
    · obtain ⟨rfl, rfl⟩ := hcatalog.unique hfound
      exact ⟨hcurrent, hsay⟩
    · cases hnone
  · intro ⟨hcurrent, hsay⟩
    exact ⟨c, t, hcatalog, .inl ⟨hcurrent, hsay, rfl⟩⟩

end Create

end Harvest
