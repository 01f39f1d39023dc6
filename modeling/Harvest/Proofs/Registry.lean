import Harvest.Registry
import Mathlib.Logic.Relation

/-!
# Extensions and their extractors

Every extension leads to an extractor that the registry has. All that happens to a registry comes
down to two kinds of writes: an extractor under a name, and an extension for an extractor that is
there. What one write keeps is kept by every sequence of changes, also by those that stop at a fault
after some of their writes.
-/

namespace Harvest.Registry

/-! ## What one write does -/

/-- A write: an extractor, or an extension for an extractor that is there. -/
inductive Write (r : Registry) : Registry → Prop where
  | extractor (name : String) (e : Extractor) : Write r (r.insert name e)
  | extension (extension : String) {name : String} (hknown : r.has name = true) :
      Write r { r with extensions := Bindings.assign r.extensions extension name }

abbrev Evolves : Registry → Registry → Prop := Relation.ReflTransGen Write

/-- Every extension leads to an extractor that is there. -/
def Consistent (r : Registry) : Prop := ∀ entry ∈ r.extensions, r.has entry.2 = true

theorem has_iff {r : Registry} {name : String} :
    r.has name = true ↔ ∃ entry ∈ r.extractors, entry.1 = name := by
  simp [has]

theorem has_insert_self (r : Registry) (name : String) (e : Extractor) :
    (r.insert name e).has name = true := by
  rw [has_iff]
  refine ⟨(name, e), ?_, rfl⟩
  unfold insert
  split
  case isTrue hknown =>
    obtain ⟨entry, hentry, rfl⟩ := has_iff.mp hknown
    exact List.mem_map.mpr ⟨entry, hentry, by simp⟩
  case isFalse => simp

theorem has_insert_of_has {r : Registry} {other : String} (hknown : r.has other = true)
    (name : String) (e : Extractor) : (r.insert name e).has other = true := by
  obtain ⟨entry, hentry, rfl⟩ := has_iff.mp hknown
  by_cases hname : entry.1 = name
  · rw [hname]
    exact has_insert_self r name e
  · rw [has_iff]
    refine ⟨entry, ?_, rfl⟩
    unfold insert
    split
    · exact List.mem_map.mpr ⟨entry, hentry, by simp [hname]⟩
    · exact List.mem_append_left _ hentry

theorem mem_assign {b : Bindings} {name value : String} {entry : String × String}
    (h : entry ∈ Bindings.assign b name value) : entry = (name, value) ∨ entry ∈ b := by
  unfold Bindings.assign at h
  split at h
  · obtain ⟨old, hold, rfl⟩ := List.mem_map.mp h
    split
    · exact .inl rfl
    · exact .inr hold
  · have hmem := List.mem_append.mp h
    simpa [or_comm] using hmem

theorem Write.consistent {r after : Registry} (hwrite : Write r after) (h : r.Consistent) :
    after.Consistent := by
  intro entry hentry
  cases hwrite with
  | extractor name e => exact has_insert_of_has (h entry hentry) name e
  | extension extension hknown =>
    rcases mem_assign hentry with rfl | hentry
    · exact hknown
    · exact h entry hentry

theorem Evolves.consistent {r after : Registry} (hrun : Evolves r after) (h : r.Consistent) :
    after.Consistent := by
  induction hrun with
  | refl => exact h
  | tail _ hwrite ih => exact hwrite.consistent ih

/-! ## Each change is made of writes -/

theorem evolves_extensions {r : Registry} {name : String} (hknown : r.has name = true)
    (extensions : List String) :
    Evolves r { r with
      extensions := extensions.foldl
        (fun known extension => Bindings.assign known extension name) r.extensions } := by
  induction extensions generalizing r with
  | nil => exact .refl
  | cons extension extensions ih =>
    have hrest := ih (r := { r with extensions := Bindings.assign r.extensions extension name })
      hknown
    exact .head (.extension extension hknown) hrest

theorem evolves_addWith (r : Registry) (name : String) (e : Extractor) (extensions : List String) :
    Evolves r (r.addWith name e extensions) :=
  .head (.extractor name e) (evolves_extensions (has_insert_self r name e) extensions)

theorem evolves_addExtractors (r : Registry) (points : List EntryPoint) :
    Evolves r (r.addExtractors points).1 := by
  induction points generalizing r with
  | nil => exact .refl
  | cons point points ih =>
    unfold addExtractors
    split
    case h_1 => exact ih r
    case h_3 => exact (evolves_addWith r point.name _ _).trans (ih _)
    case h_4 cls _ =>
      -- The writes for the class come before the failure of its listing, if there is one.
      have hwrites := evolves_addWith r point.name cls.extractor cls.extensions
      dsimp only
      split
      · exact hwrites
      · exact hwrites.trans (ih _)
    all_goals exact .refl

theorem evolves_addPlugins (r : Registry) (points : List EntryPoint) :
    Evolves r (r.addPlugins points).1 := by
  induction points generalizing r with
  | nil => exact .refl
  | cons point points ih =>
    unfold addPlugins
    split
    · exact .refl
    · exact ih r
    · split
      · exact .head (.extractor _ _) (ih _)
      · exact .refl

theorem write_of_addExtension {r after : Registry} {extension name : String}
    (h : r.addExtension extension name = .ok after) : Write r after := by
  unfold addExtension at h
  split at h
  · cases h
    exact .extension extension ‹_›
  · cases h

theorem evolves_addExtensions (r : Registry) (entries : Bindings) :
    Evolves r (r.addExtensions entries).1 := by
  induction entries generalizing r with
  | nil => exact .refl
  | cons entry entries ih =>
    unfold addExtensions
    split
    case h_1 after hadded => exact .head (write_of_addExtension hadded) (ih after)
    case h_2 => exact .refl

theorem evolves_configureExtensions (r : Registry) (s : Settings) (place : String) :
    Evolves r (r.configureExtensions s place).registry := by
  unfold configureExtensions
  split
  · exact .refl
  · exact evolves_addExtensions r _

theorem evolves_configureExtractor (r : Registry) (s : Settings) (place name : String) :
    Evolves r (r.configureExtractor s place name).registry := by
  unfold configureExtractor
  split
  · exact .refl
  · split
    · exact .refl
    · split
      · exact .refl
      · exact .single (.extractor name _)

theorem evolves_configureExtension (r : Registry) (s : Settings) (place extension : String) :
    Evolves r (r.configureExtension s place extension).registry := by
  unfold configureExtension
  dsimp only
  split
  · exact .refl
  · split
    case h_1 after hadded => exact .single (write_of_addExtension hadded)
    case h_2 => exact .refl

theorem evolves_configureSection (r : Registry) (s : Settings) (place : String) :
    Evolves r (r.configureSection s place).registry := by
  unfold configureSection
  dsimp only
  split
  · exact evolves_configureExtensions r s place
  · split
    · exact evolves_configureExtractor r s place _
    · split
      · exact evolves_configureExtension r s place _
      · exact .refl

theorem evolves_configureSections (r : Registry) (s : Settings) (places : List String) :
    Evolves r (r.configureSections s places).registry := by
  induction places generalizing r with
  | nil => exact .refl
  | cons place places ih =>
    have hfirst := evolves_configureSection r s place
    unfold configureSections
    dsimp only
    split
    · exact hfirst
    · exact hfirst.trans (ih _)

theorem evolves_configure (r : Registry) (text : List Char) :
    Evolves r (r.configure text).registry := by
  unfold configure
  split
  · exact .refl
  · exact evolves_configureSections r _ _

/-! ## Sequences of changes -/

inductive Change where
  | extractors (points : List EntryPoint)
  | plugins (points : List EntryPoint)
  | settings (text : List Char)
  | extension (suffix name : String)
deriving DecidableEq, Repr

/-- The registry that a change leaves, be it complete or stopped by a fault. -/
def Change.apply : Change → Registry → Registry
  | .extractors points, r => (r.addExtractors points).1
  | .plugins points, r => (r.addPlugins points).1
  | .settings text, r => (r.configure text).registry
  | .extension suffix name, r => (r.addExtensions [(suffix, name)]).1

def after (changes : List Change) : Registry := changes.foldl (fun r change => change.apply r) {}

theorem Change.evolves_apply (change : Change) (r : Registry) : Evolves r (change.apply r) := by
  cases change with
  | extractors points => exact evolves_addExtractors r points
  | plugins points => exact evolves_addPlugins r points
  | settings text => exact evolves_configure r text
  | extension suffix name => exact evolves_addExtensions r [(suffix, name)]

theorem evolves_foldl (r : Registry) (changes : List Change) :
    Evolves r (changes.foldl (fun r change => change.apply r) r) := by
  induction changes generalizing r with
  | nil => exact .refl
  | cons change changes ih => exact (change.evolves_apply r).trans (ih _)

/-- Every extension leads to an extractor after any changes, finished or not. -/
theorem consistent_after (changes : List Change) : (after changes).Consistent :=
  (evolves_foldl {} changes).consistent (by simp [Consistent])

theorem isSome_lookup_iff {β : Type} {entries : List (String × β)} {name : String} :
    (entries.lookup name).isSome = true ↔ ∃ entry ∈ entries, entry.1 = name := by
  simp only [List.lookup_isSome_iff, beq_iff_eq, @eq_comm _ name]

theorem isSome_get? (r : Registry) (name : String) : (r.get? name).isSome = r.has name := by
  rw [Bool.eq_iff_iff, get?, isSome_lookup_iff, has_iff]

/-- In a consistent registry a file has an extractor as soon as its extension is known. -/
theorem Consistent.isSome_extractorFor? {r : Registry} (h : r.Consistent) (file : String) :
    (r.extractorFor? file).isSome = (r.extensions.lookup (Files.extension file)).isSome := by
  rw [extractorFor?, nameFor?]
  cases hname : r.extensions.lookup (Files.extension file) with
  | none => rfl
  | some name =>
    obtain ⟨before, rest, hsplit, -⟩ := List.lookup_eq_some_iff.mp hname
    have hknown : r.has name = true := h (Files.extension file, name) (by simp [hsplit])
    rw [Option.filter_some_pos hknown, Option.bind_some, isSome_get?, hknown]
    rfl

/-- Whatever sequence of changes a registry has been through, every extension leads to an extractor
that it has; so the files that have an extractor are those whose extension is there. -/
theorem consistent_after_changes (changes : List Change) :
    (∀ entry ∈ (after changes).extensions, (after changes).has entry.2 = true) ∧
      ∀ file : String, ((after changes).extractorFor? file).isSome = true ↔
        Files.extension file ∈ (after changes).extensions.map (·.1) := by
  have hconsistent := consistent_after changes
  refine ⟨hconsistent, fun file => ?_⟩
  rw [hconsistent.isSome_extractorFor? file, isSome_lookup_iff, List.mem_map]

end Harvest.Registry
