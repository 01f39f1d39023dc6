import Harvest.Files.Tree

/-!
Changes of files, which are made one after the other, and the names of files that are made.
-/

namespace Harvest.Files

inductive Change where
  | create (file : List String)
  | fill (file : List String) (content : List UInt8)
  | move (file target : List String)
deriving DecidableEq, Repr, Inhabited

def Change.apply (d : Directory) : Change → Directory
  | .create file => d.put (.file []) file
  | .fill file content => d.put (.file content) file
  | .move file target =>
      match d.follow [] file with
      | .ok node => (d.remove file).put node target
      | .error _ => d

def Directory.changed (d : Directory) (changes : List Change) : Directory :=
  changes.foldl Change.apply d

/-! Names. -/

structure IsName (name : String) : Prop where
  no_slash : '/' ∉ name.toList
  moves : ¬ (name.isEmpty || name = ".") = true
  down : name ≠ ".."

instance (name : String) : Decidable (IsName name) :=
  decidable_of_iff
    ('/' ∉ name.toList ∧ ¬ (name.isEmpty || name = ".") = true ∧ name ≠ "..")
    ⟨fun h => ⟨h.1, h.2.1, h.2.2⟩, fun h => ⟨h.no_slash, h.moves, h.down⟩⟩

/-- How a file that is made in a directory is named: as nothing else in it is. -/
structure Naming where
  name : Directory → String
  proper : ∀ d, IsName (name d)
  free : ∀ d : Directory, d.get? (name d) = none

def Directory.namesLength : Directory → Nat
  | .nil => 0
  | .file name _ rest => name.length + rest.namesLength
  | .directory name _ rest => name.length + rest.namesLength

theorem Directory.get?_of_namesLength_lt {d : Directory} {name : String}
    (h : d.namesLength < name.length) :
    d.get? name = none := by
  induction d with
  | nil => rfl
  | file other content rest ih =>
    rw [namesLength] at h
    rw [get?, if_neg (by rintro rfl; omega), ih (by omega)]
  | directory other inside rest _ ih =>
    rw [namesLength] at h
    rw [get?, if_neg (by rintro rfl; omega), ih (by omega)]

def Directory.spareName (d : Directory) : String :=
  String.ofList ('t' :: 'm' :: 'p' :: List.replicate d.namesLength '_')

theorem isName_spareName (d : Directory) : IsName d.spareName := by
  have hlist : d.spareName.toList = 't' :: 'm' :: 'p' :: List.replicate d.namesLength '_' :=
    String.toList_ofList
  constructor
  · rw [hlist]
    simp [List.mem_replicate]
  · intro h
    rw [Bool.or_eq_true, String.isEmpty_iff, decide_eq_true_eq] at h
    rcases h with h | h <;> simp [h] at hlist
  · intro h
    simp [h] at hlist

theorem get?_spareName (d : Directory) : d.get? d.spareName = none := by
  have hlength : d.spareName.length = d.namesLength + 3 := by
    rw [Directory.spareName, String.length_ofList]
    simp
  exact Directory.get?_of_namesLength_lt (by omega)

def Directory.allows (d : Directory) (name : String) : Bool :=
  decide (IsName name) && (d.get? name).isNone

/-- Takes the first of some names that may be used, or else one that is longer than all others. -/
def Naming.preferring (names : List String) : Naming where
  name d := (names.find? d.allows).getD d.spareName
  proper d := by
    cases h : names.find? d.allows with
    | none => exact isName_spareName d
    | some name =>
      have hallows := List.find?_some h
      exact of_decide_eq_true (Bool.and_eq_true_iff.mp hallows).1
  free d := by
    cases h : names.find? d.allows with
    | none => exact get?_spareName d
    | some name =>
      have hallows := List.find?_some h
      exact Option.isNone_iff_eq_none.mp (Bool.and_eq_true_iff.mp hallows).2

end Harvest.Files
