import Harvest.Files.Change
import Harvest.Proofs.Outcomes
import Harvest.Proofs.Text.Words

/-!
# Files that are changed

A path may go through directories and up again before it comes to the file that it names. A change
of a file leaves the directories where they are, so every path leads to the same place as before,
and only the paths to the file itself find something else.
-/

namespace Harvest.Files

open Text

/-! ## Entries -/

namespace Directory

theorem get?_entry (node : Node) (name : String) (rest : Directory) (other : String) :
    (node.entry name rest).get? other = if name = other then some node else rest.get? other := by
  cases node <;> rfl

theorem set_entry (held : Node) (other : String) (rest : Directory) (name : String) (node : Node) :
    (held.entry other rest).set name node =
      if name < other then node.entry name (held.entry other rest)
      else if name = other then node.entry name rest
      else held.entry other (rest.set name node) := by
  cases held <;> rfl

/-- Directories by their entries, be they files or directories. -/
@[elab_as_elim]
theorem entryInduction {motive : Directory → Prop} (nil : motive .nil)
    (entry : ∀ (held : Node) (first : String) (rest : Directory), motive rest →
      motive (held.entry first rest))
    (d : Directory) : motive d := by
  induction d with
  | nil => exact nil
  | file first content rest ih => exact entry (.file content) first rest ih
  | directory first inside rest _ ih => exact entry (.directory inside) first rest ih

theorem erase_entry (held : Node) (other : String) (rest : Directory) (name : String) :
    (held.entry other rest).erase name =
      if other = name then rest else held.entry other (rest.erase name) := by
  cases held <;> rfl

theorem get?_set (d : Directory) (name : String) (node : Node) (other : String) :
    (d.set name node).get? other = if name = other then some node else d.get? other := by
  induction d using entryInduction with
  | nil => exact get?_entry node name .nil other
  | entry held first rest ih =>
    rw [set_entry]
    split
    · rw [get?_entry node]
    · rw [get?_entry held]
      split
      next hname =>
        subst hname
        rw [get?_entry]
        split <;> rfl
      next hname =>
        rw [get?_entry, ih]
        by_cases hother : name = other
        · rw [if_neg fun hfirst => hname (hother.trans hfirst.symm), if_pos hother, if_pos hother]
        · rw [if_neg hother, if_neg hother]

theorem get?_set_self (d : Directory) (name : String) (node : Node) :
    (d.set name node).get? name = some node := by
  rw [get?_set, if_pos rfl]

theorem set_set (d : Directory) (name : String) (old new : Node) :
    (d.set name old).set name new = d.set name new := by
  have hself (rest : Directory) : (old.entry name rest).set name new = new.entry name rest := by
    rw [set_entry, if_neg (String.lt_irrefl name), if_pos rfl]
  induction d using entryInduction with
  | nil => exact hself .nil
  | entry held first rest ih =>
    rw [set_entry, set_entry]
    split
    · rw [hself]
    · split
      · rw [hself]
      · rw [set_entry, if_neg ‹_›, if_neg ‹_›, ih]

/-- A new entry that is taken away again leaves nothing behind. -/
theorem erase_set {d : Directory} {name : String} (h : d.get? name = none) (node : Node) :
    (d.set name node).erase name = d := by
  induction d using entryInduction with
  | nil => exact (erase_entry node name .nil name).trans (if_pos rfl)
  | entry held first rest ih =>
    rw [get?_entry] at h
    split at h
    · cases h
    next hfirst =>
      rw [set_entry]
      split
      · rw [erase_entry, if_pos rfl]
      · rw [if_neg (Ne.symm hfirst), erase_entry, if_neg hfirst, ih h]

end Directory

/-! ## Nodes by their names -/

/-- What stands at the end of a path of names. -/
def Node.at? : Node → List String → Option Node
  | node, [] => some node
  | .directory d, name :: names => (d.get? name).bind (·.at? names)
  | .file _, _ :: _ => none

/-- The same for everyone who reads files only: the contents of directories may differ. -/
def Node.Alike (a b : Option Node) : Prop :=
  a = b ∨ ∃ d e, a = some (.directory d) ∧ b = some (.directory e)

namespace Node

theorem at?_nil (node : Node) : node.at? [] = some node := by
  cases node <;> rfl

theorem at?_append (node : Node) (names more : List String) :
    node.at? (names ++ more) = (node.at? names).bind (·.at? more) := by
  induction names generalizing node with
  | nil => rw [at?_nil]; rfl
  | cons name names ih =>
    cases node with
    | file content => rfl
    | directory d =>
      rw [List.cons_append, at?, at?, Option.bind_assoc]
      exact Option.bind_congr fun inside _ => ih inside

theorem at?_concat {node : Node} {names : List String} {here : Directory}
    (h : node.at? names = some (.directory here)) (name : String) :
    node.at? (names ++ [name]) = here.get? name := by
  rw [at?_append, h, Option.bind_some, at?]
  cases here.get? name with
  | none => rfl
  | some inside => exact at?_nil inside

theorem at?_cons_of_not_directory {d : Directory} {name : String}
    (h : ∀ e, d.get? name ≠ some (.directory e))
    {names : List String} (hnames : names ≠ []) : (directory d).at? (name :: names) = none := by
  obtain ⟨next, names, rfl⟩ := List.exists_cons_of_ne_nil hnames
  rw [at?]
  cases hget : d.get? name with
  | none => rfl
  | some node =>
    cases node with
    | file content => rfl
    | directory e => exact absurd hget (h e)

namespace Alike

variable {a b : Option Node}

theorem refl (a : Option Node) : Alike a a := .inl rfl

theorem directory_iff (h : Alike a b) :
    (∃ d, a = some (.directory d)) ↔ ∃ d, b = some (.directory d) := by
  obtain rfl | ⟨d, e, rfl, rfl⟩ := h
  · exact Iff.rfl
  · exact iff_of_true ⟨d, rfl⟩ ⟨e, rfl⟩

theorem symm (h : Alike a b) : Alike b a := by
  obtain rfl | ⟨d, e, hd, he⟩ := h
  · exact .refl a
  · exact .inr ⟨e, d, he, hd⟩

theorem trans {c : Option Node} (h : Alike a b) (h' : Alike b c) : Alike a c := by
  obtain rfl | ⟨d, e, rfl, rfl⟩ := h
  · exact h'
  · obtain ⟨f, hf⟩ := h'.directory_iff.mp ⟨e, rfl⟩
    exact .inr ⟨d, f, rfl, hf⟩

theorem file_iff (h : Alike a b) (content : List UInt8) :
    a = some (.file content) ↔ b = some (.file content) := by
  obtain rfl | ⟨d, e, rfl, rfl⟩ := h
  · exact Iff.rfl
  · simp

end Alike

end Node

namespace Directory

variable {root inside : Directory} {names : List String} {name : String}

/-! ## Trees that differ in one file -/

/-- The second tree has `inside'` where the first one has `inside`, and is like it otherwise. -/
inductive Replaced (inside inside' : Directory) : List String → Directory → Directory → Prop
  | here : Replaced inside inside' [] inside inside'
  | into {first : String} {names : List String} {root d d' : Directory}
      (hget : root.get? first = some (.directory d)) (h : Replaced inside inside' names d d') :
      Replaced inside inside' (first :: names) root (root.set first (.directory d'))

/-- The trees differ at most in the file at this place, which may be in one of them only. -/
structure AlikeBut (place : List String) (d e : Directory) : Prop where
  elsewhere : ∀ names, names ≠ place →
    Node.Alike ((Node.directory d).at? names) ((Node.directory e).at? names)
  left : ∀ inside, (Node.directory d).at? place ≠ some (.directory inside)
  right : ∀ inside, (Node.directory e).at? place ≠ some (.directory inside)

def SameDirectories (d e : Directory) : Prop := ∀ names,
  (∃ inside, (Node.directory d).at? names = some (.directory inside)) ↔
    ∃ inside, (Node.directory e).at? names = some (.directory inside)

theorem SameDirectories.symm {d e : Directory} (h : d.SameDirectories e) : e.SameDirectories d :=
  fun names => (h names).symm

theorem SameDirectories.of_alike {d e : Directory} (h : ∀ names,
      Node.Alike ((Node.directory d).at? names) ((Node.directory e).at? names)) :
    d.SameDirectories e :=
  fun names => (h names).directory_iff

theorem put_cons (node : Node) (first : String) (names : List String)
    (name : String) (d : Directory) :
    put node (first :: (names ++ [name])) d =
      d.set first (.directory (put node (names ++ [name]) (d.inside first))) := by
  cases names <;> rfl

theorem remove_cons (first : String) (names : List String) (name : String) (d : Directory) :
    remove (first :: (names ++ [name])) d =
      match d.get? first with
      | some (.directory inside) => d.set first (.directory (remove (names ++ [name]) inside))
      | _ => d := by
  cases names <;> rfl

theorem exists_directory_of_at?_cons {first : String}
    (h : (Node.directory root).at? (first :: names) = some (.directory inside)) :
    ∃ d, root.get? first = some (.directory d) ∧
      (Node.directory d).at? names = some (.directory inside) := by
  obtain ⟨held, hheld, h⟩ := Option.bind_eq_some_iff.mp h
  cases held with
  | file content => cases names <;> cases h
  | directory d => exact ⟨d, hheld, h⟩

namespace Replaced

variable {inside' root' : Directory}

theorem put (h : (Node.directory root).at? names = some (.directory inside)) (name : String)
    (node : Node) :
    Replaced inside (inside.set name node) names root (root.put node (names ++ [name])) := by
  induction names generalizing root with
  | nil =>
    obtain rfl : root = inside := by simpa [Node.at?_nil] using h
    exact .here
  | cons first names ih =>
    obtain ⟨d, hget, hd⟩ := exists_directory_of_at?_cons h
    rw [List.cons_append, put_cons, Directory.inside, hget]
    exact .into hget (ih hd)

theorem remove (h : (Node.directory root).at? names = some (.directory inside)) (name : String) :
    Replaced inside (inside.erase name) names root (root.remove (names ++ [name])) := by
  induction names generalizing root with
  | nil =>
    obtain rfl : root = inside := by simpa [Node.at?_nil] using h
    exact .here
  | cons first names ih =>
    obtain ⟨d, hget, hd⟩ := exists_directory_of_at?_cons h
    rw [List.cons_append, remove_cons, hget]
    exact .into hget (ih hd)

theorem at?_left (h : Replaced inside inside' names root root') :
    (Node.directory root).at? names = some (.directory inside) := by
  induction h with
  | here => rfl
  | into hget _ ih => rw [Node.at?, hget, Option.bind_some, ih]

theorem at?_right (h : Replaced inside inside' names root root') :
    (Node.directory root').at? names = some (.directory inside') := by
  induction h with
  | here => rfl
  | into _ _ ih => rw [Node.at?, get?_set_self, Option.bind_some, ih]

variable (hsame : ∀ other, name ≠ other → inside'.get? other = inside.get? other)
  (hfile : ∀ d, inside.get? name ≠ some (.directory d))
  (hfile' : ∀ d, inside'.get? name ≠ some (.directory d))
include hsame hfile hfile'

theorem alike (h : Replaced inside inside' names root root') {others : List String}
    (hothers : others ≠ names ++ [name]) :
    Node.Alike ((Node.directory root).at? others) ((Node.directory root').at? others) := by
  induction h generalizing others with
  | here =>
    cases others with
    | nil => exact .inr ⟨inside, inside', rfl, rfl⟩
    | cons other others =>
      by_cases hname : name = other
      · -- Nothing stands below a file.
        subst hname
        have hbelow : others ≠ [] := fun hnil => hothers (by rw [hnil, List.nil_append])
        rw [Node.at?_cons_of_not_directory hfile hbelow,
          Node.at?_cons_of_not_directory hfile' hbelow]
        exact .refl none
      · rw [Node.at?, Node.at?, hsame other hname]
        exact .refl _
  | @into first names root d d' hget _ ih =>
    cases others with
    | nil => exact .inr ⟨root, _, rfl, rfl⟩
    | cons other others =>
      rw [Node.at?, Node.at?, get?_set]
      split
      next hfirst =>
        subst hfirst
        rw [hget, Option.bind_some, Option.bind_some]
        exact ih fun heq => hothers (by rw [heq, List.cons_append])
      next => exact .refl _

theorem alikeBut (h : Replaced inside inside' names root root') :
    AlikeBut (names ++ [name]) root root' := by
  refine ⟨fun _ hothers => h.alike hsame hfile hfile' hothers, ?_, ?_⟩
  · rw [Node.at?_concat h.at?_left]
    exact hfile
  · rw [Node.at?_concat h.at?_right]
    exact hfile'

end Replaced

namespace AlikeBut

variable {d e f : Directory} {place : List String}

theorem symm (h : AlikeBut place d e) : AlikeBut place e d :=
  ⟨fun names hnames => (h.elsewhere names hnames).symm, h.right, h.left⟩

theorem trans (h : AlikeBut place d e) (h' : AlikeBut place e f) : AlikeBut place d f :=
  ⟨fun names hnames => (h.elsewhere names hnames).trans (h'.elsewhere names hnames), h.left,
    h'.right⟩

theorem sameDirectories (h : AlikeBut place d e) : d.SameDirectories e := by
  intro names
  by_cases hnames : names = place
  · subst hnames
    exact iff_of_false (not_exists.mpr h.left) (not_exists.mpr h.right)
  · exact (h.elsewhere names hnames).directory_iff

theorem of_alike (halike : ∀ names,
      Node.Alike ((Node.directory d).at? names) ((Node.directory e).at? names))
    (h : AlikeBut place e f) : AlikeBut place d f := by
  refine ⟨fun names hnames => (halike names).trans (h.elsewhere names hnames), ?_, h.right⟩
  exact not_exists.mp fun hd => not_exists.mpr h.left ((halike place).directory_iff.mp hd)

theorem alike_of_at?_eq (h : AlikeBut place d e)
    (hplace : (Node.directory d).at? place = (Node.directory e).at? place) (names : List String) :
    Node.Alike ((Node.directory d).at? names) ((Node.directory e).at? names) := by
  by_cases hnames : names = place
  · subst hnames
    exact .inl hplace
  · exact h.elsewhere names hnames

theorem put (h : (Node.directory d).at? names = some (.directory inside))
    (hfile : ∀ e, inside.get? name ≠ some (.directory e)) (content : List UInt8) :
    AlikeBut (names ++ [name]) d (d.put (.file content) (names ++ [name])) :=
  (Replaced.put h name (.file content)).alikeBut
    (fun other hother => by rw [get?_set, if_neg hother]) hfile (by simp [get?_set_self])

end AlikeBut

/-! ## Following a path -/

/-- From the root these names, the last one first, lead to `here`, through the directories
`outer`. -/
inductive At (root : Directory) : List String → List Directory → Directory → Prop
  | root : At root [] [] root
  | into {names : List String} {outer : List Directory} {here inside : Directory} {name : String}
      (h : At root names outer here) (hname : here.get? name = some (.directory inside)) :
      At root (name :: names) (here :: outer) inside

/-- The names that lead on, the last one first, after one more part of a path. -/
def enter (names : List String) (part : String) : List String :=
  if part.isEmpty || part = "." then names
  else if part = ".." then names.tail
  else part :: names

variable {root' here here' : Directory} {outer outer' : List Directory} {parts : List String}
  {part : String} {place : List String} {content : List UInt8}

theorem At.at? (h : At root names outer here) :
    (Node.directory root).at? names.reverse = some (.directory here) := by
  induction h with
  | root => rfl
  | into _ hname ih => rw [List.reverse_cons, Node.at?_concat ih, hname]

theorem At.get?_eq (h : At root names outer here) (name : String) :
    here.get? name = (Node.directory root).at? (name :: names).reverse := by
  rw [List.reverse_cons, Node.at?_concat h.at?]

theorem enter_stay (h : (part.isEmpty || part = ".") = true) : enter names part = names := if_pos h

/-- Names that go down are all kept. -/
theorem foldl_enter {names : List String}
    (h : ∀ name ∈ names, ∀ outer, enter outer name = name :: outer)
    (outer : List String) : names.foldl enter outer = names.reverse ++ outer := by
  induction names generalizing outer with
  | nil => rfl
  | cons name names ih =>
    rw [List.forall_mem_cons] at h
    rw [List.foldl_cons, h.1, ih h.2, List.reverse_cons, List.append_assoc]
    rfl

theorem follow_stay (h : (part.isEmpty || part = ".") = true) :
    follow outer here (part :: parts) = follow outer here parts := by
  rw [follow.eq_def]
  exact if_pos h

section Moving

variable (hstay : ¬ (part.isEmpty || part = ".") = true)
include hstay

theorem enter_up (hup : part = "..") : enter names part = names.tail := by
  rw [enter, if_neg hstay, if_pos hup]

theorem follow_up (hup : part = "..") (up : Directory) :
    follow (up :: outer) here (part :: parts) = follow outer up parts := by
  rw [follow, if_neg hstay, if_pos hup]

theorem follow_out (hup : part = "..") : follow [] here (part :: parts) = .error .missing := by
  rw [follow, if_neg hstay, if_pos hup]

variable (hup : part ≠ "..")
include hup

theorem enter_down : enter names part = part :: names := by
  rw [enter, if_neg hstay, if_neg hup]

theorem follow_down (h : here.get? part = some (.directory inside)) :
    follow outer here (part :: parts) = follow (here :: outer) inside parts := by
  rw [follow.eq_def]
  dsimp only
  rw [if_neg hstay, if_neg hup, h]

theorem toOption_follow_of_not_directory (h : ∀ d, here.get? part ≠ some (.directory d)) :
    (follow outer here (part :: parts)).toOption =
      if parts.isEmpty then here.get? part else none := by
  rw [follow.eq_def]
  dsimp only
  rw [if_neg hstay, if_neg hup]
  cases hget : here.get? part with
  | none => cases parts <;> rfl
  | some node =>
    cases node with
    | file content => cases parts <;> rfl
    | directory d => exact absurd hget (h d)

theorem toOption_follow_singleton : (follow outer here [part]).toOption = here.get? part := by
  by_cases h : ∃ d, here.get? part = some (.directory d)
  · obtain ⟨d, hd⟩ := h
    rw [follow_down hstay hup hd, follow, hd]
    rfl
  · exact toOption_follow_of_not_directory hstay hup (not_exists.mp h)

end Moving

theorem enter_of_mem_foldl {names : List String}
    (h : ∀ name ∈ names, ∀ outer, enter outer name = name :: outer)
    (parts : List String) :
    ∀ name ∈ parts.foldl enter names, ∀ outer, enter outer name = name :: outer := by
  induction parts generalizing names with
  | nil => exact h
  | cons part parts ih =>
    rw [List.foldl_cons]
    by_cases hstay : (part.isEmpty || part = ".") = true
    · rw [enter_stay hstay]
      exact ih h
    by_cases hup : part = ".."
    · rw [enter_up hstay hup]
      exact ih fun name hname => h name (List.mem_of_mem_tail hname)
    · rw [enter_down hstay hup]
      exact ih (List.forall_mem_cons.mpr ⟨fun outer => enter_down hstay hup, h⟩)

theorem At.up {up : Directory} (h : At root names (up :: outer) here) :
    At root names.tail outer up := by
  cases h with
  | into h _ => exact h

theorem At.names_eq_nil (h : At root names [] here) : names = [] := by
  cases h
  rfl

theorem At.of_follow (hat : At root names outer here)
    (h : follow outer here parts = .ok (.directory inside)) :
    ∃ around, At root (parts.foldl enter names) around inside ∧
      ∀ more, follow outer here (parts ++ more) = follow around inside more := by
  induction parts generalizing names outer here with
  | nil =>
    rw [follow] at h
    cases h
    exact ⟨outer, hat, fun more => rfl⟩
  | cons part parts ih =>
    simp only [List.foldl_cons, List.cons_append]
    by_cases hstay : (part.isEmpty || part = ".") = true
    · simp only [follow_stay hstay, enter_stay hstay] at h ⊢
      exact ih hat h
    by_cases hup : part = ".."
    · cases outer with
      | nil =>
        rw [follow_out hstay hup] at h
        cases h
      | cons up outer =>
        simp only [follow_up hstay hup, enter_up hstay hup] at h ⊢
        exact ih hat.up h
    · by_cases hdown : ∃ d, here.get? part = some (.directory d)
      · obtain ⟨d, hd⟩ := hdown
        simp only [follow_down hstay hup hd, enter_down hstay hup] at h ⊢
        exact ih (hat.into hd) h
      · -- A file is no directory, and nothing stands below it.
        have hend : (follow outer here (part :: parts)).toOption = _ :=
          toOption_follow_of_not_directory hstay hup (not_exists.mp hdown)
        rw [h] at hend
        split at hend
        · exact absurd ⟨inside, hend.symm⟩ hdown
        · cases hend

/-- A path that leads somewhere leads, in a tree with the same directories, to what stands there by
its names. -/
theorem At.toOption_follow (hat : At root names outer here) (hat' : At root' names outer' here')
    (hsame : root.SameDirectories root') {node : Node} (h : follow outer here parts = .ok node) :
    (follow outer' here' parts).toOption =
      (Node.directory root').at? (parts.foldl enter names).reverse := by
  induction parts generalizing names outer here outer' here' with
  | nil => exact hat'.at?.symm
  | cons part parts ih =>
    rw [List.foldl_cons]
    by_cases hstay : (part.isEmpty || part = ".") = true
    · rw [follow_stay hstay] at h ⊢
      rw [enter_stay hstay]
      exact ih hat hat' h
    -- Both walks are at the same names, so they go up to the same directory.
    by_cases hup : part = ".."
    · cases hat with
      | root =>
        rw [follow_out hstay hup] at h
        cases h
      | into hat _ =>
        cases hat' with
        | into hat' _ =>
          rw [follow_up hstay hup] at h ⊢
          rw [enter_up hstay hup]
          exact ih hat hat' h
    rw [enter_down hstay hup]
    by_cases hdown : ∃ d, here.get? part = some (.directory d)
    · obtain ⟨d, hd⟩ := hdown
      obtain ⟨d', hd'⟩ := (hsame _).mp ⟨d, hat.get?_eq part ▸ hd⟩
      rw [← hat'.get?_eq] at hd'
      rw [follow_down hstay hup hd] at h
      rw [follow_down hstay hup hd']
      exact ih (hat.into hd) (hat'.into hd') h
    · -- A file stands only at the end of a path.
      have hend : (follow outer here (part :: parts)).toOption = _ :=
        toOption_follow_of_not_directory hstay hup (not_exists.mp hdown)
      rw [h] at hend
      cases parts with
      | nil => rw [toOption_follow_singleton hstay hup, hat'.get?_eq, List.foldl_nil]
      | cons next parts => cases hend

end Directory

/-! ## Paths and their directories -/

theorem pathNames_eq (path : String) :
    pathNames path = ((pathParts path).foldl Directory.enter []).reverse := rfl

/-- The names on a path lead to where the path leads. -/
theorem foldl_enter_pathNames (path : String) :
    ((pathNames path).foldl Directory.enter []).reverse = pathNames path := by
  have hdown := Directory.enter_of_mem_foldl (List.forall_mem_nil _) (pathParts path)
  rw [Directory.foldl_enter fun name hname => hdown name ?_, List.append_nil, List.reverse_reverse]
  rwa [pathNames_eq, List.mem_reverse] at hname

theorem startsWith_slash_iff {s : String} :
    s.startsWith "/" = true ↔ s.toList.head? = some '/' := by
  rw [String.startsWith_string_iff]
  cases s.toList <;> simp [eq_comm]

theorem startsWith_of_notMem {s : String} (h : '/' ∉ s.toList) : s.startsWith "/" = false := by
  rw [Bool.eq_false_iff, ne_eq, startsWith_slash_iff]
  exact fun hhead => h (List.mem_of_mem_head? hhead)

/-- A path is a name, or it starts with slashes only, or a directory stands before slashes and a
name. -/
theorem directoryName_cases (path : String) :
    directoryName path = "" ∧ '/' ∉ path.toList ∨ (directoryName path).startsWith "/" = true ∨
      directoryName path ≠ "" ∧ ∃ n base, '/' ∉ base ∧
        path.toList = (directoryName path).toList ++ '/' :: (List.replicate n '/' ++ base) := by
  obtain ⟨base, hbase, hpath⟩ := exists_trimRightOf_append (· != '/') path.toList
  have hbase : '/' ∉ base := fun h => by simpa using hbase _ h
  have hname : directoryName path =
      String.ofList (if (trimRightOf (· == '/') (trimRightOf (· != '/') path.toList)).isEmpty then
        trimRightOf (· != '/') path.toList else trimRightOf (· == '/')
          (trimRightOf (· != '/') path.toList)) := rfl
  generalize hhead : trimRightOf (· != '/') path.toList = head at hpath hname
  obtain ⟨slashes, hslashes, hsplit⟩ := exists_trimRightOf_append (· == '/') head
  generalize htrimmed : trimRightOf (· == '/') head = trimmed at hname hsplit
  by_cases hempty : head = []
  · subst hempty
    subst htrimmed
    exact .inl ⟨hname, hpath ▸ hbase⟩
  -- What stands before the name ends with a slash.
  have hslash : head.getLast hempty = '/' := by
    subst hhead
    simpa using trimRightOf_last (· != '/') path.toList hempty
  obtain ⟨n, hn⟩ : ∃ n, slashes = List.replicate (n + 1) '/' := by
    cases slashes with
    | nil =>
      rw [List.append_nil] at hsplit
      have hlast := trimRightOf_last (· == '/') head (by rwa [htrimmed, ← hsplit])
      simp [htrimmed, ← hsplit, hslash] at hlast
    | cons c cs =>
      exact ⟨cs.length, List.eq_replicate_of_mem fun c hc => by simpa using hslashes c hc⟩
  subst hn
  by_cases hnone : trimmed = []
  · refine .inr (.inl ?_)
    rw [hname, hnone, hsplit, hnone, String.startsWith_string_iff]
    exact ⟨List.replicate n '/', by simp [List.replicate_succ]⟩
  · have hdirectory : directoryName path = String.ofList trimmed := by simpa [hnone] using hname
    refine .inr (.inr ⟨by simpa [hdirectory] using hnone, n, base, hbase, ?_⟩)
    rw [hpath, hsplit, hdirectory, String.toList_ofList]
    simp [List.replicate_succ]

namespace Directory

theorem follow_replicate_empty (outer : List Directory) (here : Directory) (n : Nat) :
    follow outer here (List.replicate n "") = .ok (.directory here) := by
  induction n with
  | zero => rw [List.replicate_zero, follow]
  | succ n ih => rw [List.replicate_succ, follow_stay (by decide), ih]

/-- A path leads to something if it is relative and its parts do. -/
theorem lookup_eq_ok_iff {d : Directory} {path : String} {node : Node} :
    d.lookup path = .ok node ↔
      path ≠ "" ∧ path.startsWith "/" = false ∧ d.follow [] (pathParts path) = .ok node := by
  unfold lookup
  rw [← String.isEmpty_eq_false_iff]
  cases path.isEmpty <;> cases path.startsWith "/" <;> simp

theorem content?_eq_some_iff {d : Directory} {path : String} {content : List UInt8} :
    d.content? path = some content ↔ d.lookup path = .ok (.file content) := by
  unfold content?
  split <;> simp_all

theorem content?_eq_some_iff_follow {d : Directory} {path : String} {content : List UInt8} :
    d.content? path = some content ↔ path ≠ "" ∧ path.startsWith "/" = false ∧
      (d.follow [] (pathParts path)).toOption = some (.file content) := by
  rw [content?_eq_some_iff, lookup_eq_ok_iff, toOption_eq_some_iff]

theorem exists_parts {d inside : Directory} {path : String}
    (h : d.lookup (if (directoryName path).isEmpty then "." else directoryName path) =
      .ok (.directory inside)) :
    path.startsWith "/" = false ∧
      ∃ parts base, pathParts path = parts ++ [base] ∧
        d.follow [] parts = .ok (.directory inside) := by
  obtain ⟨hname, hslash⟩ | hstart | ⟨hname, n, base, hbase, hpath⟩ := directoryName_cases path
  · have hhere : d.follow [] ["."] = .ok (.directory inside) := by
      rw [hname] at h
      exact (lookup_eq_ok_iff.mp h).2.2
    rw [follow_stay (by decide), follow] at hhere
    refine ⟨startsWith_of_notMem hslash, [], path, ?_, by rw [follow, hhere]⟩
    rw [pathParts, List.splitOn_eq_singleton hslash, List.map_singleton, String.ofList_toList]
    rfl
  · have hne : directoryName path ≠ "" := fun hnone => by simp [hnone] at hstart
    rw [if_neg (by simpa using hne), lookup_eq_ok_iff, hstart] at h
    cases h.2.1
  · rw [if_neg (by simpa using hname), lookup_eq_ok_iff] at h
    obtain ⟨-, hstart, hfollow⟩ := h
    obtain ⟨around, hat, hmore⟩ := At.root.of_follow hfollow
    refine ⟨?_, pathParts (directoryName path) ++ List.replicate n "", String.ofList base, ?_, ?_⟩
    · rw [Bool.eq_false_iff, ne_eq, startsWith_slash_iff] at hstart ⊢
      rw [hpath]
      cases hlist : (directoryName path).toList with
      | nil => exact absurd (by simpa using hlist) hname
      | cons c cs => simpa [hlist] using hstart
    · rw [pathParts, hpath, List.splitOn_append_cons_self, splitOn_replicate_append,
        List.splitOn_eq_singleton hbase]
      simp [pathParts]
    · rw [hmore, follow_replicate_empty]

/-! ## Reading after a change -/

variable {d e inside : Directory} {path base : String} {parts place : List String}
    {content : List UInt8}

theorem at?_of_content? (h : d.content? path = some content) :
    (Node.directory d).at? (pathNames path) = some (.file content) := by
  obtain ⟨-, -, hfollow⟩ := content?_eq_some_iff_follow.mp h
  have hat := At.toOption_follow .root .root (fun _ => Iff.rfl) (toOption_eq_some_iff.mp hfollow)
  rw [pathNames_eq, ← hat, hfollow]

theorem content?_eq_none_of_at? (h : (Node.directory d).at? (pathNames path) = none) :
    d.content? path = none := by
  refine Option.eq_none_iff_forall_ne_some.mpr fun content hcontent => ?_
  rw [at?_of_content? hcontent] at h
  cases h

namespace SameDirectories

variable (h : d.SameDirectories e)
include h

theorem content?_of_at? {old : List UInt8} (hpath : d.content? path = some old)
    (hfile : (Node.directory e).at? (pathNames path) = some (.file content)) :
    e.content? path = some content := by
  obtain ⟨hnamed, hstart, hfollow⟩ := content?_eq_some_iff_follow.mp hpath
  refine content?_eq_some_iff_follow.mpr ⟨hnamed, hstart, ?_⟩
  rw [← hfile, pathNames_eq]
  exact At.toOption_follow .root .root h (toOption_eq_some_iff.mp hfollow)

theorem lookup_directory (hlookup : d.lookup path = .ok (.directory inside)) :
    ∃ inside', e.lookup path = .ok (.directory inside') := by
  obtain ⟨hnamed, hstart, hfollow⟩ := lookup_eq_ok_iff.mp hlookup
  obtain ⟨_, hat, -⟩ := At.root.of_follow hfollow
  obtain ⟨inside', hinside'⟩ := (h _).mp ⟨inside, hat.at?⟩
  have hback := At.toOption_follow .root .root h hfollow
  rw [hinside', toOption_eq_some_iff] at hback
  exact ⟨inside', lookup_eq_ok_iff.mpr ⟨hnamed, hstart, hback⟩⟩

theorem content?_eq (hpath : Node.Alike ((Node.directory d).at? (pathNames path))
      ((Node.directory e).at? (pathNames path))) :
    e.content? path = d.content? path := by
  refine Option.ext fun content => ⟨fun he => ?_, fun hd => ?_⟩
  · exact h.symm.content?_of_at? he ((hpath.file_iff content).mpr (at?_of_content? he))
  · exact h.content?_of_at? hd ((hpath.file_iff content).mp (at?_of_content? hd))

end SameDirectories

/-- A path reads the same in both trees unless it leads to the one place. -/
theorem AlikeBut.content?_cases (h : AlikeBut place d e)
    (hfile : (Node.directory e).at? place = some (.file content)) (path : String) :
    e.content? path = d.content? path ∨ pathNames path = place ∧
      e.content? path = some content := by
  by_cases hpath : pathNames path = place
  · subst hpath
    cases he : e.content? path with
    | some found =>
      have hfound := at?_of_content? he
      rw [hfile] at hfound
      cases hfound
      exact .inr ⟨rfl, rfl⟩
    | none =>
      -- A path that led there before would lead there still.
      refine .inl (Option.eq_none_iff_forall_ne_some.mpr fun old hold => ?_).symm
      rw [h.sameDirectories.content?_of_at? hold hfile] at he
      cases he
  · exact .inl (h.sameDirectories.content?_eq (h.elsewhere _ hpath))

/-- The parts of a path lead to the directory `inside`, in which a file may have the name `base`. -/
structure Ends (d : Directory) (parts : List String) (base : String) (inside : Directory) :
    Prop where
  follow : d.follow [] parts = .ok (.directory inside)
  moves : ¬ (base.isEmpty || base = ".") = true
  down : base ≠ ".."
  free : ∀ e, inside.get? base ≠ some (.directory e)

namespace Ends

variable (h : d.Ends parts base inside)
include h

theorem names :
    ((parts ++ [base]).foldl enter []).reverse = (parts.foldl enter []).reverse ++ [base] := by
  rw [List.foldl_append, List.foldl_cons, List.foldl_nil, enter_down h.moves h.down,
    List.reverse_cons]

theorem at? : (Node.directory d).at? (parts.foldl enter []).reverse = some (.directory inside) :=
  have ⟨_, hat, _⟩ := At.root.of_follow h.follow
  hat.at?

/-- In a tree with the same directories, the end of the path is free for a file as well. -/
theorem exists_at? (hsame : d.SameDirectories e) :
    ∃ around, (Node.directory e).at? (parts.foldl enter []).reverse = some (.directory around) ∧
      ∀ f, around.get? base ≠ some (.directory f) := by
  obtain ⟨around, haround⟩ := (hsame _).mp ⟨inside, h.at?⟩
  refine ⟨around, haround, fun f hf => ?_⟩
  rw [← Node.at?_concat haround] at hf
  obtain ⟨held, hheld⟩ := (hsame _).mpr ⟨f, hf⟩
  rw [Node.at?_concat h.at?] at hheld
  exact h.free held hheld

/-- The path leads to its end in every tree that has the same directories. -/
theorem toOption_follow (hsame : d.SameDirectories e) :
    (e.follow [] (parts ++ [base])).toOption =
      (Node.directory e).at? ((parts.foldl enter []).reverse ++ [base]) := by
  obtain ⟨inside', hinside'⟩ := (hsame _).mp ⟨inside, h.at?⟩
  have hfollow := At.toOption_follow .root .root hsame h.follow
  rw [hinside', toOption_eq_some_iff] at hfollow
  obtain ⟨around, -, hmore⟩ := At.root.of_follow hfollow
  rw [hmore, toOption_follow_singleton h.moves h.down, Node.at?_concat hinside']

end Ends

/-! ## Files that are made and moved -/

/-- A file may get the end of this path as its place. -/
structure Takes (d : Directory) (path : String) : Prop where
  named : path ≠ ""
  directory : ∃ inside,
    d.lookup (if (directoryName path).isEmpty then "." else directoryName path) =
      .ok (.directory inside)
  free : ∀ inside, d.lookup path ≠ .ok (.directory inside)

theorem Takes.ends (h : d.Takes path) :
    pathNames path = [] ∨ ∃ parts base inside, pathParts path = parts ++ [base] ∧
      d.Ends parts base inside := by
  obtain ⟨inside, hinside⟩ := h.directory
  obtain ⟨hstart, parts, base, hparts, hfollow⟩ := exists_parts hinside
  obtain ⟨around, hat, hmore⟩ := At.root.of_follow hfollow
  have hfree (e : Directory) : Directory.follow around inside [base] ≠ .ok (.directory e) := by
    rw [← hmore, ← hparts]
    exact fun he => h.free e (lookup_eq_ok_iff.mpr ⟨h.named, hstart, he⟩)
  by_cases hstay : (base.isEmpty || base = ".") = true
  · exact absurd (by rw [follow_stay hstay, follow]) (hfree inside)
  by_cases hup : base = ".."
  · cases around with
    | cons up outer => exact absurd (by rw [follow_up hstay hup, follow]) (hfree up)
    | nil =>
      refine .inl ?_
      rw [pathNames_eq, hparts, List.foldl_append, hat.names_eq_nil, List.foldl_cons,
        enter_up hstay hup]
      rfl
  · refine .inr ⟨parts, base, inside, hparts, hfollow, hstay, hup, fun e he => hfree e ?_⟩
    rw [follow_down hstay hup he, follow]

theorem Takes.of_sameDirectories (h : d.Takes path) (hsame : d.SameDirectories e) :
    e.Takes path := by
  obtain ⟨inside, hinside⟩ := h.directory
  refine ⟨h.named, hsame.lookup_directory hinside, fun held hheld => ?_⟩
  obtain ⟨held', hheld'⟩ := hsame.symm.lookup_directory hheld
  exact h.free held' hheld'

/-- A new file may be made in the directory at the end of these names. -/
structure Spare (d : Directory) (names : List String) (name : String) (inside : Directory) : Prop
    extends IsName name where
  follow : d.follow [] names = .ok (.directory inside)
  plain : (names.foldl enter []).reverse = names
  new : inside.get? name = none

namespace Spare

variable {names : List String} {name : String} (h : d.Spare names name inside)
    (content : List UInt8)
include h

theorem ends : d.Ends names name inside :=
  ⟨h.follow, h.moves, h.down, by simp [h.new]⟩

theorem at? : (Node.directory d).at? names = some (.directory inside) := by
  rw [← h.plain, h.ends.at?]

theorem at?_new : (Node.directory d).at? (names ++ [name]) = none := by
  rw [Node.at?_concat h.at?, h.new]

theorem content?_new (hpath : pathNames path = names ++ [name]) : d.content? path = none :=
  content?_eq_none_of_at? (by rw [hpath, h.at?_new])

theorem alikeBut_create : AlikeBut (names ++ [name]) d (d.changed [.create (names ++ [name])]) :=
  .put h.at? (by simp [h.new]) []

theorem replaced_fill :
    Replaced (inside.set name (.file [])) (inside.set name (.file content)) names
      (d.changed [.create (names ++ [name])])
      (d.changed [.create (names ++ [name]), .fill (names ++ [name]) content]) := by
  have hput := Replaced.put (Replaced.put h.at? name (.file [])).at?_right name (.file content)
  rw [set_set] at hput
  exact hput

theorem alikeBut_fill :
    AlikeBut (names ++ [name]) d
      (d.changed [.create (names ++ [name]), .fill (names ++ [name]) content]) := by
  refine h.alikeBut_create.trans ((h.replaced_fill content).alikeBut (fun other hother => ?_) ?_ ?_)
  · rw [get?_set, get?_set, if_neg hother, if_neg hother]
  · simp [get?_set_self]
  · simp [get?_set_self]

/-- The file of a temporary name is gone again once it is moved. -/
theorem alike_remove (others : List String) :
    Node.Alike ((Node.directory d).at? others)
      ((Node.directory ((d.changed
        [.create (names ++ [name]), .fill (names ++ [name]) content]).remove
          (names ++ [name]))).at? others) := by
  have hremove := Replaced.remove (h.replaced_fill content).at?_right name
  rw [erase_set h.new] at hremove
  have hfile : ∀ d, (inside.set name (.file content)).get? name ≠ some (.directory d) := by
    simp [get?_set_self]
  have hsame (other : String) (hother : name ≠ other) :
      inside.get? other = (inside.set name (.file content)).get? other := by
    rw [get?_set, if_neg hother]
  have hremoved := (h.alikeBut_fill content).trans (hremove.alikeBut hsame hfile (by simp [h.new]))
  refine hremoved.alike_of_at?_eq ?_ others
  rw [h.at?_new, Node.at?_concat hremove.at?_right, h.new]

theorem changed_move (target : List String) :
    d.changed [.create (names ++ [name]), .fill (names ++ [name]) content,
      .move (names ++ [name]) target] =
      ((d.changed [.create (names ++ [name]), .fill (names ++ [name]) content]).remove
        (names ++ [name])).put (.file content) target := by
  have hfollow := h.ends.toOption_follow (h.alikeBut_fill content).sameDirectories
  rw [h.plain, Node.at?_concat (h.replaced_fill content).at?_right, get?_set_self,
    toOption_eq_some_iff] at hfollow
  change Change.apply (d.changed [.create (names ++ [name]), .fill (names ++ [name]) content])
    (.move (names ++ [name]) target) = _
  rw [Change.apply, hfollow]

variable (hpath : d.Takes path)
include hpath

/-- A new file that is filled and then moved to the end of a path changes nothing else. -/
theorem alikeBut_move (hnames : pathNames path ≠ []) :
    let moved := d.changed [.create (names ++ [name]), .fill (names ++ [name]) content,
      .move (names ++ [name]) (pathNames path)]
    AlikeBut (pathNames path) d moved ∧
      (Node.directory moved).at? (pathNames path) = some (.file content) ∧
      moved.content? path = some content := by
  obtain hnone | ⟨parts, base, held, hparts, hends⟩ := hpath.ends
  · exact absurd hnone hnames
  dsimp only
  have hplace : pathNames path = (parts.foldl enter []).reverse ++ [base] := by
    rw [pathNames_eq, hparts, hends.names]
  have halike := h.alike_remove content
  rw [h.changed_move, hplace]
  generalize hcleared :
    (d.changed [.create (names ++ [name]), .fill (names ++ [name]) content]).remove
    (names ++ [name]) = cleared at halike
  -- The end of the path is no directory once the temporary file is gone, since it was none before.
  obtain ⟨around, haround, hfree⟩ := hends.exists_at? (.of_alike halike)
  have hat := Replaced.put haround base (.file content)
  have hmoved : AlikeBut ((parts.foldl enter []).reverse ++ [base]) d
      (cleared.put (.file content) ((parts.foldl enter []).reverse ++ [base])) :=
    .of_alike halike (.put haround hfree content)
  have hfile : (Node.directory (cleared.put (.file content)
      ((parts.foldl enter []).reverse ++ [base]))).at? ((parts.foldl enter []).reverse ++ [base]) =
        some (.file content) := by
    rw [Node.at?_concat hat.at?_right, get?_set_self]
  obtain ⟨_, hdirectory⟩ := hpath.directory
  refine ⟨hmoved, hfile,
    content?_eq_some_iff_follow.mpr ⟨hpath.named, (exists_parts hdirectory).1, ?_⟩⟩
  rw [hparts, hends.toOption_follow hmoved.sameDirectories, hfile]

/-- After the move, what was read at a path is read there still, or the path leads to the
new place. -/
theorem content?_move (other : String) :
    let moved := d.changed [.create (names ++ [name]), .fill (names ++ [name]) content,
      .move (names ++ [name]) (pathNames path)]
    moved.content? other = d.content? other ∨
      pathNames other = pathNames path ∧ moved.content? other = some content := by
  dsimp only
  by_cases hnames : pathNames path = []
  · -- The end of the path is outside of the tree.
    rw [h.changed_move, hnames]
    have halike := h.alike_remove content
    exact .inl (SameDirectories.of_alike halike |>.content?_eq (halike _))
  · obtain ⟨halike, hfile, -⟩ := h.alikeBut_move content hpath hnames
    exact halike.content?_cases hfile other

end Spare

end Directory

end Harvest.Files
