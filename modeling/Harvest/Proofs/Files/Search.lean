import Harvest.Files.Search
import Harvest.Proofs.Files.Writing

/-!
# Where a file is looked for

A file is looked for in the working directory and then in search directories in turn. Each search
directory is put in front of the path that was tried before, so from the second on a file is looked
for below the directories before it, and not in the directory itself.
-/

namespace Harvest.Files

/-- The path of the first file of this name in one of the directories. -/
def firstIn (d : Directory) (name : String) (directories : List String) : Option String :=
  (directories.map (joinPath · name)).find? d.isFile

/-- The directories that are tried: each below the next. -/
def nested (before : String) : List String → List String
  | [] => []
  | directory :: directories => joinPath directory before :: nested
      (joinPath directory before) directories

/-! ## Joined paths -/

section Joining

variable {a b directory name : String}

theorem endsWith_slash_iff {s : String} : s.endsWith "/" = true ↔ s.toList.getLast? = some '/' := by
  rw [String.endsWith_eq_endsWith_toSlice, String.Slice.endsWith_string_iff, String.copy_toSlice,
    List.getLast?_eq_some_iff]
  simp [List.IsSuffix, eq_comm]

def stem (s : List Char) : List Char := if s = [] ∨ s.getLast? = some '/' then s else s ++ ['/']

theorem toList_joinPath (hname : name.startsWith "/" = false) (directory : String) :
    (joinPath directory name).toList = stem directory.toList ++ name.toList := by
  have hstem : (directory.isEmpty || directory.endsWith "/") = true ↔
      directory.toList = [] ∨ directory.toList.getLast? = some '/' := by
    rw [Bool.or_eq_true, endsWith_slash_iff, String.isEmpty_iff, String.toList_eq_nil_iff]
  rw [joinPath, hname, if_neg Bool.false_ne_true, stem]
  by_cases h : directory.toList = [] ∨ directory.toList.getLast? = some '/'
  · rw [if_pos h, if_pos (hstem.mpr h), String.toList_append]
  · rw [if_neg h, if_neg fun hs => h (hstem.mp hs), String.toList_append, String.toList_append]
    rfl

theorem stem_stem_append (s t : List Char) : stem (stem s ++ t) = stem s ++ stem t := by
  have hends : stem s = [] ∨ (stem s).getLast? = some '/' := by
    unfold stem
    split
    · next h => exact h
    · exact .inr List.getLast?_concat
  cases t with
  | nil => rw [List.append_nil, show stem [] = [] from rfl, List.append_nil,
    stem.eq_1 (stem s), if_pos hends]
  | cons c t =>
    have hlast : (stem s ++ c :: t).getLast? = (c :: t).getLast? :=
      List.getLast?_append_of_ne_nil _ (List.cons_ne_nil c t)
    rw [stem.eq_1 (stem s ++ c :: t), stem.eq_1 (c :: t), hlast]
    simp only [List.append_eq_nil_iff, reduceCtorEq, and_false, false_or]
    split <;> simp

theorem startsWith_joinPath (hname : name.startsWith "/" = false) (directory : String) :
    (joinPath directory name).startsWith "/" = directory.startsWith "/" := by
  rw [Bool.eq_iff_iff, startsWith_slash_iff, startsWith_slash_iff, toList_joinPath hname, stem]
  cases hd : directory.toList with
  | nil => simp [← startsWith_slash_iff, hname]
  | cons c s => split <;> simp

theorem joinPath_assoc (hname : name.startsWith "/" = false) (a b : String) :
    joinPath a (joinPath b name) = joinPath (joinPath a b) name := by
  cases hb : b.startsWith "/" with
  | true =>
    have habsolute (path : String) (h : path.startsWith "/" = true) :
      joinPath a path = path := if_pos h
    rw [habsolute _ ((startsWith_joinPath hname b).trans hb), habsolute b hb]
  | false =>
    rw [← String.toList_inj, toList_joinPath ((startsWith_joinPath hname b).trans hb),
      toList_joinPath hname,
      toList_joinPath hname, toList_joinPath hb, stem_stem_append, List.append_assoc]

end Joining

theorem findFrom_joinPath {name : String} (hname : name.startsWith "/" = false)
    (d : Directory) (before : String) (directories : List String) :
    findFrom d (joinPath before name) directories = firstIn d name (nested before directories) := by
  induction directories generalizing before with
  | nil => rfl
  | cons directory directories ih =>
    rw [findFrom, nested, firstIn, List.map_cons, List.find?_cons]
    rw [joinPath_assoc hname, ih]
    cases d.isFile (joinPath (joinPath directory before) name) <;> rfl

/-- A relative name is looked for here first, and then in directories each below the next. -/
theorem find?_eq_nested {name : String} (hname : name.startsWith "/" = false) (d : Directory)
    (directories : List String) :
    find? d name directories = firstIn d name ("." :: nested "." directories) := by
  rw [find?, findFrom, firstIn, List.map_cons, List.find?_cons, findFrom_joinPath hname]
  cases d.isFile (joinPath "." name) <;> rfl

/-! ## Files below directories that are named -/

section Names

variable {d : Directory} {directory file name : String} {content : List UInt8}

theorem pathParts_joinPath (hslash : '/' ∉ directory.toList) (hne : directory ≠ "")
    (hfile : file.startsWith "/" = false) :
    pathParts (joinPath directory file) = directory :: pathParts file := by
  have hstem : stem directory.toList = directory.toList ++ ['/'] := by
    rw [stem, if_neg]
    rintro (h | h)
    · exact hne (String.toList_eq_nil_iff.mp h)
    · exact hslash (List.mem_of_getLast? h)
  rw [pathParts, toList_joinPath hfile, hstem, List.append_assoc, List.singleton_append,
    List.splitOn_append_cons_self,
    List.splitOn_eq_singleton hslash]
  simp [pathParts]

theorem content?_joinPath_iff (hslash : '/' ∉ directory.toList) (hne : directory ≠ "")
    (hfile : file.startsWith "/" = false) :
    d.content? (joinPath directory file) = some content ↔
      (d.follow [] (directory :: pathParts file)).toOption = some (.file content) := by
  have hpath : joinPath directory file ≠ "" := by
    intro h
    have hlist := congrArg String.toList h
    rw [toList_joinPath hfile, stem] at hlist
    split at hlist <;> simp_all
  have hstart := (startsWith_joinPath hfile directory).trans (startsWith_of_notMem hslash)
  rw [Directory.content?_eq_some_iff_follow, pathParts_joinPath hslash hne hfile]
  exact ⟨fun h => h.2.2, fun h => ⟨hpath, hstart, h⟩⟩

theorem IsName.ne_empty (h : IsName name) : name ≠ "" := by
  rintro rfl
  exact h.moves rfl

theorem IsName.relative (h : IsName name) :
    name.startsWith "/" = false := startsWith_of_notMem h.no_slash

theorem IsName.relative_here (h : IsName name) : (joinPath "." name).startsWith "/" = false :=
  (startsWith_joinPath h.relative ".").trans (startsWith_of_notMem (by decide))

theorem IsName.pathParts (h : IsName name) : pathParts name = [name] := by
  rw [Files.pathParts, List.splitOn_eq_singleton h.no_slash]
  simp

theorem content?_here (hname : IsName name) :
    d.content? (joinPath "." name) = some content ↔ d.get? name = some (.file content) := by
  rw [content?_joinPath_iff (by decide) (by decide) hname.relative,
    Directory.follow_stay (by decide), hname.pathParts,
    Directory.toOption_follow_singleton hname.moves hname.down]

theorem content?_below (hdirectory : IsName directory) (hfile : file.startsWith "/" = false) :
    d.content? (joinPath directory file) = some content ↔
      ∃ inside, d.get? directory = some (.directory inside) ∧
      (inside.follow [d] (pathParts file)).toOption = some (.file content) := by
  rw [content?_joinPath_iff hdirectory.no_slash hdirectory.ne_empty hfile]
  by_cases h : ∃ inside, d.get? directory = some (.directory inside)
  · obtain ⟨inside, hinside⟩ := h
    rw [Directory.follow_down hdirectory.moves hdirectory.down hinside, hinside]
    simp
  · have hparts : (pathParts file).isEmpty = false := by simp [pathParts, List.splitOn_ne_nil]
    rw [Directory.toOption_follow_of_not_directory hdirectory.moves hdirectory.down
      (not_exists.mp h), hparts]
    constructor
    · exact fun hfalse => absurd hfalse (by simp)
    · rintro ⟨inside, hinside, -⟩
      exact absurd ⟨inside, hinside⟩ h

theorem content?_dot (hdirectory : IsName directory) (hname : IsName name) :
    d.content? (joinPath (joinPath directory ".") name) = d.content? (joinPath directory name) := by
  apply Option.ext
  intro content
  rw [← joinPath_assoc hname.relative, content?_below hdirectory hname.relative,
    content?_below hdirectory,
    pathParts_joinPath (by decide) (by decide) hname.relative]
  · simp only [Directory.follow_stay (show (".".isEmpty || decide ("." = ".")) = true by decide)]
  · exact hname.relative_here

theorem find?_bind_content? (d : Directory) (paths : List String) :
    (paths.find? d.isFile).bind d.content? = paths.findSome? d.content? := by
  induction paths with
  | nil => rfl
  | cons path paths ih =>
    rw [List.find?_cons, List.findSome?_cons, Directory.isFile]
    cases h : d.content? path with
    | none => exact ih
    | some content => exact h

/-- With one directory to search, the file is the one here, or else the one in that directory. -/
theorem find?_single (hname : IsName name) (hdirectory : IsName directory) (d : Directory) :
    (find? d name [directory]).bind d.content? =
      (firstIn d name [".", directory]).bind d.content? := by
  rw [find?_eq_nested hname.relative, firstIn, firstIn, find?_bind_content?, find?_bind_content?]
  simp only [nested, List.map_cons, List.map_nil, List.findSome?_cons,
    content?_dot hdirectory hname]

/-! Trees with a single file. -/

theorem get?_only (name : String) (node : Node) (other : String) :
    (node.entry name .nil).get? other = if name = other then some node else none := by
  rw [Directory.get?_entry, Directory.get?]

variable {inside : Directory} {other : String}

theorem content?_here_only (hname : IsName name) :
    ((Node.directory inside).entry directory .nil).content? (joinPath "." name) = none := by
  rw [Option.eq_none_iff_forall_ne_some]
  intro content h
  rw [content?_here hname, get?_only] at h
  split at h <;> cases h

theorem content?_below_only (hname : IsName name) (hother : IsName other) :
    ((Node.directory inside).entry directory .nil).content? (joinPath other name) = some content ↔
      directory = other ∧ inside.get? name = some (.file content) := by
  rw [content?_below hother hname.relative, hname.pathParts]
  simp only [Directory.toOption_follow_singleton hname.moves hname.down, get?_only]
  by_cases h : directory = other <;> simp [h]

/-- The path of a file that is found in a search directory is not spelled as it was given. -/
theorem exists_spelled (hname : IsName name) (hdirectory : IsName directory) :
    ∃ d, find? d name [directory] ≠ firstIn d name [".", directory] := by
  let d : Directory := (Node.directory ((Node.file []).entry name .nil)).entry directory .nil
  have hhere : d.content? (joinPath "." name) = none := content?_here_only hname
  have hbelow : d.content? (joinPath directory name) = some [] :=
    (content?_below_only hname hdirectory).mpr ⟨rfl, (get?_only name _ name).trans (if_pos rfl)⟩
  have hspelled : joinPath (joinPath directory ".") name ≠ joinPath directory name := by
    intro h
    have hparts := congrArg pathParts h
    rw [← joinPath_assoc hname.relative,
      pathParts_joinPath hdirectory.no_slash hdirectory.ne_empty hname.relative_here,
      pathParts_joinPath hdirectory.no_slash hdirectory.ne_empty hname.relative,
      pathParts_joinPath (by decide) (by decide) hname.relative] at hparts
    simp at hparts
  refine ⟨d, ?_⟩
  rw [find?_eq_nested hname.relative]
  simpa [firstIn, nested, Directory.isFile, hhere, content?_dot hdirectory hname,
    hbelow] using hspelled

/-- A file that lies in the first search directory below the second is found, although it lies in
neither. -/
theorem exists_found_below {first second : String} (hname : IsName name) (hfirst : IsName first)
    (hsecond : IsName second) {directories : List String}
    (hall : ∀ directory ∈ directories, IsName directory) :
    ∃ d, (find? d name (first :: second :: directories)).bind d.content? ≠
      (firstIn d name ("." :: first :: second :: directories)).bind d.content? := by
  let inside : Directory := (Node.directory ((Node.file []).entry name .nil)).entry first .nil
  let d : Directory := (Node.directory inside).entry second .nil
  have hhere : d.content? (joinPath "." name) = none := content?_here_only hname
  have hbelow {directory : String} (h : IsName directory) :
      d.content? (joinPath directory name) = none := by
    rw [Option.eq_none_iff_forall_ne_some]
    intro content hcontent
    have hfile := ((content?_below_only hname h).mp hcontent).2
    rw [get?_only] at hfile
    split at hfile <;> cases hfile
  have hfound : d.content? (joinPath (joinPath second (joinPath first ".")) name) = some [] := by
    rw [← joinPath_assoc hname.relative, ← joinPath_assoc hname.relative, content?_below hsecond,
      pathParts_joinPath hfirst.no_slash hfirst.ne_empty hname.relative_here,
      pathParts_joinPath (by decide) (by decide) hname.relative, hname.pathParts]
    · refine ⟨inside, (get?_only second _ second).trans (if_pos rfl), ?_⟩
      rw [Directory.follow_down hfirst.moves hfirst.down
        ((get?_only first _ first).trans (if_pos rfl)),
        Directory.follow_stay (by decide),
          Directory.toOption_follow_singleton hname.moves hname.down, get?_only,
        if_pos rfl]
    · exact (startsWith_joinPath hname.relative_here first).trans hfirst.relative
  refine ⟨d, ?_⟩
  rw [find?_eq_nested hname.relative, firstIn, firstIn, find?_bind_content?, find?_bind_content?]
  have hnone : (("." :: first :: second :: directories).map (joinPath · name)).findSome?
      d.content? = none := by
    rw [List.findSome?_eq_none_iff, List.forall_mem_map, List.forall_mem_cons, List.forall_mem_cons,
      List.forall_mem_cons]
    exact ⟨hhere, hbelow hfirst, hbelow hsecond, fun directory h => hbelow (hall directory h)⟩
  rw [hnone]
  simp [nested, hhere, content?_dot hfirst hname, hbelow hfirst, hfound]

end Names

/-- A file is looked for in nested directories. For plain names this is the same as to look in each
of the search directories just if there are none, and it finds the same file just if there is one at
most. -/
theorem find?_search {name : String} (hname : name.startsWith "/" = false)
    (directories : List String) :
    (∀ d, find? d name directories = firstIn d name ("." :: nested "." directories)) ∧
      (IsName name → (∀ directory ∈ directories, IsName directory) →
        ((∀ d, find? d name directories = firstIn d name ("." :: directories)) ↔ directories = []) ∧
        ((∀ d : Directory, (find? d name directories).bind d.content? =
          (firstIn d name ("." :: directories)).bind d.content?) ↔ directories.length ≤ 1)) := by
  refine ⟨fun d => find?_eq_nested hname d directories, fun hname hall => ?_⟩
  have hfound : (∀ d : Directory, (find? d name directories).bind d.content? =
      (firstIn d name ("." :: directories)).bind d.content?) ↔ directories.length ≤ 1 := by
    cases directories with
    | nil => exact ⟨fun _ => Nat.zero_le 1,
      fun _ d => by rw [find?_eq_nested hname.relative, nested]⟩
    | cons first directories =>
      obtain ⟨hfirst, hall⟩ := List.forall_mem_cons.mp hall
      cases directories with
      | nil => exact ⟨fun _ => Nat.le_refl 1, fun _ d => find?_single hname hfirst d⟩
      | cons second directories =>
        obtain ⟨hsecond, hall⟩ := List.forall_mem_cons.mp hall
        obtain ⟨d, hd⟩ := exists_found_below hname hfirst hsecond hall
        exact ⟨fun h => absurd (h d) hd, fun h => absurd h (by simp)⟩
  refine ⟨⟨fun h => ?_, ?_⟩, hfound⟩
  · have hlength := hfound.mp fun d => by rw [h d]
    cases directories with
    | nil => rfl
    | cons first directories =>
      obtain rfl : directories = [] := List.eq_nil_of_length_eq_zero (by simpa using hlength)
      obtain ⟨d, hd⟩ := exists_spelled hname (hall first List.mem_cons_self)
      exact absurd (h d) hd
  · rintro rfl d
    rw [find?_eq_nested hname.relative, nested]

def second : Directory := .directory "a" .nil (.directory "b" (.file "x.py" [] .nil) .nil)

theorem find?_search_second :
    find? second "x.py" ["a", "b"] = firstIn second "x.py" [".", "a/.", "b/a/."] ∧
      ¬ ∀ d : Directory, (find? d "x.py" ["a", "b"]).bind d.content? =
        (firstIn d "x.py" [".", "a", "b"]).bind d.content? := by
  have hnested : nested "." ["a", "b"] = ["a/.", "b/a/."] := by decide +kernel
  have hsearch := find?_search (startsWith_of_notMem (by decide : '/' ∉ "x.py".toList)) ["a", "b"]
  rw [hnested] at hsearch
  have hnames : ∀ directory ∈ ["a", "b"], IsName directory :=
    List.forall_mem_cons.mpr ⟨⟨by decide, by decide, by decide⟩,
      List.forall_mem_singleton.mpr ⟨by decide, by decide, by decide⟩⟩
  refine ⟨hsearch.1 second, fun h => ?_⟩
  exact absurd ((hsearch.2 ⟨by decide, by decide, by decide⟩ hnames).2.mp h) (by decide)

theorem find?_second_missed :
    find? second "x.py" ["a", "b"] ≠ firstIn second "x.py" [".", "a", "b"] := by
  decide +kernel

end Harvest.Files
