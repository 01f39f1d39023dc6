import Harvest.Settings.Basic
import Harvest.Text.Lowercase

/-!
The values of options. A value may refer to another option of its section as `%(name)s`, and a
percent sign is written twice.
-/

namespace Harvest.Settings

structure Target where
  place : String
  name : String
  value : String
  values : Bindings
deriving DecidableEq, Repr, Inhabited

def reference? : List Char → Option (List Char × Nat)
  | '(' :: rest =>
      let name := rest.takeWhile (· != ')')
      if name.isEmpty || !")s".toList.isPrefixOf (rest.drop name.length) then none
      else some (name, name.length + 3)
  | _ => none

def Target.resolve (t : Target) (inner : List Char → Except Fault (List Char))
    (name : List Char) : Except Fault (List Char) :=
  let key := String.ofList (Text.lower name)
  match t.values.lookup key with
  | none => .error (.unknownReference t.place t.name key t.value)
  | some value => if value.toList.contains '%' then inner value.toList else .ok value.toList

def Target.expandFrom (t : Target) (inner : List Char → Except Fault (List Char)) :
    Nat → List Char → Except Fault (List Char)
  | _, [] => .ok []
  | skip + 1, _ :: cs => t.expandFrom inner skip cs
  | 0, c :: cs =>
      if c = '%' then
        if cs.head? = some '%' then do return '%' :: (← t.expandFrom inner 1 cs)
        else if cs.head? = some '(' then
          match reference? cs with
          | none => .error (.badReference (c :: cs))
          | some (name, size) => do
              let value ← t.resolve inner name
              return value ++ (← t.expandFrom inner size cs)
        else .error (.strayPercent (c :: cs))
      else do return c :: (← t.expandFrom inner 0 cs)

def Target.expand (t : Target) : Nat → List Char → Except Fault (List Char)
  | 0, _ => .error (.tooDeep t.place t.name t.value)
  | depth + 1, s => t.expandFrom (t.expand depth) 0 s

def Target.text (t : Target) : Except Fault String :=
  (t.expand depthLimit t.value.toList).map String.ofList

def written (s : Settings) (place : String) : Bindings :=
  Bindings.assignAll s.defaults ((s.sections.lookup place).getD [])

def values (s : Settings) (place : String) : Except Fault Bindings :=
  let written := s.written place
  written.mapM fun (name, value) => do
    return (name, ← Target.text ⟨place, name, value, written⟩)

def value (s : Settings) (place name : String) : Except Fault String :=
  let written := s.written place
  match written.lookup name with
  | some value => Target.text ⟨place, name, value, written⟩
  | none => .error (.noOption place name)

end Harvest.Settings
