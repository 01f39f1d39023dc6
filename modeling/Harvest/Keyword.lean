import Harvest.Text.Integer

/-!
Keywords: the functions whose calls mark messages, with the place of each part of the message among
the arguments, and the notation in which a user names them, such as `dngettext:1d,2,3`.
-/

namespace Harvest

structure Keyword where
  function : String
  text : Int := 1
  plural : Option Int := none
  domain : Option Int := none
  context : Option Int := none
  comment : String := ""
  required : Option Int := none
deriving DecidableEq, Repr, Inhabited

namespace Keyword

/-- A comment for translators in double quotes, at the end of a specification and on one line. A
line feed after the closing quote is passed over, and the quote is then kept. -/
def quotedComment? (s : List Char) : Option (List Char) :=
  match s with
  | '"' :: rest =>
      let body := if rest.getLast? = some '\n' then rest.dropLast else rest
      if body.getLast? = some '"' && !body.dropLast.contains '\n' then some rest.dropLast
      else none
  | _ => none

def addItem (k : Keyword) (seenText : Bool) (item : List Char) :
    Except Text.IntegerFault (Keyword × Bool) :=
  let number (digits : List Char) := Text.integer? (String.ofList digits)
  match item.getLast? with
  | some 'c' => (number item.dropLast).map fun n => ({ k with context := some n }, seenText)
  | some 'd' => (number item.dropLast).map fun n => ({ k with domain := some n }, seenText)
  | some 't' => (number item.dropLast).map fun n => ({ k with required := some n }, seenText)
  | _ =>
      if seenText then (number item).map fun n => ({ k with plural := some n }, true)
      else (number item).map fun n => ({ k with text := n }, true)

def addItems (k : Keyword) (seenText : Bool) (s : List Char) : Except Text.IntegerFault Keyword :=
  match s with
  | [] => .ok k
  | c :: cs =>
      match quotedComment? (c :: cs) with
      | some comment => .ok { k with comment := String.ofList comment }
      | none =>
          let item := (c :: cs).takeWhile (· != ',')
          match addItem k seenText item with
          | .error fault => .error fault
          | .ok (k, seenText) => addItems k seenText ((c :: cs).drop (item.length + 1))
termination_by s.length
decreasing_by rw [List.length_drop, List.length_cons]; omega

/-- Reads a specification: a function name, and after a colon the items divided by commas. Numbers
without a letter are the message and then its plural; `c`, `d` and `t` mark the context, the domain
and the number of arguments required. -/
def ofSpec (spec : String) : Except Text.IntegerFault Keyword :=
  match Text.cut? ':' spec.toList with
  | none => .ok { function := spec }
  | some (function, items) => addItems { function := String.ofList function } false items

end Keyword

structure KeywordTable where
  entries : List (String × Keyword) := []
deriving DecidableEq, Repr, Inhabited

namespace KeywordTable

def names (table : KeywordTable) : List String := table.entries.map (·.1)

def get? (table : KeywordTable) (name : String) : Option Keyword := table.entries.lookup name

def insert (table : KeywordTable) (k : Keyword) : KeywordTable :=
  if table.entries.any (·.1 == k.function) then
    ⟨table.entries.map fun entry => if entry.1 == k.function then (k.function, k) else entry⟩
  else ⟨table.entries ++ [(k.function, k)]⟩

/-- Adds the keywords with these specifications, up to the first that cannot be read. An empty
specification first removes every keyword. -/
def addSpecs (table : KeywordTable) : List String → KeywordTable × Option Text.IntegerFault
  | [] => (table, none)
  | spec :: specs =>
      let table := if spec.isEmpty then ⟨[]⟩ else table
      match Keyword.ofSpec spec with
      | .error fault => (table, some fault)
      | .ok k => addSpecs (table.insert k) specs

def builtin : KeywordTable := ⟨
  [("gettext", { function := "gettext" }),
   ("ugettext", { function := "ugettext" }),
   ("dgettext", { function := "dgettext", text := 2, domain := some 1 }),
   ("ldgettext", { function := "ldgettext", text := 2, domain := some 1 }),
   ("ngettext", { function := "ngettext", text := 1, plural := some 2 }),
   ("lngettext", { function := "ngettext", text := 1, plural := some 2 }),
   ("ungettext", { function := "ungettext", text := 1, plural := some 2 }),
   ("dngettext", { function := "dngettext", text := 2, plural := some 3, domain := some 1 }),
   ("ldngettext", { function := "dngettext", text := 2, plural := some 3, domain := some 1 }),
   ("pgettext", { function := "pgettext", text := 2, context := some 1 })]⟩

end KeywordTable

end Harvest
