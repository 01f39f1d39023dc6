import Harvest.Assoc
import Harvest.Failure
import Harvest.Template.Piece
import Harvest.Text.Digit

/-!
Tags: their names, their attributes as they are written, and their attributes by namespace.
-/

namespace Harvest.Template

open Text

export Assoc (bind)

/-- An attribute as it is written: the blanks before it, its name, the equals sign with the blanks
around it, the quote and the value between the quotes. -/
structure Attribute where
  space : String
  name : String
  eq : String
  quote : String
  value : String
deriving DecidableEq, Repr, Inhabited

inductive Namespace where
  | statements
  | internationalization
  | other (name : String)
deriving DecidableEq, Repr, Inhabited

structure QualifiedName where
  space : Namespace
  name : String
deriving DecidableEq, Repr, Inhabited

/-- A start or end tag. A tag that breaks off after its name has no `suffix`. -/
structure Tag where
  opening : String := "<"
  name : String
  suffix : Option String
  attributes : List Attribute := []
  qualified : List (QualifiedName × String) := []
deriving DecidableEq, Repr, Inhabited

/-! Names. -/

def endsTagName (c : Char) : Bool := isTagBlank c || c == '>' || c == '/'

/-- The part of a tag's name up to its last colon, which may hold brackets and slashes. -/
def tagPrefixSize (s : List Char) : Nat :=
  let n := runLength (fun c => !(isTagBlank c || c == ':')) s
  if n > 0 && (s.drop n).head? = some ':' then n + 1 else 0

def tagNameSize? (s : List Char) : Option Nat :=
  let n := tagPrefixSize s
  match runLength (fun c => !endsTagName c) (s.drop n), runLength (fun c => !endsTagName c) s with
  | m + 1, _ => some (n + m + 1)
  | 0, m + 1 => some (m + 1)
  | 0, 0 => none

def plainSuffix? (s : List Char) : Option (List Char) :=
  let n := runLength isBlank s
  match tagEndSize (s.drop n) with
  | 0 => none
  | m => some (s.take (n + m))

/-! Attributes. -/

def assignment? (s : List Char) : Option (List Char × List Char × List Char) :=
  let before := runLength isBlank s
  match s.drop before with
  | '=' :: rest =>
      let after := runLength isBlank rest
      let eq := s.take (before + 1 + after)
      let rest := rest.drop after
      let bare := rest.takeWhile fun c =>
        !(isBlank c || c == '\'' || c == '"' || c == '>' || c == '/')
      match rest with
      | quote :: text =>
          let inQuotes := if quote = '"' || quote = '\'' then cut? quote text else none
          match inQuotes with
          | some (value, _) => some (eq, [quote], value)
          | none => if bare.isEmpty then none else some (eq, [], bare)
      | [] => none
  | _ => none

/-- Is this the end of a name that stands without a value? Blanks, backslashes and the letters `n`,
`t` and `r` are passed over in the search for an equals sign. -/
def endsBareName (s : List Char) : Bool :=
  (s.dropWhile fun c => c == ' ' || c == '\\' || c == 'n' || c == 't' || c == 'r').head? != some '='

def countdown (n : Nat) : List Nat := (List.range n).map (n - ·)

def attributeNamed? (space s : List Char) (n : Nat) : Option (Attribute × Nat) :=
  let name := String.ofList (s.take n)
  let rest := s.drop n
  match assignment? rest with
  | some (eq, quote, value) =>
      some (⟨String.ofList space, name, String.ofList eq, String.ofList quote, String.ofList value⟩,
        space.length + n + eq.length + 2 * quote.length + value.length)
  | none =>
      if endsBareName rest then some (⟨String.ofList space, name, "", "", ""⟩, space.length + n)
      else none

/-- The attribute after the first `k` characters of `s`, which are blanks. -/
def attributeAfter? (s : List Char) (k : Nat) : Option (Attribute × Nat) :=
  let rest := s.drop k
  if (rest.head?.map isDigit).getD false then none
  else
    (countdown (runLength (fun c => !(isTagBlank c || c == '=' || c == '/' || c == '>'))
      rest)).findSome?
      (attributeNamed? (s.take k) rest)

/-- The attribute at the start of a text, and its length. Of all readings the one with the most
blanks and then the longest name is taken. -/
def attribute? (s : List Char) : Option (Attribute × Nat) :=
  (countdown (runLength isBlank s)).findSome? (attributeAfter? s)

/-- The worker of `attributesIn`: `skip` characters of an attribute are still to be passed over, and
`after` is what follows the last attribute. -/
def attributesFrom (after : Option (List Char)) : Nat → List Char →
    List Attribute × Option (List Char)
  | 0, [] => ([], after)
  | _ + 1, [] => ([], after)
  | skip + 1, _ :: cs => attributesFrom after skip cs
  | 0, c :: cs =>
      match attribute? (c :: cs) with
      | none => attributesFrom after 0 cs
      | some (a, n) =>
          let (more, after) := attributesFrom (some ((c :: cs).drop n)) (n - 1) cs
          (a :: more, after)

def attributesIn (s : List Char) : List Attribute × Option (List Char) := attributesFrom none 0 s

def Tag.read? (s : List Char) : Option Tag := do
  let opening := if ['<', '/'].isPrefixOf s then 2 else 1
  let body := s.drop opening
  let n ← tagNameSize? body
  let plain := plainSuffix? (body.drop n)
  let (attributes, after) := attributesIn (body.drop (n + (plain.getD []).length))
  return {
    opening := String.ofList (s.take opening)
    name := String.ofList (body.take n)
    suffix := (after.or plain).map String.ofList
    attributes }

/-! Namespaces. -/

abbrev Prefixes := List (Option String × Namespace)

def Namespace.ofName : String → Namespace
  | "http://xml.zope.org/namespaces/tal" => .statements
  | "http://xml.zope.org/namespaces/i18n" => .internationalization
  | name => .other name

def Namespace.plain : Namespace := .other "http://www.w3.org/XML/1998/namespace"

def Prefixes.builtin : Prefixes :=
  [(some "xmlns", .other "http://www.w3.org/2000/xmlns/"), (some "xml", .plain),
    (some "tal", .statements), (some "metal", .other "http://xml.zope.org/namespaces/metal"),
    (some "i18n", .internationalization),
      (some "meta", .other "http://xml.zope.org/namespaces/meta")]

def splitName (name : String) : Option (String × String) :=
  (cut? ':' name.toList).map fun (before, after) => (String.ofList before, String.ofList after)

def Prefixes.declare (prefixes : Prefixes) (attributes : List Attribute) : Prefixes :=
  attributes.foldl
    (fun known a =>
      if a.name = "xmlns" then bind none (Namespace.ofName a.value) known
      else
        match dropStart? "xmlns:".toList a.name.toList with
        | some name => bind (some (String.ofList name)) (Namespace.ofName a.value) known
        | none => known)
    prefixes

def qualify (prefixes : Prefixes) (default : Namespace) (name : String) :
    Except Failure QualifiedName :=
  match splitName name with
  | none => .ok ⟨default, name⟩
  | some (before, after) =>
      match prefixes.lookup (some before) with
      | some space => .ok ⟨space, after⟩
      | none => .error .unknownPrefix

def Tag.resolve (prefixes : Prefixes) (tag : Tag) : Except Failure (Tag × Prefixes) := do
  let known := prefixes.declare tag.attributes
  let default := (known.lookup ((splitName tag.name).map (·.1))).getD .plain
  let qualified ← tag.attributes.foldlM
    (fun found a => return bind (← qualify known default a.name) a.value found) []
  return ({ tag with qualified }, known)

def Tag.parse (prefixes : Prefixes) (s : List Char) : Except Failure (Tag × Prefixes) :=
  match Tag.read? s with
  | some tag => tag.resolve prefixes
  | none => .error .namelessTag

def Tag.get? (tag : Tag) (space : Namespace) (name : String) : Option String :=
  tag.qualified.lookup ⟨space, name⟩

end Harvest.Template
