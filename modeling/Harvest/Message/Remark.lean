import Harvest.Text.Blank

/-!
Remarks: comments in a source that are meant for translators. A remark may open with flags in
square brackets, as in `[fuzzy, c-format] Greets the user`.
-/

namespace Harvest

structure Remark where
  flags : List String
  text : String
deriving DecidableEq, Repr, Inhabited

namespace Remark

def closing? (s : List Char) : Option (List Char) :=
  match Text.trimLeft s with
  | ']' :: rest => some rest
  | _ => none

/-- The text up to the closing bracket and the blanks before it, and what follows the bracket. The
text between the brackets stands on one line. -/
def bracketed? : List Char → Option (List Char × List Char)
  | [] => none
  | c :: rest =>
      match closing? (c :: rest) with
      | some after => some ([], after)
      | none =>
          if c = '\n' then none
          else (bracketed? rest).map fun (inner, after) => (c :: inner, after)

/-- Separates the flags at the start of a comment from its text. Flags are divided by commas; an
empty pair of brackets gives one empty flag. -/
def ofComment (comment : String) : Remark :=
  match comment.toList with
  | '[' :: rest =>
      match bracketed? (Text.trimLeft rest) with
      | some (inner, after) =>
          { flags := (inner.splitOn ',').map fun f => String.ofList (Text.trim f)
            text := String.ofList ((Text.trimLeft after).takeWhile (· != '\n')) }
      | none => ⟨[], comment⟩
  | _ => ⟨[], comment⟩

end Remark

end Harvest
