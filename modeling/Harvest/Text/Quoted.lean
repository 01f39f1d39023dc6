import Harvest.Text.Basic
import Harvest.Text.Printable

/-!
Texts in quotes, as messages show them: single quotes unless the text holds a single quote and no
double quote, with characters that cannot be shown written as escapes.
-/

namespace Harvest.Text

def quoteFor (s : List Char) : Char :=
  if s.contains '\'' && !s.contains '"' then '"' else '\''

def quotedChar (quote c : Char) : String :=
  if c = quote || c = '\\' then String.ofList ['\\', c]
  else if c = '\t' then "\\t"
  else if c = '\n' then "\\n"
  else if c = '\r' then "\\r"
  else if isPrintable c then String.singleton c
  else if c.toNat < 0x100 then "\\x" ++ hex 2 c.toNat
  else if c.toNat < 0x10000 then "\\u" ++ hex 4 c.toNat
  else "\\U" ++ hex 8 c.toNat

def quoted (s : String) : String :=
  let chars := s.toList
  let quote := quoteFor chars
  String.singleton quote ++ String.join (chars.map (quotedChar quote)) ++ String.singleton quote

end Harvest.Text
