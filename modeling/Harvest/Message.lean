/-!
A message: a text to be translated together with what a translator is told about it.
-/

namespace Harvest

structure Location where
  file : String
  line : Int
deriving DecidableEq, Repr, Inhabited

structure Message where
  context : Option String := none
  text : Option String
  plural : Option String := none
  flags : List String := []
  comment : String := ""
  translatorComment : String := ""
  location : Location
deriving DecidableEq, Repr, Inhabited

def Message.shift (m : Message) (lines : Int) : Message :=
  { m with location := { m.location with line := m.location.line + lines } }

end Harvest
