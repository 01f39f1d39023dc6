import Harvest.Text.Basic

/-!
Moments as they are written in catalogs.
-/

namespace Harvest

structure Moment where
  year : Int
  month : Nat
  day : Nat
  hour : Nat
  minute : Nat
  daylight : Bool := false
  zone : Int := 0
  daylightZone : Int := 0
deriving DecidableEq, Repr, Inhabited

def Moment.offset (m : Moment) : Int := -(if m.daylight then m.daylightZone else m.zone)

def Moment.stamp (m : Moment) : String :=
  let offset := m.offset.natAbs
  s!"{m.year}-{Text.padded 2 m.month}-{Text.padded 2 m.day} " ++
    s!"{Text.padded 2 m.hour}:{Text.padded 2 m.minute}" ++
    (if m.offset < 0 then "-" else "+") ++
    Text.padded 2 (offset / 3600 % 24) ++ Text.padded 2 (offset / 60 % 60)

end Harvest
