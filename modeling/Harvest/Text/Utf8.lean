import Harvest.Text.Basic

/-!
Texts as UTF-8 bytes. A faulty sequence is reported with the bytes it covers: the lead byte and
the continuation bytes that fit it.
-/

namespace Harvest.Text

inductive Utf8Cause where
  | invalidStart
  | invalidContinuation
  | unexpectedEnd
deriving DecidableEq, Repr

structure Utf8Fault where
  position : Nat
  bytes : List UInt8
  cause : Utf8Cause
deriving DecidableEq, Repr

def Utf8Cause.message : Utf8Cause → String
  | .invalidStart => "invalid start byte"
  | .invalidContinuation => "invalid continuation byte"
  | .unexpectedEnd => "unexpected end of data"

def Utf8Fault.message (f : Utf8Fault) : String :=
  match f.bytes with
  | [b] =>
      s!"'utf-8' codec can't decode byte 0x{hex 2 b.toNat} in position {f.position}: " ++
        f.cause.message
  | bytes =>
      s!"'utf-8' codec can't decode bytes in position {f.position}-" ++
        s!"{f.position + bytes.length - 1}: " ++ f.cause.message

def isContinuation (b : UInt8) : Bool := 0x80 ≤ b && b ≤ 0xBF

/-- May `second` follow the lead byte `lead`? Overlong forms, surrogates and values beyond the last
code point are ruled out here. -/
def fitsLead (lead second : UInt8) : Bool :=
  isContinuation second &&
    if lead == 0xE0 then 0xA0 ≤ second
    else if lead == 0xED then second < 0xA0
    else if lead == 0xF0 then 0x90 ≤ second
    else if lead == 0xF4 then second < 0x90
    else true

def sequenceLength (lead : UInt8) : Nat :=
  if lead < 0x80 then 1
  else if lead < 0xC2 then 0
  else if lead < 0xE0 then 2
  else if lead < 0xF0 then 3
  else if lead < 0xF5 then 4
  else 0

def payload (b : UInt8) : Nat := b.toNat % 64

def decodeUtf8From : Nat → List UInt8 → Except Utf8Fault (List Char)
  | _, [] => .ok []
  | position, lead :: tail =>
      let fault (bytes : List UInt8) (cause : Utf8Cause) : Except Utf8Fault (List Char) :=
        .error ⟨position, bytes, cause⟩
      match sequenceLength lead with
      | 1 => (decodeUtf8From (position + 1) tail).map (Char.ofNat lead.toNat :: ·)
      | 2 =>
          match tail with
          | [] => fault [lead] .unexpectedEnd
          | b :: rest =>
              if fitsLead lead b then
                (decodeUtf8From (position + 2) rest).map
                  (Char.ofNat (lead.toNat % 32 * 64 + payload b) :: ·)
              else fault [lead] .invalidContinuation
      | 3 =>
          match tail with
          | [] => fault [lead] .unexpectedEnd
          | [b] =>
              if fitsLead lead b then fault [lead, b] .unexpectedEnd
              else fault [lead] .invalidContinuation
          | b :: c :: rest =>
              if !fitsLead lead b then fault [lead] .invalidContinuation
              else if !isContinuation c then fault [lead, b] .invalidContinuation
              else
                (decodeUtf8From (position + 3) rest).map
                  (Char.ofNat ((lead.toNat % 16 * 64 + payload b) * 64 + payload c) :: ·)
      | 4 =>
          match tail with
          | [] => fault [lead] .unexpectedEnd
          | [b] =>
              if fitsLead lead b then fault [lead, b] .unexpectedEnd
              else fault [lead] .invalidContinuation
          | [b, c] =>
              if !fitsLead lead b then fault [lead] .invalidContinuation
              else if !isContinuation c then fault [lead, b] .invalidContinuation
              else fault [lead, b, c] .unexpectedEnd
          | b :: c :: d :: rest =>
              if !fitsLead lead b then fault [lead] .invalidContinuation
              else if !isContinuation c then fault [lead, b] .invalidContinuation
              else if !isContinuation d then fault [lead, b, c] .invalidContinuation
              else
                (decodeUtf8From (position + 4) rest).map
                  (Char.ofNat
                    (((lead.toNat % 8 * 64 + payload b) * 64 + payload c) * 64 + payload d) :: ·)
      | _ => fault [lead] .invalidStart

def decodeUtf8 (bytes : List UInt8) : Except Utf8Fault (List Char) := decodeUtf8From 0 bytes

def encodeUtf8 (s : List Char) : List UInt8 := s.flatMap String.utf8EncodeChar

end Harvest.Text
