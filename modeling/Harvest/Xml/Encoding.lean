import Harvest.Text.Codec
import Harvest.Xml.Scan

/-!
The characters of a document given as bytes.
-/

namespace Harvest.Xml

open Text

inductive Encoding where
  | utf8
  | utf16 (lowFirst : Bool)
  | table (t : ByteTable)
deriving DecidableEq, Repr

def Encoding.isWide : Encoding → Bool
  | .utf16 _ => true
  | _ => false

def markedChar (n : Nat) : Char :=
  if n.isValidChar && isCharacter (Char.ofNat n) then Char.ofNat n else badMark

def leadSize (b : UInt8) : Nat :=
  if b < 0x80 then 1
  else if b < 0xC0 then 0
  else if b < 0xE0 then 2
  else if b < 0xF0 then 3
  else if b < 0xF5 then 4
  else 0

def utf8Characters : List UInt8 → List Char
  | [] => []
  | a :: tail =>
      match leadSize a, tail with
      | 0, _ => [badMark]
      | 1, rest => markedChar a.toNat :: utf8Characters rest
      | 2, b :: rest =>
          if 0xC2 ≤ a && isContinuation b then
            markedChar (a.toNat % 32 * 64 + payload b) :: utf8Characters rest
          else [badMark]
      | 3, b :: c :: rest =>
          if fitsLead a b && isContinuation c then
            markedChar ((a.toNat % 16 * 64 + payload b) * 64 + payload c) :: utf8Characters rest
          else [badMark]
      | 4, b :: c :: d :: rest =>
          if fitsLead a b && isContinuation c && isContinuation d then
            markedChar (((a.toNat % 8 * 64 + payload b) * 64 + payload c) * 64 + payload d) ::
              utf8Characters rest
          else [badMark]
      | _, _ => [cutMark]

def wideUnits (lowFirst : Bool) : List UInt8 → List Nat × Bool
  | [] => ([], false)
  | [_] => ([], true)
  | a :: b :: rest =>
      let (units, odd) := wideUnits lowFirst rest
      let unit := if lowFirst then b.toNat * 256 + a.toNat else a.toNat * 256 + b.toNat
      (unit :: units, odd)

def isHighSurrogate (n : Nat) : Bool := 0xD800 ≤ n && n < 0xDC00

def isLowSurrogate (n : Nat) : Bool := 0xDC00 ≤ n && n < 0xE000

def wideCharacters : List Nat → List Char
  | [] => []
  | [n] => if isHighSurrogate n then [cutMark] else [markedChar n]
  | n :: m :: rest =>
      if isHighSurrogate n then
        (if isLowSurrogate m then markedChar (0x10000 + (n - 0xD800) * 1024 + (m - 0xDC00))
          else badMark) :: wideCharacters rest
      else markedChar n :: wideCharacters (m :: rest)

def Encoding.decode : Encoding → List UInt8 → List Char
  | .utf8, bytes => utf8Characters bytes
  | .utf16 lowFirst, bytes =>
      let (units, odd) := wideUnits lowFirst bytes
      wideCharacters units ++ if odd then [oddMark] else []
  | .table t, bytes =>
      bytes.map fun b => markedChar (((t.character? b).map Char.toNat).getD 0)

inductive Detected where
  | encoding (e : Encoding) (mark : Nat)
  | tooShort
deriving DecidableEq, Repr

def detect : List UInt8 → Detected
  | [0x00] => .tooShort
  | [0x3C] => .tooShort
  | [0xEF] => .tooShort
  | [0xFE] => .tooShort
  | [0xFF] => .tooShort
  | [0xEF, 0xBB] => .tooShort
  | 0xFE :: 0xFF :: _ => .encoding (.utf16 false) 2
  | 0xFF :: 0xFE :: _ => .encoding (.utf16 true) 2
  | 0xEF :: 0xBB :: 0xBF :: _ => .encoding .utf8 3
  | 0x00 :: _ :: _ => .encoding (.utf16 false) 0
  | _ :: 0x00 :: _ => .encoding (.utf16 true) 0
  | _ => .encoding .utf8 0

inductive EncodingChoice where
  | encoding (e : Encoding)
  | conflict
  | unknown
  | multibyte

/-- The encoding of a document that is read as `current` and declares the encoding `name`. -/
def declaredEncoding (current : Encoding) (name : String) : EncodingChoice :=
  let known := fun (e : Encoding) =>
    if e.isWide = current.isWide then .encoding e else .conflict
  match name.toUpper with
  | "UTF-8" => known .utf8
  | "ISO-8859-1" => known (.table .latin1)
  | "US-ASCII" => known (.table .ascii)
  | "UTF-16" => if current.isWide then .encoding current else .conflict
  | "UTF-16BE" => if current = .utf16 false then .encoding current else .conflict
  | "UTF-16LE" => if current = .utf16 true then .encoding current else .conflict
  | _ =>
      match Codec.named? name with
      | none => .unknown
      | some .multibyte => .multibyte
      | some .utf8 => .encoding (.table .ascii)
      | some (.bytes t) => .encoding (.table t)

end Harvest.Xml
