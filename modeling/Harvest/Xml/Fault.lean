import Harvest.Text.Basic

/-!
What can be wrong with a document, and where.
-/

namespace Harvest.Xml

inductive Fault where
  | noElement
  | invalidToken
  | unclosedToken
  | partialCharacter
  | mismatchedTag
  | duplicateAttribute
  | junkAfterDocument
  | parameterReference
  | undefinedEntity
  | recursiveReference
  | asynchronousEntity
  | badCharacterReference
  | binaryReference
  | externalReference
  | misplacedDeclaration
  | incorrectEncoding
  | unclosedSection
  | unexpectedToken
  | badDeclaration
  | badPublicId
deriving DecidableEq, Repr

def Fault.message : Fault → String
  | .noElement => "no element found"
  | .invalidToken => "not well-formed (invalid token)"
  | .unclosedToken => "unclosed token"
  | .partialCharacter => "partial character"
  | .mismatchedTag => "mismatched tag"
  | .duplicateAttribute => "duplicate attribute"
  | .junkAfterDocument => "junk after document element"
  | .parameterReference => "illegal parameter entity reference"
  | .undefinedEntity => "undefined entity"
  | .recursiveReference => "recursive entity reference"
  | .asynchronousEntity => "asynchronous entity"
  | .badCharacterReference => "reference to invalid character number"
  | .binaryReference => "reference to binary entity"
  | .externalReference => "reference to external entity in attribute"
  | .misplacedDeclaration => "XML or text declaration not at start of entity"
  | .incorrectEncoding => "encoding specified in XML declaration is incorrect"
  | .unclosedSection => "unclosed CDATA section"
  | .unexpectedToken => "syntax error"
  | .badDeclaration => "XML declaration not well-formed"
  | .badPublicId => "illegal character(s) in public id"

structure Trouble where
  fault : Fault
  left : Nat
deriving DecidableEq, Repr

structure Place where
  line : Nat := 1
  column : Nat := 0
  afterReturn : Bool := false
deriving DecidableEq, Repr, Inhabited

def Place.step (p : Place) (c : Char) : Place :=
  if c = '\r' then ⟨p.line + 1, 0, true⟩
  else if c = '\n' then if p.afterReturn then ⟨p.line, 0, false⟩ else ⟨p.line + 1, 0, false⟩
  else ⟨p.line, p.column + 1, false⟩

def Place.advance (p : Place) (s : List Char) : Place := s.foldl Place.step p

def Place.before (p : Place) (s : List Char) (left : Nat) : Place :=
  p.advance (s.take (s.length - left))

end Harvest.Xml
