import Harvest.Text.Utf8

/-!
Tokens of a Python source, and the faults that end a source early.
-/

namespace Harvest.Source

/-- The kinds of token. A line break inside brackets or after a comment is `breakOnly`; one that
ends a statement is `newline`. `stray` is a character that starts no token. -/
inductive TokenKind where
  | name
  | number
  | string
  | operator
  | comment
  | breakOnly
  | newline
  | indent
  | dedent
  | stray
  | finish
deriving DecidableEq, Repr, Inhabited

/-- A token with the place where it starts: rows are counted from 1, columns from 0. -/
structure Token where
  kind : TokenKind
  text : String
  row : Nat
  column : Nat
deriving DecidableEq, Repr, Inhabited

def Token.isOperator (t : Token) (text : String) : Bool := t.kind == .operator && t.text == text

inductive ScanFault where
  | openString (row column : Nat)
  | openStatement (row : Nat)
  | badDedent
  | undecodable (fault : Text.Utf8Fault)
deriving DecidableEq, Repr

structure Scan where
  tokens : List Token
  fault : Option ScanFault
deriving DecidableEq, Repr

def Scan.prepend (tokens : List Token) (s : Scan) : Scan := ⟨tokens ++ s.tokens, s.fault⟩

end Harvest.Source
