import Harvest.Source.Lexeme
import Harvest.Text.Blank
import Harvest.Text.Line

/-!
Scanning a source line by line. Between lines the scanner remembers the depth of open brackets, the
indentation of the enclosing blocks, and a string or statement that goes on.
-/

namespace Harvest.Source

structure OpenString where
  closing : Closing
  text : List Char
  row : Nat
  column : Nat
deriving Repr

/-- What is remembered from one line to the next. The brackets `depth` counts closing brackets of
any kind against opening ones, and may go below zero. `needsMark` tells that a string goes on only
past a line that ends in a continuation mark; it is set by a string in single quotes and cleared
when a string is closed, so it outlives a string that breaks off. -/
structure Scanner where
  row : Nat := 0
  depth : Int := 0
  continued : Bool := false
  indents : List Nat := [0]
  pending : Option OpenString := none
  needsMark : Bool := false
deriving Repr

structure LineTail where
  tokens : List Token := []
  depth : Int
  continued : Bool := false
  pending : Option OpenString := none
deriving Repr

def LineTail.cons (t : Token) (tail : LineTail) : LineTail :=
  { tail with tokens := t :: tail.tokens }

def isInlineBlank (c : Char) : Bool := c == ' ' || c == '\t' || c == '\x0c'

def depthAfter (depth : Int) (c : Char) : Int :=
  if "([\x7b".toList.contains c then depth + 1
  else if ")]\x7d".toList.contains c then depth - 1
  else depth

/-- Scans the rest of a line, of which `skip` characters belong to the lexeme before.
Blanks are passed over if a lexeme or the end follows them; otherwise the first of them
is a stray character. -/
def scanTail (row : Nat) : Nat → Nat → Int → List Char → LineTail
  | _, _, depth, [] => { depth }
  | skip + 1, column, depth, _ :: cs => scanTail row skip (column + 1) depth cs
  | 0, column, depth, c :: cs =>
      let stray (tail : LineTail) : LineTail := tail.cons ⟨.stray, c.toString, row, column⟩
      if isInlineBlank c then
        match cs.dropWhile isInlineBlank with
        | [] => { depth }
        | rest =>
            if (lexeme? rest).isSome then scanTail row 0 (column + 1) depth cs
            else stray (scanTail row 0 (column + 1) depth cs)
      else
        let text (length : Nat) : String := String.ofList ((c :: cs).take length)
        match lexeme? (c :: cs) with
        | none => stray (scanTail row 0 (column + 1) depth cs)
        | some .continuation => { depth, continued := true }
        | some (.openString closing) =>
            { depth, pending := some ⟨closing, c :: cs, row, column⟩ }
        | some (.lineEnd length) =>
            (scanTail row (length - 1) (column + 1) depth cs).cons
              ⟨if depth > 0 then .breakOnly else .newline, text length, row, column⟩
        | some (.token kind length) =>
            let depth := if kind = .operator then depthAfter depth c else depth
            (scanTail row (length - 1) (column + 1) depth cs).cons ⟨kind, text length, row, column⟩

/-- The column that blanks at the start of a line reach: a tab goes to the next multiple of eight,
and a form feed back to the start. -/
def indentColumn (blanks : List Char) : Nat :=
  blanks.foldl
    (fun column c =>
      if c == '\t' then (column / 8 + 1) * 8 else if c == '\x0c' then 0 else column + 1)
    0

/-- Closes blocks until the innermost is indented to `column`; `none` if no enclosing block is. The
number of blocks closed comes with the blocks that stay open. -/
def dedentTo (column : Nat) : List Nat → Option (Nat × List Nat)
  | [] => some (0, [])
  | top :: outer =>
      if column < top then
        if outer.contains column then (dedentTo column outer).map fun (n, left) => (n + 1, left)
        else none
      else some (0, top :: outer)

inductive LineResult where
  | next (tokens : List Token) (scanner : Scanner)
  | blankEnd
  | fault (tokens : List Token) (fault : ScanFault)

def Scanner.afterLine (s : Scanner) (row : Nat) (tail : LineTail) : Scanner :=
  { s with
    row, depth := tail.depth, continued := tail.continued, pending := tail.pending,
    needsMark := s.needsMark || (tail.pending.map fun o => !o.closing.triple).getD false }

/-- A line inside a string. Where a continuation mark is needed and missing, the string breaks off
and all of it is stray. -/
def Scanner.stringLine (s : Scanner) (opened : OpenString) (line : List Char) : LineResult :=
  let row := s.row + 1
  match opened.closing.length? line with
  | some length =>
      let tail := scanTail row 0 length s.depth (line.drop length)
      let text := String.ofList (opened.text ++ line.take length)
      .next (⟨.string, text, opened.row, opened.column⟩ :: tail.tokens)
        ({ s with needsMark := false }.afterLine row tail)
  | none =>
      let text := opened.text ++ line
      if s.needsMark && !endsContinued line then
        .next [⟨.stray, String.ofList text, opened.row, opened.column⟩]
          { s with row, pending := none }
      else .next [] { s with row, pending := some { opened with text } }

def Scanner.freshLine (s : Scanner) (line : List Char) : LineResult :=
  let row := s.row + 1
  let blanks := line.takeWhile isInlineBlank
  let column := blanks.length
  match line.drop column with
  | [] => .blankEnd
  | c :: cs =>
      if c = '#' || c = '\r' || c = '\n' then
        let comment :=
          if c = '#' then Text.trimRightOf (fun c => c == '\r' || c == '\n') (c :: cs) else []
        let comments :=
          if c = '#' then [⟨.comment, String.ofList comment, row, column⟩] else []
        let lineEnd := (c :: cs).drop comment.length
        .next (comments ++ [⟨.breakOnly, String.ofList lineEnd, row, column + comment.length⟩])
          { s with row }
      else
        let indent := indentColumn blanks
        let open_ (tokens : List Token) (indents : List Nat) : LineResult :=
          let tail := scanTail row 0 column s.depth (c :: cs)
          .next (tokens ++ tail.tokens) { s.afterLine row tail with indents }
        match s.indents with
        | [] => open_ [] []
        | top :: _ =>
            if top < indent then
              open_ [⟨.indent, String.ofList blanks, row, 0⟩] (indent :: s.indents)
            else
              match dedentTo indent s.indents with
              | some (n, indents) => open_ (List.replicate n ⟨.dedent, "", row, column⟩) indents
              | none => .fault [] .badDedent

def Scanner.line (s : Scanner) (line : List Char) : LineResult :=
  match s.pending with
  | some opened => s.stringLine opened line
  | none =>
      if s.depth = 0 && !s.continued then s.freshLine line
      else
        let row := s.row + 1
        let tail := scanTail row 0 0 s.depth line
        .next tail.tokens (s.afterLine row tail)

/-- The tokens after the last line: a line end that was left out, a dedent for every open block, and
the end of the source. -/
def finalTokens (row : Nat) (last : List Char) (indents : List Nat) : List Token :=
  let implied :=
    match last.getLast? with
    | some c =>
        if c == '\r' || c == '\n' || (Text.trim last).head? == some '#' then []
        else [⟨.newline, "", row - 1, last.length⟩]
    | none => []
  implied ++ List.replicate (indents.length - 1) ⟨.dedent, "", row, 0⟩ ++ [⟨.finish, "", row, 0⟩]

def Scanner.finish (s : Scanner) (last : List Char) : Scan :=
  match s.pending with
  | some opened => ⟨[], some (.openString opened.row opened.column)⟩
  | none =>
      if s.depth = 0 && !s.continued then ⟨finalTokens (s.row + 1) last s.indents, none⟩
      else ⟨[], some (.openStatement (s.row + 1))⟩

abbrev Line := Except Text.Utf8Fault (List Char)

def Scanner.lines (s : Scanner) (last : List Char) : List Line → Scan
  | [] => s.finish last
  | .error fault :: _ => ⟨[], some (.undecodable fault)⟩
  | .ok line :: rest =>
      match s.line line with
      | .next tokens s' => (s'.lines line rest).prepend tokens
      | .blankEnd => ⟨finalTokens (s.row + 1) last s.indents, none⟩
      | .fault tokens fault => ⟨tokens, some fault⟩

def scan (lines : List Line) : Scan := Scanner.lines {} [] lines

def textLines (s : List Char) : List Line := (Text.feedLines s).map .ok

def byteLinesFrom : List UInt8 → List UInt8 → List Line
  | line, [] => if line.isEmpty then [] else [Text.decodeUtf8 line.reverse]
  | line, b :: bs =>
      if b = 10 then Text.decodeUtf8 (b :: line).reverse :: byteLinesFrom [] bs
      else byteLinesFrom (b :: line) bs

def byteLines (bytes : List UInt8) : List Line := byteLinesFrom [] bytes

end Harvest.Source
