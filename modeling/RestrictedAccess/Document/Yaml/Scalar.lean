/-
Scalars of YAML documents. A plain or quoted scalar may go on over several lines, which are folded:
a single line end becomes a blank and of several the first is dropped. A block scalar takes whole
lines of one indentation, and its header tells what becomes of the line ends at its end.
-/

import RestrictedAccess.Document.Digits
import RestrictedAccess.Document.Yaml.Cursor

namespace RestrictedAccess.Document.Yaml

inductive ScalarStyle
  | plain
  | singleQuoted
  | doubleQuoted
  | literal
  | folded
  deriving DecidableEq

/-! ### Gaps between words -/

structure Gap where
  /-- The blanks before the first line end, the last of them first. -/
  blanks : List Char
  /-- The line ends, the last of them first. -/
  lineEnds : List Char
  isBroken : Bool
  cursor : Cursor

/-- Fold line ends. The separators of lines and paragraphs are not folded. -/
def fold : List Char → List Char
  | ['\n'] => [' ']
  | '\n' :: rest => rest
  | lineEnds => lineEnds

def Gap.text (gap : Gap) : List Char :=
  if gap.isBroken then fold gap.lineEnds.reverse else gap.blanks.reverse

/-- Read on in a gap. On its further lines, tabs do not count as indentation. -/
def readGap (indent : Nat) : Nat → Gap → Option Gap
  | 0, _ => none
  | fuel + 1, gap =>
      match gap.cursor.rest with
      | [] => some gap
      | c :: _ =>
          if isBlank c then
            if gap.isBroken && c = '\t' && gap.cursor.column < indent then none
            else
              readGap indent fuel { gap with
                blanks := if gap.isBroken then gap.blanks else c :: gap.blanks
                cursor := gap.cursor.skip 1 }
          else if isLineEnd c then
            let (lineEnd, cursor) := gap.cursor.takeLineEnd
            readGap indent fuel { gap with
              lineEnds := lineEnd ++ gap.lineEnds
              isBroken := true
              cursor }
          else some gap

/-! ### Quoted scalars -/

/-- Read a single-quoted scalar after its opening quote. Two quotes stand for one. -/
def readSingle : Nat → Cursor → List Char → Option (List Char × Cursor)
  | 0, _, _ => none
  | fuel + 1, cursor, read =>
      if cursor.isAtDocumentMark then none
      else
        match cursor.rest with
        | '\'' :: '\'' :: _ => readSingle fuel (cursor.skip 2) ('\'' :: read)
        | '\'' :: _ => some (read.reverse, cursor.skip 1)
        | c :: _ =>
            if isBlank c || isLineEnd c then
              match readGap 0 fuel ⟨[], [], false, cursor⟩ with
              | some gap => readSingle fuel gap.cursor (gap.text.reverse ++ read)
              | none => none
            else readSingle fuel (cursor.skip 1) (c :: read)
        | [] => none

def escaped? : Char → Option Char
  | '0' => some (Char.ofNat 0)
  | 'a' => some (Char.ofNat 7)
  | 'b' => some (Char.ofNat 8)
  | 't' => some '\t'
  | '\t' => some '\t'
  | 'n' => some '\n'
  | 'v' => some (Char.ofNat 11)
  | 'f' => some (Char.ofNat 12)
  | 'r' => some '\r'
  | 'e' => some (Char.ofNat 27)
  | ' ' => some ' '
  | '"' => some '"'
  | '/' => some '/'
  | '\\' => some '\\'
  | 'N' => some (Char.ofNat 0x85)
  | '_' => some (Char.ofNat 0xA0)
  | 'L' => some (Char.ofNat 0x2028)
  | 'P' => some (Char.ofNat 0x2029)
  | _ => none

def escapeWidth? : Char → Option Nat
  | 'x' => some 2
  | 'u' => some 4
  | 'U' => some 8
  | _ => none

def readEscape : List Char → Option (Char × Nat)
  | c :: rest =>
      match escapeWidth? c with
      | some width =>
          if (rest.take width).length = width then
            (Digits.readChar? (rest.take width)).map (·, width + 1)
          else none
      | none => (escaped? c).map (·, 1)
  | [] => none

/-- Read a double-quoted scalar after its opening quote. A backslash at the end of a line takes the
line end away. -/
def readDouble : Nat → Cursor → List Char → Option (List Char × Cursor)
  | 0, _, _ => none
  | fuel + 1, cursor, read =>
      if cursor.isAtDocumentMark then none
      else
        match cursor.rest with
        | '"' :: _ => some (read.reverse, cursor.skip 1)
        | '\\' :: rest =>
            if !rest.isEmpty && endsLine rest then
              match readGap 0 fuel ⟨[], [], true, (cursor.skip 1).takeLineEnd.2⟩ with
              | some gap => readDouble fuel gap.cursor (gap.lineEnds ++ read)
              | none => none
            else
              match readEscape rest with
              | some (c, width) => readDouble fuel (cursor.skip (width + 1)) (c :: read)
              | none => none
        | c :: _ =>
            if isBlank c || isLineEnd c then
              match readGap 0 fuel ⟨[], [], false, cursor⟩ with
              | some gap => readDouble fuel gap.cursor (gap.text.reverse ++ read)
              | none => none
            else readDouble fuel (cursor.skip 1) (c :: read)
        | [] => none

/-! ### Plain scalars -/

def isFlowMark (c : Char) : Bool :=
  c ∈ ",[]\x7b\x7d".toList

def isMisplaced (c : Char) : Bool :=
  isFlowMark c || c = '?'

/-- Read the rest of a word of a plain scalar. It ends at a blank, at a colon that ends a key, and
in a flow collection at one of its marks. -/
def readWord (inFlow : Bool) : Nat → Cursor → List Char → Option (List Char × Cursor)
  | 0, _, _ => none
  | fuel + 1, cursor, read =>
      match cursor.rest with
      | [] => some (read, cursor)
      | c :: rest =>
          if isBlank c || isLineEnd c then some (read, cursor)
          else if inFlow && c = ':' && rest.head?.any isMisplaced then none
          else if (c = ':' && endsWord rest) || (inFlow && isFlowMark c) then some (read, cursor)
          else readWord inFlow fuel (cursor.skip 1) (c :: read)

structure PlainScalar where
  text : List Char
  endsLine : Bool
  cursor : Cursor

def Gap.endPlain (gap : Gap) (read : List Char) : PlainScalar :=
  ⟨read.reverse, gap.isBroken, gap.cursor⟩

/-- Read the words of a plain scalar. Its further lines have an indentation unless it stands in a
flow collection. The gap is the one before the next word. -/
def readPlain (inFlow : Bool) (indent : Nat) : Nat → Gap → List Char → Option PlainScalar
  | 0, _, _ => none
  | fuel + 1, gap, read =>
      if gap.cursor.isAtDocumentMark || gap.cursor.rest.head? = some '#' then
        some (gap.endPlain read)
      else
        match readWord inFlow fuel gap.cursor [] with
        | none => none
        | some ([], _) => some (gap.endPlain read)
        | some (word, cursor) =>
            let read := word ++ (gap.text.reverse ++ read)
            if cursor.rest.isEmpty || !endsWord cursor.rest then
              some ⟨read.reverse, false, cursor⟩
            else
              match readGap indent fuel ⟨[], [], false, cursor⟩ with
              | none => none
              | some gap =>
                  if !inFlow && gap.cursor.column < indent then some (gap.endPlain read)
                  else readPlain inFlow indent fuel gap read

/-! ### Block scalars -/

inductive Chomping
  | clip
  | strip
  | keep
  deriving DecidableEq

def Chomping.ofMark? : Char → Option Chomping
  | '+' => some .keep
  | '-' => some .strip
  | _ => none

structure BlockHeader where
  chomping : Chomping
  increment : Nat

def leadingDigit (chars : List Char) : List Char :=
  (chars.take 1).filter Char.isDigit

/-- Read the header of a block scalar after its mark, up to the end of the line. A sign and a digit
may stand in either order. -/
def readBlockHeader (cursor : Cursor) : Option (BlockHeader × Cursor) := do
  let (chomping, increment, width) :=
    match cursor.rest with
    | [] => (none, [], 0)
    | c :: rest =>
        match Chomping.ofMark? c with
        | some chomping => (some chomping, leadingDigit rest, 1 + (leadingDigit rest).length)
        | none =>
            let digit := leadingDigit (c :: rest)
            match rest.head?.bind Chomping.ofMark? with
            | some chomping =>
                if digit.isEmpty then (none, digit, 0) else (some chomping, digit, 2)
            | none => (none, digit, digit.length)
  if increment = ['0'] then none
  else
    let cursor ← (cursor.skip width).skipRestOfLine?
    return (⟨chomping.getD .clip, (Digits.read? 10 increment).getD 0⟩, cursor)

structure BlockGap where
  /-- The line ends, the last of them first. -/
  lineEnds : List Char
  widest : Nat
  cursor : Cursor

/-- Skip empty lines and the indentation of the next line. An indentation of zero is not known
yet; then all blanks count as indentation. -/
def readBlockGap (indent : Nat) : Nat → BlockGap → Option BlockGap
  | 0, _ => none
  | fuel + 1, gap =>
      let spaces := (gap.cursor.rest.takeWhile (· = ' ')).length
      let cursor := gap.cursor.skip
        (if indent = 0 then spaces else min spaces (indent - gap.cursor.column))
      let widest := max gap.widest cursor.column
      if (indent = 0 || cursor.column < indent) && cursor.rest.head? = some '\t' then none
      else
        match cursor.takeLineEnd with
        | ([], _) => some ⟨gap.lineEnds, widest, cursor⟩
        | (lineEnd, cursor) =>
            readBlockGap indent fuel ⟨lineEnd ++ gap.lineEnds, widest, cursor⟩

structure BlockScalar where
  /-- The characters, the last of them first. -/
  read : List Char
  lineEnd : List Char
  startsBlank : Bool
  gap : BlockGap

/-- The text between the last line and the next. Only the end of a line that does not start with a
blank is folded, and only before another such line. -/
def BlockScalar.joint (scalar : BlockScalar) (isFolded nextStartsBlank : Bool) : List Char :=
  let lineEnds := scalar.gap.lineEnds.reverse
  if isFolded && scalar.lineEnd = ['\n'] && !scalar.startsBlank && !nextStartsBlank then
    if lineEnds.isEmpty then [' '] else lineEnds
  else scalar.lineEnd ++ lineEnds

def readBlockLines (isFolded : Bool) (indent : Nat) : Nat → BlockScalar → Option BlockScalar
  | 0, _ => none
  | fuel + 1, scalar =>
      let cursor := scalar.gap.cursor
      if cursor.column ≠ indent ∨ cursor.rest = [] then some scalar
      else
        let startsBlank := cursor.rest.head?.any isBlank
        let line := cursor.rest.takeWhile (fun c => !isLineEnd c)
        let (lineEnd, next) := (cursor.skip line.length).takeLineEnd
        match readBlockGap indent fuel ⟨[], 0, next⟩ with
        | some gap =>
            readBlockLines isFolded indent fuel
              { read := line.reverse ++ (scalar.joint isFolded startsBlank).reverse ++ scalar.read
                lineEnd
                startsBlank
                gap }
        | none => none

def BlockScalar.text (scalar : BlockScalar) (chomping : Chomping) : List Char :=
  scalar.read.reverse
    ++ (if chomping = .strip then [] else scalar.lineEnd)
    ++ (if chomping = .keep then scalar.gap.lineEnds.reverse else [])

/-- Read a block scalar after its mark. What is inside the surrounding block has at least the
margin as its column. -/
def readBlockScalar (isFolded : Bool) (margin fuel : Nat) (cursor : Cursor) :
    Option (List Char × Cursor) := do
  let (header, cursor) ← readBlockHeader cursor
  let given := if header.increment = 0 then 0 else margin - 1 + header.increment
  let gap ← readBlockGap given fuel ⟨[], 0, cursor⟩
  let indent := if given = 0 then max gap.widest (max margin 1) else given
  let scalar ← readBlockLines isFolded indent fuel ⟨[], [], false, gap⟩
  return (scalar.text header.chomping, scalar.gap.cursor)

end RestrictedAccess.Document.Yaml
