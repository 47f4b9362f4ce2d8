/-
The lexemes of YAML documents. Besides those that are written, there are lexemes that stand for
indentation: a block starts where a key or an item is indented further than the block around it,
and ends where something is indented less. That a scalar or a flow collection is a key shows only
at the colon behind it, so the lexeme of a key is inserted before what has been read already.
-/

import RestrictedAccess.Document.Yaml.Scalar
import RestrictedAccess.Document.Yaml.Tag

namespace RestrictedAccess.Document.Yaml

inductive Lexeme
  | directive (directive : Directive)
  | documentStart
  | documentEnd
  | blockSequenceStart
  | blockMappingStart
  | blockEnd
  | flowSequenceStart
  | flowSequenceEnd
  | flowMappingStart
  | flowMappingEnd
  | blockEntry
  | flowEntry
  | key
  | value
  | alias (name : List Char)
  | anchor (name : List Char)
  | tag (tag : Tag)
  | scalar (text : List Char) (style : ScalarStyle)
  deriving DecidableEq

structure PossibleKey where
  isRequired : Bool
  position : Nat
  index : Nat
  line : Nat
  column : Nat

structure Lexing where
  cursor : Cursor
  /-- The lexemes, the last of them first. -/
  lexemes : List Lexeme
  count : Nat
  margin : Nat
  /-- The margins of the blocks around it. -/
  outerMargins : List Nat
  allowsKey : Bool
  key : Option PossibleKey
  outerKeys : List (Option PossibleKey)

namespace Lexing

def start (chars : List Char) : Lexing :=
  { cursor := .atStart chars
    lexemes := []
    count := 0
    margin := 0
    outerMargins := []
    allowsKey := true
    key := none
    outerKeys := [] }

def inFlow (lexing : Lexing) : Bool :=
  !lexing.outerKeys.isEmpty

def skip (lexing : Lexing) (count : Nat) : Lexing :=
  { lexing with cursor := lexing.cursor.skip count }

def add (lexing : Lexing) (lexeme : Lexeme) : Lexing :=
  { lexing with lexemes := lexeme :: lexing.lexemes, count := lexing.count + 1 }

def insert (lexing : Lexing) (position : Nat) (lexeme : Lexeme) : Lexing :=
  let behind := lexing.count - position
  { lexing with
    lexemes := lexing.lexemes.take behind ++ lexeme :: lexing.lexemes.drop behind
    count := lexing.count + 1 }

/-! ### Indentation -/

def startBlock (lexing : Lexing) (column position : Nat) (lexeme : Lexeme) : Lexing :=
  if lexing.inFlow || column < lexing.margin then lexing
  else
    { lexing.insert position lexeme with
      margin := column + 1
      outerMargins := lexing.margin :: lexing.outerMargins }

def endBlocks (lexing : Lexing) (margin : Nat) : Lexing :=
  if lexing.inFlow then lexing
  else
    let ended := (lexing.margin :: lexing.outerMargins).takeWhile (margin < ·)
    let (next, outer) := match (lexing.margin :: lexing.outerMargins).drop ended.length with
      | [] => (0, [])
      | next :: outer => (next, outer)
    { lexing with
      lexemes := List.replicate ended.length .blockEnd ++ lexing.lexemes
      count := lexing.count + ended.length
      margin := next
      outerMargins := outer }

/-! ### Possible keys -/

def maxKeySize : Nat := 1024

/-- Whether a possible key can no longer be one, because it is too long or its line has ended. -/
def isStale (cursor : Cursor) (key : PossibleKey) : Bool :=
  key.line < cursor.line || key.index + maxKeySize < cursor.index

def dropKey? : Option PossibleKey → Option (Option PossibleKey)
  | some key => if key.isRequired then none else some none
  | none => some none

def dropStaleKeys? (lexing : Lexing) : Option Lexing := do
  let isDropped (key : Option PossibleKey) : Bool := key.any (isStale lexing.cursor)
  let refresh (key : Option PossibleKey) : Option (Option PossibleKey) :=
    if isDropped key then dropKey? key else some key
  if isDropped lexing.key || lexing.outerKeys.any isDropped then
    let key ← refresh lexing.key
    let outerKeys ← lexing.outerKeys.mapM refresh
    return { lexing with key, outerKeys }
  else return lexing

def dropKeyHere? (lexing : Lexing) : Option Lexing :=
  (dropKey? lexing.key).map (fun key => { lexing with key })

/-- Note that a key may start here. It is required where it has the indentation of a block. -/
def noteKey? (lexing : Lexing) : Option Lexing :=
  if lexing.allowsKey then do
    let lexing ← lexing.dropKeyHere?
    return { lexing with
      key := some
        { isRequired := !lexing.inFlow && lexing.margin = lexing.cursor.column + 1
          position := lexing.count
          index := lexing.cursor.index
          line := lexing.cursor.line
          column := lexing.cursor.column } }
  else some lexing

/-! ### Between lexemes -/

def skipByteOrderMark (cursor : Cursor) : Cursor :=
  if cursor.column = 0 && cursor.rest.head?.any (·.toNat = 0xFEFF) then cursor.skip 1 else cursor

/-- Move to the next lexeme. Tabs are skipped only where no key may start. -/
def skipToLexeme : Nat → Lexing → Option Lexing
  | 0, _ => none
  | fuel + 1, lexing =>
      let takesTabs := lexing.inFlow || !lexing.allowsKey
      let isSkipped (c : Char) : Bool := c = ' ' || (takesTabs && c = '\t')
      let cursor := ((skipByteOrderMark lexing.cursor).skipWhile isSkipped).skipComment
      match cursor.takeLineEnd with
      | ([], _) => some { lexing with cursor }
      | (_, cursor) =>
          skipToLexeme fuel { lexing with cursor, allowsKey := lexing.allowsKey || !lexing.inFlow }

/-! ### Single lexemes -/

def outside? (lexing : Lexing) : Option Lexing := do
  let lexing ← (lexing.endBlocks 0).dropKeyHere?
  return { lexing with allowsKey := false }

def openFlow? (lexing : Lexing) (lexeme : Lexeme) : Option Lexing := do
  let lexing ← lexing.noteKey?
  return { (lexing.add lexeme).skip 1 with
    allowsKey := true
    key := none
    outerKeys := lexing.key :: lexing.outerKeys }

def closeFlow? (lexing : Lexing) (lexeme : Lexeme) : Option Lexing := do
  let lexing ← lexing.dropKeyHere?
  let closed := { (lexing.add lexeme).skip 1 with allowsKey := false }
  match lexing.outerKeys with
  | key :: outerKeys => return { closed with key, outerKeys }
  | [] => return closed

def flowEntry? (lexing : Lexing) : Option Lexing := do
  let lexing ← lexing.dropKeyHere?
  return { (lexing.add .flowEntry).skip 1 with allowsKey := true }

def startBlockHere? (lexing : Lexing) (lexeme : Lexeme) : Option Lexing :=
  if lexing.inFlow then some lexing
  else if lexing.allowsKey then
    some (lexing.startBlock lexing.cursor.column lexing.count lexeme)
  else none

def blockEntry? (lexing : Lexing) : Option Lexing := do
  let lexing ← (← lexing.startBlockHere? .blockSequenceStart).dropKeyHere?
  return { (lexing.add .blockEntry).skip 1 with allowsKey := true }

def explicitKey? (lexing : Lexing) : Option Lexing := do
  let lexing ← (← lexing.startBlockHere? .blockMappingStart).dropKeyHere?
  return { (lexing.add .key).skip 1 with allowsKey := !lexing.inFlow }

/-- A colon. If a key may have started before, it did. -/
def value? (lexing : Lexing) : Option Lexing :=
  match lexing.key with
  | some key =>
      let keyed := (lexing.insert key.position .key).startBlock key.column key.position
        .blockMappingStart
      some { (keyed.add .value).skip 1 with key := none, allowsKey := false }
  | none => do
      let lexing ← lexing.startBlockHere? .blockMappingStart
      return { (lexing.add .value).skip 1 with allowsKey := !lexing.inFlow }

def addNoted? (lexing : Lexing) (read : Option (Lexeme × Cursor)) : Option Lexing := do
  let noted ← lexing.noteKey?
  let (lexeme, cursor) ← read
  return { noted.add lexeme with cursor, allowsKey := false }

def plain? (fuel : Nat) (lexing : Lexing) : Option Lexing := do
  let noted ← lexing.noteKey?
  let scalar ← readPlain lexing.inFlow lexing.margin fuel ⟨[], [], false, lexing.cursor⟩ []
  return { noted.add (.scalar scalar.text .plain) with
    cursor := scalar.cursor
    allowsKey := scalar.endsLine }

def block? (fuel : Nat) (isFolded : Bool) (lexing : Lexing) : Option Lexing := do
  let lexing ← lexing.dropKeyHere?
  let (text, cursor) ← readBlockScalar isFolded lexing.margin fuel (lexing.cursor.skip 1)
  return { lexing.add (.scalar text (if isFolded then .folded else .literal)) with
    cursor
    allowsKey := true }

/-! ### Choosing a lexeme -/

/-- Characters that cannot start a plain scalar unless a word goes on behind them. -/
def isIndicator (c : Char) : Bool :=
  c ∈ "-?:,[]\x7b\x7d#&*!|>'\"%@`".toList

def startsPlain (inFlow : Bool) : List Char → Bool
  | [] => false
  | c :: rest =>
      !(isBlank c || isLineEnd c || isIndicator c)
        || (c = '-' && !rest.head?.any isBlank)
        || (!inFlow && (c = '?' || c = ':') && !endsWord rest)

def readLexeme (fuel : Nat) (lexing : Lexing) : Option Lexing :=
  let cursor := lexing.cursor
  let noted (read : Option (Lexeme × Cursor)) : Option Lexing := lexing.addNoted? read
  let inFlow := lexing.inFlow
  if cursor.column = 0 && cursor.rest.head? = some '%' then do
    let lexing ← lexing.outside?
    let (directive, cursor) ← readDirective fuel (cursor.skip 1)
    return { lexing.add (.directive directive) with cursor }
  else if cursor.isAtMark "---" then
    lexing.outside?.map (fun lexing => (lexing.add .documentStart).skip 3)
  else if cursor.isAtMark "..." then
    lexing.outside?.map (fun lexing => (lexing.add .documentEnd).skip 3)
  else
    match cursor.rest with
    | [] => none
    | c :: rest =>
        if c = '[' then lexing.openFlow? .flowSequenceStart
        else if c = '{' then lexing.openFlow? .flowMappingStart
        else if c = ']' then lexing.closeFlow? .flowSequenceEnd
        else if c = '}' then lexing.closeFlow? .flowMappingEnd
        else if c = ',' then lexing.flowEntry?
        else if c = '-' && endsWord rest then lexing.blockEntry?
        else if c = '?' && (inFlow || endsWord rest) then lexing.explicitKey?
        else if c = ':' && (inFlow || endsWord rest) then lexing.value?
        else if c = '*' then
          noted ((readAnchorName (cursor.skip 1)).map (fun (name, next) => (.alias name, next)))
        else if c = '&' then
          noted ((readAnchorName (cursor.skip 1)).map (fun (name, next) => (.anchor name, next)))
        else if c = '!' then
          noted ((readTag inFlow fuel cursor).map (fun (tag, next) => (.tag tag, next)))
        else if c = '|' && !inFlow then lexing.block? fuel false
        else if c = '>' && !inFlow then lexing.block? fuel true
        else if c = '\'' then
          noted ((readSingle fuel (cursor.skip 1) []).map (fun (text, next) =>
            (.scalar text .singleQuoted, next)))
        else if c = '"' then
          noted ((readDouble fuel (cursor.skip 1) []).map (fun (text, next) =>
            (.scalar text .doubleQuoted, next)))
        else if startsPlain inFlow (c :: rest) then lexing.plain? fuel
        else none

def readAll (size : Nat) : Nat → Lexing → Option Lexing
  | 0, _ => none
  | fuel + 1, lexing => do
      let lexing ← (← skipToLexeme size lexing).dropStaleKeys?
      let lexing := lexing.endBlocks (lexing.cursor.column + 1)
      if lexing.cursor.rest.isEmpty then (lexing.endBlocks 0).dropKeyHere?
      else readAll size fuel (← readLexeme size lexing)

end Lexing

/-- The lexemes of a document. Each consumes a character, which bounds the fuel. -/
def lexemes? (chars : List Char) : Option (List Lexeme) :=
  if chars.all isAllowed then
    let size := chars.length + 2
    (Lexing.readAll size size (.start chars)).map (fun lexing => lexing.lexemes.reverse)
  else none

end RestrictedAccess.Document.Yaml
