/-
Places in a document. Whether a word of YAML may stand somewhere depends on its line and column, so
reading moves a cursor that counts both. Every way to end a line counts as one line end.
-/

namespace RestrictedAccess.Document.Yaml

/-! ### Characters -/

def isBlank (c : Char) : Bool :=
  c = ' ' || c = '\t'

def isLineEnd (c : Char) : Bool :=
  c = '\n' || c = '\r' || c.toNat = 0x85 || c.toNat = 0x2028 || c.toNat = 0x2029

def endsWord : List Char → Bool
  | [] => true
  | c :: _ => isBlank c || isLineEnd c

def endsLine : List Char → Bool
  | [] => true
  | c :: _ => isLineEnd c

def isNameChar (c : Char) : Bool :=
  c.isAlphanum || c = '_' || c = '-'

def isAllowed (c : Char) : Bool :=
  let code := c.toNat
  c = '\t' || c = '\n' || c = '\r' || (0x20 ≤ code && code ≤ 0x7E) || code = 0x85
    || (0xA0 ≤ code && code ≤ 0xD7FF) || (0xE000 ≤ code && code ≤ 0xFFFD) || 0x10000 ≤ code

/-! ### Cursors -/

structure Cursor where
  rest : List Char
  index : Nat
  line : Nat
  column : Nat

namespace Cursor

def atStart (chars : List Char) : Cursor :=
  ⟨chars, 0, 0, 0⟩

def skip (cursor : Cursor) (count : Nat) : Cursor :=
  { cursor with
    rest := cursor.rest.drop count
    index := cursor.index + count
    column := cursor.column + count }

def skipWhile (cursor : Cursor) (kind : Char → Bool) : Cursor :=
  cursor.skip (cursor.rest.takeWhile kind).length

def nextLine (cursor : Cursor) (width : Nat) : Cursor :=
  { rest := cursor.rest.drop width
    index := cursor.index + width
    line := cursor.line + 1
    column := 0 }

/-- Read a line end if there is one. The separators of lines and paragraphs stay as they are, all
other line ends become one character. -/
def takeLineEnd (cursor : Cursor) : List Char × Cursor :=
  match cursor.rest with
  | '\r' :: '\n' :: _ => (['\n'], cursor.nextLine 2)
  | c :: _ =>
      if c = '\n' || c = '\r' || c.toNat = 0x85 then (['\n'], cursor.nextLine 1)
      else if isLineEnd c then ([c], cursor.nextLine 1)
      else ([], cursor)
  | [] => ([], cursor)

def skipComment (cursor : Cursor) : Cursor :=
  match cursor.rest with
  | '#' :: _ => cursor.skipWhile (fun c => !isLineEnd c)
  | _ => cursor

def skipRestOfLine? (cursor : Cursor) : Option Cursor :=
  let cursor := (cursor.skipWhile isBlank).skipComment
  if endsLine cursor.rest then some cursor.takeLineEnd.2 else none

def isAtMark (cursor : Cursor) (mark : String) : Bool :=
  cursor.column = 0 && mark.toList.isPrefixOf cursor.rest && endsWord (cursor.rest.drop 3)

def isAtDocumentMark (cursor : Cursor) : Bool :=
  cursor.isAtMark "---" || cursor.isAtMark "..."

end Cursor

end RestrictedAccess.Document.Yaml
