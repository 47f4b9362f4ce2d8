/-
Names in YAML documents: those of anchors, the handles and suffixes of tags, and directives. A tag
is written with a handle, for which a directive or the format itself names what it stands for.
-/

import RestrictedAccess.Document.Digits
import RestrictedAccess.Document.Yaml.Cursor

namespace RestrictedAccess.Document.Yaml

/-! ### Anchors -/

/-- Read the name of an anchor after its mark. Only some marks may follow it directly. -/
def readAnchorName (cursor : Cursor) : Option (List Char × Cursor) :=
  let name := cursor.rest.takeWhile isNameChar
  let next := cursor.skip name.length
  if name.isEmpty then none
  else if endsWord next.rest || next.rest.head?.any (· ∈ "?:,]\x7d%@`".toList) then
    some (name, next)
  else none

/-! ### Tags -/

/-- A tag as it is written. Without a handle, the suffix is the whole tag. -/
structure Tag where
  handle : List Char
  suffix : List Char
  deriving DecidableEq

/-- Characters of a tag besides those of names. A tag between angle brackets may also have the
marks of lists. -/
def isTagChar (isVerbatim : Bool) (c : Char) : Bool :=
  isNameChar c || c ∈ ";/?:@&=+$.%!~*'()".toList || (isVerbatim && c ∈ ",[]".toList)

def byteCount? (byte : Nat) : Option Nat :=
  if byte < 0x80 then some 1
  else if byte < 0xC0 then none
  else if byte < 0xE0 then some 2
  else if byte < 0xF0 then some 3
  else if byte < 0xF8 then some 4
  else none

def readByte? : List Char → Option Nat
  | '%' :: high :: low :: _ => Digits.read? 16 [high, low]
  | _ => none

def readFurtherBytes : Nat → Cursor → List Nat → Option (List Nat × Cursor)
  | 0, cursor, bytes => some (bytes.reverse, cursor)
  | count + 1, cursor, bytes =>
      match readByte? cursor.rest with
      | some byte =>
          if 0x80 ≤ byte && byte < 0xC0 then
            readFurtherBytes count (cursor.skip 3) (byte :: bytes)
          else none
      | none => none

/-- A character for bytes that are none. No tag that a section knows holds it. -/
def unreadable : Char := Char.ofNat 0xFFFD

def readBytes (cursor : Cursor) : Option (Char × Cursor) := do
  let first ← readByte? cursor.rest
  let count ← byteCount? first
  let (bytes, cursor) ← readFurtherBytes (count - 1) (cursor.skip 3) [first]
  let text := String.fromUTF8? (ByteArray.mk (bytes.map UInt8.ofNat).toArray)
  return ((text.bind (·.toList.head?)).getD unreadable, cursor)

def readTagText (isVerbatim : Bool) : Nat → Cursor → List Char → Option (List Char × Cursor)
  | 0, _, _ => none
  | fuel + 1, cursor, read =>
      match cursor.rest with
      | '%' :: _ =>
          match readBytes cursor with
          | some (c, cursor) => readTagText isVerbatim fuel cursor (c :: read)
          | none => none
      | c :: _ =>
          if isTagChar isVerbatim c then readTagText isVerbatim fuel (cursor.skip 1) (c :: read)
          else some (read.reverse, cursor)
      | [] => some (read.reverse, cursor)

def beforeNull (chars : List Char) : List Char :=
  chars.takeWhile (fun c => c.toNat != 0)

/-- Read what a tag starts with: an exclamation mark, a name and, if there is one, a second
exclamation mark. -/
def readHandle (cursor : Cursor) : List Char × Cursor :=
  let name := (cursor.rest.drop 1).takeWhile isNameChar
  let next := cursor.skip (1 + name.length)
  match next.rest with
  | '!' :: _ => ('!' :: name ++ ['!'], next.skip 1)
  | _ => ('!' :: name, next)

def readTagForm (fuel : Nat) (cursor : Cursor) : Option (Tag × Cursor) := do
  match cursor.rest with
  | '!' :: '<' :: _ =>
      let (text, cursor) ← readTagText true fuel (cursor.skip 2) []
      match text, cursor.rest with
      | _ :: _, '>' :: _ => return (⟨[], beforeNull text⟩, cursor.skip 1)
      | _, _ => none
  | _ =>
      let (handle, cursor) := readHandle cursor
      let (text, cursor) ← readTagText false fuel cursor []
      if 1 < handle.length ∧ handle.getLast? = some '!' then
        if text = [] then none else return (⟨handle, beforeNull text⟩, cursor)
      else
        let suffix := beforeNull (handle.drop 1 ++ text)
        return (if suffix = [] then ⟨[], ['!']⟩ else ⟨['!'], suffix⟩, cursor)

/-- Read a tag. A blank follows it, or in a flow collection a comma. -/
def readTag (inFlow : Bool) (fuel : Nat) (cursor : Cursor) : Option (Tag × Cursor) :=
  (readTagForm fuel cursor).filter (fun (_, cursor) =>
    endsWord cursor.rest || (inFlow && cursor.rest.head? = some ','))

/-! ### Directives -/

inductive Directive
  | version (major minor : Nat)
  | handle (name meaning : List Char)
  deriving DecidableEq

def maxVersionDigits : Nat := 9

def readVersionNumber (cursor : Cursor) : Option (Nat × Cursor) :=
  let digits := cursor.rest.takeWhile Char.isDigit
  if digits.length ≤ maxVersionDigits then
    (Digits.read? 10 digits).map (·, cursor.skip digits.length)
  else none

def readVersion (cursor : Cursor) : Option (Directive × Cursor) := do
  let (major, cursor) ← readVersionNumber (cursor.skipWhile isBlank)
  match cursor.rest with
  | '.' :: _ =>
      let (minor, cursor) ← readVersionNumber (cursor.skip 1)
      return (.version major minor, cursor)
  | _ => none

def readHandleMeaning (fuel : Nat) (cursor : Cursor) : Option (Directive × Cursor) := do
  let cursor := cursor.skipWhile isBlank
  if cursor.rest.head? ≠ some '!' then none
  else
    let (name, cursor) := readHandle cursor
    if name.getLast? ≠ some '!' ∨ !cursor.rest.head?.any isBlank then none
    else
      let (meaning, cursor) ← readTagText true fuel (cursor.skipWhile isBlank) []
      if meaning = [] ∨ !endsWord cursor.rest then none
      else return (.handle name (beforeNull meaning), cursor)

def readDirective (fuel : Nat) (cursor : Cursor) : Option (Directive × Cursor) := do
  let name := cursor.rest.takeWhile isNameChar
  let cursor := cursor.skip name.length
  if !endsWord cursor.rest then none
  else
    let (directive, cursor) ←
      if name = "YAML".toList then readVersion cursor
      else if name = "TAG".toList then readHandleMeaning fuel cursor
      else none
    return (directive, ← cursor.skipRestOfLine?)

end RestrictedAccess.Document.Yaml
