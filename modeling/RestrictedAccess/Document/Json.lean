/-
JSON documents. Reading accepts exactly the grammar of the format with nothing but blanks around
the value; writing puts every entry on its own line, two spaces deeper for each level.
-/

import RestrictedAccess.Document.Value

namespace RestrictedAccess.Document.Json

/-! ### Reading -/

def isBlank (c : Char) : Bool :=
  c = ' ' || c = '\n' || c = '\r' || c = '\t'

def skipBlank (chars : List Char) : List Char :=
  chars.dropWhile isBlank

def unit? (a b c d : Char) : Option Nat :=
  Digits.read? 16 [a, b, c, d]

def isHighSurrogate (unit : Nat) : Bool :=
  0xD800 ≤ unit && unit < 0xDC00

def isLowSurrogate (unit : Nat) : Bool :=
  0xDC00 ≤ unit && unit < 0xE000

def ofSurrogates (high low : Nat) : Char :=
  Char.ofNat (0x10000 + (high - 0xD800) * 0x400 + (low - 0xDC00))

def escaped? : Char → Option Char
  | '"' => some '"'
  | '\\' => some '\\'
  | '/' => some '/'
  | 'b' => some (Char.ofNat 8)
  | 'f' => some (Char.ofNat 12)
  | 'n' => some '\n'
  | 'r' => some '\r'
  | 't' => some '\t'
  | _ => none

/-- Read a text after its opening quote. The result is no text when the escapes hold a surrogate
without its partner; such a text can be skipped but not used. -/
def readText : List Char → List Char → Bool → Option (Option String × List Char)
  | '"' :: rest, read, whole =>
      some (if whole then some (String.ofList read.reverse) else none, rest)
  | '\\' :: 'u' :: a :: b :: c :: d :: '\\' :: 'u' :: e :: f :: g :: h :: rest, read, whole =>
      match unit? a b c d, unit? e f g h with
      | some first, some second =>
          if isHighSurrogate first && isLowSurrogate second then
            readText rest (ofSurrogates first second :: read) whole
          else if isHighSurrogate first || isLowSurrogate first then
            readText ('\\' :: 'u' :: e :: f :: g :: h :: rest) read false
          else readText ('\\' :: 'u' :: e :: f :: g :: h :: rest) (Char.ofNat first :: read) whole
      | _, _ => none
  | '\\' :: 'u' :: a :: b :: c :: d :: rest, read, whole =>
      match unit? a b c d with
      | some unit =>
          if isHighSurrogate unit || isLowSurrogate unit then readText rest read false
          else readText rest (Char.ofNat unit :: read) whole
      | none => none
  | '\\' :: c :: rest, read, whole =>
      match escaped? c with
      | some character => readText rest (character :: read) whole
      | none => none
  | c :: rest, read, whole =>
      if c = '\\' || c.toNat < 0x20 then none else readText rest (c :: read) whole
  | [], _, _ => none
termination_by chars => chars.length

def digits (chars : List Char) : List Char × List Char :=
  (chars.takeWhile Char.isDigit, chars.dropWhile Char.isDigit)

def skipFraction : List Char → Option (Bool × List Char)
  | '.' :: rest =>
      match digits rest with
      | ([], _) => none
      | (_, rest) => some (true, rest)
  | rest => some (false, rest)

def skipExponentDigits (chars : List Char) : Option (Bool × List Char) :=
  let unsigned := match chars with
    | '+' :: rest => rest
    | '-' :: rest => rest
    | rest => rest
  match digits unsigned with
  | ([], _) => none
  | (_, rest) => some (true, rest)

def skipExponent : List Char → Option (Bool × List Char)
  | 'e' :: rest => skipExponentDigits rest
  | 'E' :: rest => skipExponentDigits rest
  | rest => some (false, rest)

/-- Read a number. Only a whole number without fraction, exponent or negative zero counts as
whole. -/
def readNumber (chars : List Char) : Option (Value × List Char) := do
  let (negative, unsigned) := match chars with
    | '-' :: rest => (true, rest)
    | rest => (false, rest)
  let (whole, rest) := digits unsigned
  if whole = [] ∨ (whole.head? = some '0' ∧ whole.length ≠ 1) then none
  else
    let magnitude ← Digits.read? 10 whole
    let (hasFraction, rest) ← skipFraction rest
    let (hasExponent, rest) ← skipExponent rest
    if hasFraction || hasExponent || (negative && magnitude = 0) then some (.other, rest)
    else some (.integer (if negative then -magnitude else magnitude), rest)

/-- A table of pairs. One with a key that is no text can be skipped but not used. -/
def tableOf (pairs : List (Option String × Value)) : Value :=
  match pairs.mapM (fun (key, value) => key.map (·, value)) with
  | some pairs => .table pairs true
  | none => .other

mutual

/-- Read a value and return the input after it. The fuel bounds the number of steps. -/
def readValue : Nat → List Char → Option (Value × List Char)
  | 0, _ => none
  | fuel + 1, chars =>
      match skipBlank chars with
      | '{' :: rest =>
          match skipBlank rest with
          | '}' :: rest => some (.table [] true, rest)
          | rest => readPairs fuel rest []
      | '[' :: rest =>
          match skipBlank rest with
          | ']' :: rest => some (.list [] true, rest)
          | rest => readItems fuel rest []
      | '"' :: rest =>
          (readText rest [] true).map (fun (value, rest) =>
            (match value with
              | some value => .text value
              | none => .other, rest))
      | 'n' :: 'u' :: 'l' :: 'l' :: rest => some (.null, rest)
      | 't' :: 'r' :: 'u' :: 'e' :: rest => some (.bool true, rest)
      | 'f' :: 'a' :: 'l' :: 's' :: 'e' :: rest => some (.bool false, rest)
      | rest => readNumber rest

def readPairs : Nat → List Char → List (Option String × Value) → Option (Value × List Char)
  | 0, _, _ => none
  | fuel + 1, chars, pairs =>
      match skipBlank chars with
      | '"' :: rest =>
          match readText rest [] true with
          | some (key, rest) =>
              match skipBlank rest with
              | ':' :: rest =>
                  match readValue fuel rest with
                  | some (value, rest) =>
                      match skipBlank rest with
                      | ',' :: rest => readPairs fuel rest ((key, value) :: pairs)
                      | '}' :: rest => some (tableOf ((key, value) :: pairs).reverse, rest)
                      | _ => none
                  | none => none
              | _ => none
          | _ => none
      | _ => none

def readItems : Nat → List Char → List Value → Option (Value × List Char)
  | 0, _, _ => none
  | fuel + 1, chars, items =>
      match readValue fuel chars with
      | some (value, rest) =>
          match skipBlank rest with
          | ',' :: rest => readItems fuel rest (value :: items)
          | ']' :: rest => some (.list (value :: items).reverse true, rest)
          | _ => none
      | none => none

end

/-- Read a whole document. Every two steps consume a character, which bounds the fuel. -/
def read? (document : String) : Option Value :=
  match readValue (2 * document.length + 2) document.toList with
  | some (value, rest) => if skipBlank rest = [] then some value else none
  | none => none

/-! ### Writing -/

/-- A character inside a quoted text. Only quotes, backslashes and control characters are
escaped. -/
def escapeChar (c : Char) : List Char :=
  if c = '"' then ['\\', '"']
  else if c = '\\' then ['\\', '\\']
  else if c = '\n' then ['\\', 'n']
  else if c = '\r' then ['\\', 'r']
  else if c = '\t' then ['\\', 't']
  else if c.toNat = 8 then ['\\', 'b']
  else if c.toNat = 12 then ['\\', 'f']
  else if c.toNat < 0x20 then
    '\\' :: 'u' :: Digits.hexDigits .lower 4 c.toNat
  else [c]

def quote (text : String) : String :=
  String.ofList ('"' :: text.toList.flatMap escapeChar ++ ['"'])

def writeScalar : Scalar → String
  | .bool value => if value then "true" else "false"
  | .natural value => toString value
  | .text value => quote value

def braced (indent : String) (lines : List String) : String :=
  if lines = [] then "\x7b\x7d"
  else
    "\x7b\n" ++ ",\n".intercalate (lines.map (fun line => indent ++ "  " ++ line))
      ++ "\n" ++ indent ++ "\x7d"

def writeSection (group : Section) : String :=
  quote group.title ++ ": " ++ braced "  "
    (group.entries.map (fun (key, value) => quote key ++ ": " ++ writeScalar value))

def write (sections : List Section) : String :=
  braced "" (sections.map writeSection)

end RestrictedAccess.Document.Json
