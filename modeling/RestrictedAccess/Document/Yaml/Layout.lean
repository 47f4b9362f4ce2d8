/-
Texts as they are written in YAML documents. A text is plain when a reader takes it for the same
text, and quoted otherwise; a text of several lines is written line by line below its key.
-/

import RestrictedAccess.Document.Decimal
import RestrictedAccess.Document.Value
import RestrictedAccess.Document.Yaml.Cursor

namespace RestrictedAccess.Document.Yaml

/-! ### Words with a type -/

def naturalBound : Nat := Nat.pow 2 128

def negativeBound : Nat := Nat.pow 2 127

def withoutSign : List Char → List Char
  | '+' :: rest => rest
  | '-' :: rest => rest
  | rest => rest

def isInteger (word : List Char) : Bool :=
  (Value.natOfWord? (String.ofList word)).any (· < naturalBound)
    || (match word with
        | '-' :: '+' :: _ => false
        | '-' :: magnitude =>
            (Value.natOfWord? (String.ofList magnitude)).any (· ≤ negativeBound)
        | _ => false)

def infinityWords : List String := [".inf", ".Inf", ".INF"]

def notANumberWords : List String := [".nan", ".NaN", ".NAN"]

/-- Whether a reader takes a plain word for a number with a fraction or an exponent. A plus sign may
stand before it, but no second sign behind that. -/
def isFraction (word : List Char) : Bool :=
  let (isSigned, unsigned) := match word with
    | '+' :: rest => (true, rest)
    | rest => (false, rest)
  let isInfinite := infinityWords.any (·.toList = unsigned)
    || infinityWords.any ('-' :: ·.toList = word)
  let isNegative := unsigned.head?.any (fun c => c = '+' || c = '-')
  !(isSigned && isNegative)
    && (isInfinite || notANumberWords.any (·.toList = word)
      || (Decimal.read? unsigned).any Decimal.isFinite)

/-- Whether a reader would take a plain scalar for something other than a text, or could take it
for a number. -/
def isTypedWord (word : String) : Bool :=
  Value.isNullWord word
    || (Value.boolOfWord? word).isSome
    || isInteger word.toList
    || Value.isPaddedNumber (withoutSign word.toList)
    || isFraction word.toList

/-! ### Texts that cannot be plain -/

def isPrintable (c : Char) : Bool :=
  let code := c.toNat
  c = '\n' || (0x20 ≤ code && code ≤ 0x7E) || (0xA0 ≤ code && code ≤ 0xD7FF)
    || (0xE000 ≤ code && code ≤ 0xFFFD && code != 0xFEFF) || 0x10000 ≤ code

def hasIndicator : Bool → Bool → List Char → Bool
  | _, _, [] => false
  | isFirst, afterBlank, c :: rest =>
      (if isFirst then
        c ∈ "#,[]\x7b\x7d&*!|>'\"%@`".toList
          || ((c = '?' || c = ':' || c = '-') && endsWord rest)
      else (c = ':' && endsWord rest) || (c = '#' && afterBlank))
        || hasIndicator false (isBlank c || isLineEnd c) rest

def hasBlankBeforeLineEnd : List Char → Bool
  | ' ' :: c :: rest => isLineEnd c || hasBlankBeforeLineEnd (c :: rest)
  | _ :: rest => hasBlankBeforeLineEnd rest
  | [] => false

def hasLineEndBeforeBlank : List Char → Bool
  | c :: ' ' :: rest => isLineEnd c || hasLineEndBeforeBlank (' ' :: rest)
  | _ :: rest => hasLineEndBeforeBlank rest
  | [] => false

/-- Whether a text can only be written with escapes. -/
def needsEscapes (chars : List Char) : Bool :=
  chars.any (fun c => !isPrintable c) || hasBlankBeforeLineEnd chars

def isPlain (chars : List Char) : Bool :=
  !needsEscapes chars && !isTypedWord (String.ofList chars) && !hasIndicator true true chars
    && !(["---".toList, "...".toList].any (fun mark => mark.isPrefixOf chars))
    && chars.head? != some ' ' && chars.getLast? != some ' ' && !chars.any isLineEnd

/-! ### Quoted texts -/

def escapeChar (c : Char) : List Char :=
  let code := c.toNat
  if c = '"' then ['\\', '"']
  else if c = '\\' then ['\\', '\\']
  else if isPrintable c && !isLineEnd c then [c]
  else if code = 0 then ['\\', '0']
  else if code = 7 then ['\\', 'a']
  else if code = 8 then ['\\', 'b']
  else if c = '\t' then ['\\', 't']
  else if c = '\n' then ['\\', 'n']
  else if code = 11 then ['\\', 'v']
  else if code = 12 then ['\\', 'f']
  else if c = '\r' then ['\\', 'r']
  else if code = 27 then ['\\', 'e']
  else if code = 0x85 then ['\\', 'N']
  else if code = 0x2028 then ['\\', 'L']
  else if code = 0x2029 then ['\\', 'P']
  else if code ≤ 0xFF then ['\\', 'x'] ++ Digits.hexDigits .upper 2 code
  else if code ≤ 0xFFFF then ['\\', 'u'] ++ Digits.hexDigits .upper 4 code
  else ['\\', 'U'] ++ Digits.hexDigits .upper 8 code

def doubleQuoted (chars : List Char) : List Char :=
  '"' :: chars.flatMap escapeChar ++ ['"']

/-- Characters with an indentation at the start of each line that is not empty. What is written
before them tells whether a line starts there. -/
def indented (indent : List Char) : Bool → List Char → List Char
  | _, [] => []
  | startsLine, c :: rest =>
      if isLineEnd c then c :: indented indent true rest
      else (if startsLine then indent else []) ++ c :: indented indent false rest

/-- A text between single quotes, of which one inside the text is written twice. It holds no line
ends but the separators of lines and paragraphs. -/
def singleQuoted (indent chars : List Char) : List Char :=
  let doubled := chars.flatMap (fun c => if c = '\'' then ['\'', '\''] else [c])
  '\'' :: indented indent false (doubled ++ ['\''])

/-! ### Literal texts -/

/-- The marks after the bar of a literal scalar. A digit gives the indentation when the text starts
with a blank, a sign tells what becomes of the line ends at its end. -/
def literalMarks (chars : List Char) : List Char :=
  (if chars.head?.any (fun c => c = ' ' || isLineEnd c) then ['2'] else [])
    ++ (match chars.reverse with
        | last :: before =>
            if !isLineEnd last then ['-']
            else if before.head?.all isLineEnd then ['+']
            else []
        | [] => ['-'])

def literal (indent chars : List Char) : List Char :=
  '|' :: literalMarks chars ++ '\n' :: indented indent true chars

/-! ### Entries -/

def layOut (indent : List Char) (text : String) : List Char :=
  let chars := text.toList
  if '\n' ∈ chars then
    if needsEscapes chars || chars.getLast? = some ' ' then doubleQuoted chars
    else literal indent chars
  else if isPlain chars then chars
  else if needsEscapes chars || hasLineEndBeforeBlank chars then doubleQuoted chars
  else singleQuoted indent chars

def textIndent : List Char := "    ".toList

def writeScalar : Scalar → List Char
  | .bool value => (if value then "true" else "false").toList
  | .natural value => (toString value).toList
  | .text value => layOut textIndent value

/-- An entry of a section. A text that ends with a line end is its own last line. -/
def writeEntry (entry : String × Scalar) : List Char :=
  let value := writeScalar entry.2
  let lineEnd := if value.getLast?.any isLineEnd then [] else ['\n']
  "  ".toList ++ entry.1.toList ++ ": ".toList ++ value ++ lineEnd

def writeSection (group : Section) : List Char :=
  group.title.toList ++ ":\n".toList ++ group.entries.flatMap writeEntry

def write (sections : List Section) : String :=
  String.ofList (sections.flatMap writeSection)

end RestrictedAccess.Document.Yaml
