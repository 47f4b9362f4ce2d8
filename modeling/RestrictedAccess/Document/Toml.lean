/-
TOML documents. Reading keeps the tree of tables together with how each table came about, because
the format lets a table be extended in some ways and not in others. Writing chooses for each text
the plainest of the four quotations that can hold it.
-/

import RestrictedAccess.Document.Decimal
import RestrictedAccess.Document.Value

namespace RestrictedAccess.Document.Toml

/-! ### Tables under construction -/

inductive Origin
  /-- It was named on the way to another table. -/
  | implied
  | header
  /-- It was named by a key with dots. -/
  | dotted
  /-- It is a list of tables, each with a header. -/
  | listed
  deriving DecidableEq

abbrev Entries := List (String × Value)

structure Tree where
  entries : Entries
  origins : List (List String × Origin)

namespace Tree

def empty : Tree :=
  ⟨[], []⟩

end Tree

def lookup? (entries : Entries) (key : String) : Option Value :=
  (entries.find? (fun pair => pair.1 == key)).map Prod.snd

def origin? (origins : List (List String × Origin)) (path : List String) : Option Origin :=
  (origins.find? (fun pair => pair.1 == path)).map Prod.snd

def setEntry (entries : Entries) (key : String) (value : Value) : Entries :=
  if (lookup? entries key).isSome then
    entries.map (fun pair => if pair.1 == key then (key, value) else pair)
  else entries ++ [(key, value)]

/-- Change the table at a path. Missing tables on the way are made with the given origin. A key
with dots may not reach into a table that has a header. -/
def changeAt (origins : List (List String × Origin)) (made : Origin)
    (change : Entries → Option Entries) : List String → List String → Entries →
    Option (Entries × List (List String × Origin))
  | _, [], entries => (change entries).map (fun changed => (changed, []))
  | walked, key :: rest, entries =>
      let path := walked ++ [key]
      match lookup? entries key with
      | none =>
          match changeAt origins made change path rest [] with
          | some (child, added) =>
              some (setEntry entries key (.table child false), (path, made) :: added)
          | none => none
      | some (.table child _) =>
          match origin? origins path with
          | none => none
          | some origin =>
              if made = .dotted ∧ origin = .header then none
              else
                match changeAt origins made change path rest child with
                | some (child, added) =>
                    some (setEntry entries key (.table child false), added)
                | none => none
      | some (.list items _) =>
          match origin? origins path, items.reverse with
          | some .listed, .table last _ :: earlier =>
              match changeAt origins made change path rest last with
              | some (last, added) =>
                  let items := (.table last false :: earlier).reverse
                  some (setEntry entries key (.list items false), added)
              | none => none
          | _, _ => none
      | some _ => none

def waypoints : List String → List (List String)
  | [] => []
  | key :: rest => [key] :: (waypoints rest).map (key :: ·)

/-- Whether a key with dots may be set in the table its last dot leads to. Such a table comes
about by keys with dots only. -/
def takesDotted (tree : Tree) (table path : List String) : Bool :=
  match path.dropLast, origin? tree.origins (table ++ path.dropLast) with
  | [], _ => true
  | _, none => true
  | _, some origin => origin = .dotted

def insertKey (tree : Tree) (table path : List String) (value : Value) : Option Tree := do
  let key ← path.getLast?
  if !takesDotted tree table path then none
  let insert (entries : Entries) : Option Entries :=
    if (lookup? entries key).isSome then none else some (setEntry entries key value)
  let inside (entries : Entries) : Option (Entries × List (List String × Origin)) :=
    changeAt tree.origins .dotted insert table path.dropLast entries
  let change := fun entries => (inside entries).map Prod.fst
  let (entries, _) ← changeAt tree.origins .implied change [] table tree.entries
  let added := (waypoints path.dropLast).map (fun middle => (table ++ middle, Origin.dotted))
  some ⟨entries, tree.origins
    ++ added.filter (fun pair => (origin? tree.origins pair.1).isNone)⟩

def openTable (tree : Tree) (path : List String) : Option Tree := do
  let key ← path.getLast?
  let current := origin? tree.origins path
  let change (entries : Entries) : Option Entries :=
    match lookup? entries key with
    | none => some (setEntry entries key (.table [] false))
    | some (.table _ _) => if current = some .implied then some entries else none
    | some _ => none
  let (entries, added) ← changeAt tree.origins .implied change [] path.dropLast tree.entries
  some ⟨entries, (path, .header) :: tree.origins.filter (fun pair => pair.1 != path) ++ added⟩

/-- Open a further table of a list of tables. What was known about the table before it no longer
counts. -/
def openListed (tree : Tree) (path : List String) : Option Tree := do
  let key ← path.getLast?
  let current := origin? tree.origins path
  let change (entries : Entries) : Option Entries :=
    match lookup? entries key with
    | none => some (setEntry entries key (.list [.table [] false] false))
    | some (.list items _) =>
        if current = some .listed then
          some (setEntry entries key (.list (items ++ [.table [] false]) false))
        else none
    | some _ => none
  let (entries, added) ← changeAt tree.origins .implied change [] path.dropLast tree.entries
  some ⟨entries,
    (path, .listed) :: tree.origins.filter (fun pair => !path.isPrefixOf pair.1) ++ added⟩

/-! ### Reading scalars -/

def isBlank (c : Char) : Bool :=
  c = ' ' || c = '\t'

def skipBlank (chars : List Char) : List Char :=
  chars.dropWhile isBlank

def isForbidden (c : Char) : Bool :=
  (c.toNat < 0x20 && c != '\t') || c.toNat = 0x7F

def skipLines : Nat → List Char → Option (List Char)
  | 0, _ => none
  | fuel + 1, chars =>
      match skipBlank chars with
      | '\n' :: rest => skipLines fuel rest
      | '\r' :: '\n' :: rest => skipLines fuel rest
      | '#' :: rest =>
          match rest.dropWhile (fun c => !isForbidden c) with
          | [] => some []
          | '\n' :: rest => skipLines fuel rest
          | '\r' :: '\n' :: rest => skipLines fuel rest
          | _ => none
      | rest => some rest

def skipLineEnd (chars : List Char) : Option (List Char) :=
  match skipBlank chars with
  | [] => some []
  | '\n' :: rest => some rest
  | '\r' :: '\n' :: rest => some rest
  | '#' :: rest =>
      match rest.dropWhile (fun c => !isForbidden c) with
      | [] => some []
      | '\n' :: rest => some rest
      | '\r' :: '\n' :: rest => some rest
      | _ => none
  | _ => none

def isBareKeyChar (c : Char) : Bool :=
  c.isAlphanum || c = '_' || c = '-'

def escaped? : Char → Option Char
  | '"' => some '"'
  | '\\' => some '\\'
  | 'b' => some (Char.ofNat 8)
  | 'f' => some (Char.ofNat 12)
  | 'n' => some '\n'
  | 'r' => some '\r'
  | 't' => some '\t'
  | _ => none

def readEscape : List Char → Option (Char × List Char)
  | 'u' :: a :: b :: c :: d :: rest => (Digits.readChar? [a, b, c, d]).map (·, rest)
  | 'U' :: a :: b :: c :: d :: e :: f :: g :: h :: rest =>
      (Digits.readChar? [a, b, c, d, e, f, g, h]).map (·, rest)
  | c :: rest => (escaped? c).map (·, rest)
  | [] => none

def readBasic : Nat → List Char → List Char → Option (String × List Char)
  | 0, _, _ => none
  | fuel + 1, chars, read =>
      match chars with
      | '"' :: rest => some (String.ofList read.reverse, rest)
      | '\\' :: rest =>
          match readEscape rest with
          | some (c, rest) => readBasic fuel rest (c :: read)
          | none => none
      | c :: rest => if isForbidden c then none else readBasic fuel rest (c :: read)
      | [] => none

def readLiteral (chars : List Char) : Option (String × List Char) :=
  match chars.dropWhile (fun c => c != '\'' && !isForbidden c) with
  | '\'' :: rest => some (String.ofList (chars.takeWhile (fun c => c != '\'')), rest)
  | _ => none

/-- The line end directly after the opening quotes of a text of several lines does not count. -/
def dropFirstLineEnd : List Char → List Char
  | '\n' :: rest => rest
  | '\r' :: '\n' :: rest => rest
  | rest => rest

/-- At the closing quotes of a text of several lines, take up to two quotes that belong to the
text. -/
def closeMultiline (quoteMark : Char) (read chars : List Char) : Option (String × List Char) :=
  let marks := (chars.takeWhile (· = quoteMark)).length
  if marks < 3 ∨ 5 < marks then none
  else
    some (String.ofList (read.reverse ++ List.replicate (marks - 3) quoteMark), chars.drop marks)

def skipSpace : List Char → List Char
  | '\r' :: '\n' :: rest => skipSpace rest
  | c :: rest => if isBlank c || c = '\n' then skipSpace rest else c :: rest
  | [] => []

/-- A backslash at the end of a line continues the text at the next character that is not blank. -/
def continueLine (chars : List Char) : Option (List Char) :=
  match skipBlank chars with
  | '\n' :: rest => some (skipSpace rest)
  | '\r' :: '\n' :: rest => some (skipSpace rest)
  | _ => none

def readMultilineBasic : Nat → List Char → List Char → Option (String × List Char)
  | 0, _, _ => none
  | fuel + 1, chars, read =>
      match chars with
      | '"' :: '"' :: '"' :: _ => closeMultiline '"' read chars
      | '\\' :: rest =>
          match continueLine rest with
          | some rest => readMultilineBasic fuel rest read
          | none =>
              match readEscape rest with
              | some (c, rest) => readMultilineBasic fuel rest (c :: read)
              | none => none
      | '\r' :: '\n' :: rest => readMultilineBasic fuel rest ('\n' :: read)
      | c :: rest =>
          if isForbidden c && c != '\n' then none else readMultilineBasic fuel rest (c :: read)
      | [] => none

def readMultilineLiteral : Nat → List Char → List Char → Option (String × List Char)
  | 0, _, _ => none
  | fuel + 1, chars, read =>
      match chars with
      | '\'' :: '\'' :: '\'' :: _ => closeMultiline '\'' read chars
      | '\r' :: '\n' :: rest => readMultilineLiteral fuel rest ('\n' :: read)
      | c :: rest =>
          if isForbidden c && c != '\n' then none else readMultilineLiteral fuel rest (c :: read)
      | [] => none

/-- The digits of a number in which underscores stand between digits only. -/
def withoutUnderscores? (base : Nat) : List Char → Option (List Char)
  | [] => none
  | [c] => if (Digits.value? base c).isSome then some [c] else none
  | c :: '_' :: rest =>
      if (Digits.value? base c).isSome then (withoutUnderscores? base rest).map (c :: ·) else none
  | c :: rest =>
      if (Digits.value? base c).isSome then (withoutUnderscores? base rest).map (c :: ·) else none

/-- A whole decimal number without sign. Leading zeros are not allowed. -/
def decimal? (chars : List Char) : Option Nat := do
  let digits ← withoutUnderscores? 10 chars
  if digits.head? = some '0' ∧ digits.length ≠ 1 then none else Digits.read? 10 digits

def whole? (chars : List Char) : Option Int :=
  let inBase (base : Nat) (digits : List Char) : Option Int := do
    let digits ← withoutUnderscores? base digits
    let value ← Digits.read? base digits
    return (value : Int)
  match chars with
  | '0' :: 'x' :: digits => inBase 16 digits
  | '0' :: 'o' :: digits => inBase 8 digits
  | '0' :: 'b' :: digits => inBase 2 digits
  | '+' :: digits => (decimal? digits).map (fun value => (value : Int))
  | '-' :: digits => (decimal? digits).map (fun value => -(value : Int))
  | digits => (decimal? digits).map (fun value => (value : Int))

/-- Whether a number is no fraction because it is too large for one. Only positive numbers can be
too large. -/
def isOverflow (chars : List Char) : Bool :=
  match Decimal.read? (chars.filter (· != '_')) with
  | some number => !number.isNegative && !number.isFinite
  | none => false

def isFraction (chars : List Char) : Bool :=
  let unsigned := match chars with
    | '+' :: rest => rest
    | '-' :: rest => rest
    | rest => rest
  if unsigned = ['i', 'n', 'f'] ∨ unsigned = ['n', 'a', 'n'] then true
  else
    let mantissa := unsigned.takeWhile (fun c => c != 'e' && c != 'E')
    let exponent := unsigned.drop mantissa.length
    let wholePart := mantissa.takeWhile (· != '.')
    let fraction := mantissa.drop wholePart.length
    let exponentDigits := match exponent.drop 1 with
      | '+' :: rest => rest
      | '-' :: rest => rest
      | rest => rest
    (decimal? wholePart).isSome
      && (fraction = [] || (withoutUnderscores? 10 (fraction.drop 1)).isSome)
      && (exponent = [] || (withoutUnderscores? 10 exponentDigits).isSome)
      && !(fraction = [] && exponent = [])
      && !isOverflow chars

def bounded? (width least most : Nat) (chars : List Char) : Option (Nat × List Char) :=
  let digits := chars.take width
  match Digits.read? 10 digits with
  | some number =>
      if digits.length = width ∧ least ≤ number ∧ number ≤ most then
        some (number, chars.drop width)
      else none
  | none => none

def skipMark? (mark : Char) : List Char → Option (List Char)
  | c :: rest => if c = mark then some rest else none
  | [] => none

def daysIn (year month : Nat) : Nat :=
  if month = 2 then
    if year % 4 = 0 ∧ (year % 100 ≠ 0 ∨ year % 400 = 0) then 29 else 28
  else if month ∈ [4, 6, 9, 11] then 30
  else 31

def skipDate? (chars : List Char) : Option (List Char) := do
  let (year, rest) ← bounded? 4 0 9999 chars
  let (month, rest) ← bounded? 2 1 12 (← skipMark? '-' rest)
  let (_, rest) ← bounded? 2 1 (daysIn year month) (← skipMark? '-' rest)
  return rest

def skipFraction? : List Char → Option (List Char)
  | '.' :: rest =>
      if rest.takeWhile Char.isDigit = [] then none else some (rest.dropWhile Char.isDigit)
  | rest => some rest

/-- Skip a time of day. The last minute may have a leap second. -/
def skipTime? (chars : List Char) : Option (List Char) := do
  let (_, rest) ← bounded? 2 0 23 chars
  let (_, rest) ← bounded? 2 0 59 (← skipMark? ':' rest)
  let (_, rest) ← bounded? 2 0 60 (← skipMark? ':' rest)
  skipFraction? rest

def skipOffset? (chars : List Char) : Option (List Char) :=
  match chars with
  | [] => some []
  | mark :: rest =>
      if mark = 'Z' ∨ mark = 'z' then some rest
      else if mark = '+' ∨ mark = '-' then do
        let (_, rest) ← bounded? 2 0 23 rest
        let (_, rest) ← bounded? 2 0 59 (← skipMark? ':' rest)
        return rest
      else some chars

/-- Skip a date and a time with an optional offset, between which stands a letter or a blank. -/
def skipDateTime? (chars : List Char) : Option (List Char) :=
  match skipDate? chars with
  | some (mark :: rest) =>
      if mark = 'T' ∨ mark = 't' ∨ mark = ' ' then (skipTime? rest).bind skipOffset? else none
  | _ => none

def isMoment (chars : List Char) : Bool :=
  skipTime? chars == some [] || skipDate? chars == some [] || skipDateTime? chars == some []

/-- The value of a scalar without quotes. Numbers have 64 bits. -/
def scalar? (chars : List Char) : Option Value :=
  if chars = "true".toList then some (.bool true)
  else if chars = "false".toList then some (.bool false)
  else
    match whole? chars with
    | some value =>
        if -9223372036854775808 ≤ value ∧ value < 9223372036854775808 then some (.integer value)
        else none
    | none =>
        if isMoment chars then some .moment else if isFraction chars then some .other else none

/-- Read a scalar without quotes. A date may be followed by a blank and a time. -/
def readScalar (chars : List Char) : Option (Value × List Char) :=
  let ends (c : Char) : Bool :=
    isBlank c || c = '\n' || c = '\r' || c = ',' || c = ']' || c = '}' || c = '#'
  let token := chars.takeWhile (fun c => !ends c)
  let rest := chars.drop token.length
  match rest with
  | ' ' :: next =>
      let time := next.takeWhile (fun c => !ends c)
      if skipDate? token == some [] && isMoment (token ++ ' ' :: time) then
        some (.moment, next.drop time.length)
      else (scalar? token).map (·, rest)
  | _ => (scalar? token).map (·, rest)

/-! ### Reading keys and values -/

def readKeyPart (fuel : Nat) (chars : List Char) : Option (String × List Char) :=
  match chars with
  | '"' :: rest => readBasic fuel rest []
  | '\'' :: rest => readLiteral rest
  | _ =>
      match chars.takeWhile isBareKeyChar with
      | [] => none
      | key => some (String.ofList key, chars.dropWhile isBareKeyChar)

def readKeyParts : Nat → List Char → Option (List String × List Char)
  | 0, _ => none
  | fuel + 1, chars =>
      match readKeyPart fuel (skipBlank chars) with
      | some (part, rest) =>
          match skipBlank rest with
          | '.' :: rest =>
              (readKeyParts fuel rest).map (fun (parts, rest) => (part :: parts, rest))
          | rest => some ([part], rest)
      | none => none

/-- The depth that neither the parts of a key nor lists and tables inside each other may reach. -/
def maxDepth : Nat := 80

def readKey (fuel : Nat) (chars : List Char) : Option (List String × List Char) :=
  (readKeyParts fuel chars).filter (fun (parts, _) => parts.length < maxDepth)

mutual

/-- Read a value inside a number of lists and tables and return the input after it. The fuel bounds
the number of steps. -/
def readValue : Nat → Nat → List Char → Option (Value × List Char)
  | 0, _, _ => none
  | fuel + 1, depth, chars =>
      match chars with
      | '"' :: '"' :: '"' :: rest =>
          (readMultilineBasic fuel (dropFirstLineEnd rest) []).map (fun (text, rest) =>
            (.text text, rest))
      | '\'' :: '\'' :: '\'' :: rest =>
          (readMultilineLiteral fuel (dropFirstLineEnd rest) []).map (fun (text, rest) =>
            (.text text, rest))
      | '"' :: rest => (readBasic fuel rest []).map (fun (text, rest) => (.text text, rest))
      | '\'' :: rest => (readLiteral rest).map (fun (text, rest) => (.text text, rest))
      | '[' :: rest => if depth + 1 < maxDepth then readItems fuel (depth + 1) rest [] else none
      | '{' :: rest =>
          if depth + 1 < maxDepth then
            match skipBlank rest with
            | '}' :: rest => some (.table [] false, rest)
            | rest => readPairs fuel (depth + 1) rest .empty
          else none
      | _ => readScalar chars

def readItems : Nat → Nat → List Char → List Value → Option (Value × List Char)
  | 0, _, _, _ => none
  | fuel + 1, depth, chars, items =>
      match skipLines fuel chars with
      | some (']' :: rest) => some (.list items.reverse false, rest)
      | some rest =>
          match readValue fuel depth rest with
          | some (value, rest) =>
              match skipLines fuel rest with
              | some (',' :: rest) => readItems fuel depth rest (value :: items)
              | some (']' :: rest) => some (.list (value :: items).reverse false, rest)
              | _ => none
          | none => none
      | none => none

def readPairs : Nat → Nat → List Char → Tree → Option (Value × List Char)
  | 0, _, _, _ => none
  | fuel + 1, depth, chars, tree =>
      match readKey fuel chars with
      | some (path, '=' :: rest) =>
          match readValue fuel depth (skipBlank rest) with
          | some (value, rest) =>
              match insertKey tree [] path value with
              | some tree =>
                  match skipBlank rest with
                  | ',' :: rest => readPairs fuel depth rest tree
                  | '}' :: rest => some (.table tree.entries false, rest)
                  | _ => none
              | none => none
          | none => none
      | _ => none

end

/-- Read the lines of a document. Keys belong to the table of the last header. -/
def readLines : Nat → List Char → List String → Tree → Option Tree
  | 0, _, _, _ => none
  | fuel + 1, chars, table, tree =>
      match skipLines (fuel + 1) chars with
      | none => none
      | some [] => some tree
      | some ('[' :: '[' :: rest) => do
          let (path, rest) ← readKey fuel rest
          match rest with
          | ']' :: ']' :: rest =>
              let tree ← openListed tree path
              let rest ← skipLineEnd rest
              readLines fuel rest path tree
          | _ => none
      | some ('[' :: rest) => do
          let (path, rest) ← readKey fuel rest
          match rest with
          | ']' :: rest =>
              let tree ← openTable tree path
              let rest ← skipLineEnd rest
              readLines fuel rest path tree
          | _ => none
      | some chars => do
          let (path, rest) ← readKey fuel chars
          match rest with
          | '=' :: rest =>
              let (value, rest) ← readValue fuel 0 (skipBlank rest)
              let tree ← insertKey tree table path value
              let rest ← skipLineEnd rest
              readLines fuel rest table tree
          | _ => none

/-- Read a whole document. A byte order mark at the start does not count. -/
def read? (document : String) : Option Value :=
  let chars := match document.toList with
    | c :: rest => if c.toNat = 0xFEFF then rest else c :: rest
    | [] => []
  (readLines (2 * chars.length + 4) chars [] .empty).map (fun tree => .table tree.entries false)

/-! ### Writing -/

def longestRun (mark : Char) (chars : List Char) : Nat :=
  (chars.foldl
    (fun (current, longest) c =>
      if c = mark then (current + 1, max longest (current + 1)) else (0, longest))
    (0, 0)).2

/-- Control characters that only an escape can express. -/
def needsEscape (c : Char) : Bool :=
  isForbidden c && c != '\n'

/-- The characters of a basic text. Line ends stay as they are in a text of several lines, where a
quote is escaped only when it is the third in a row. -/
def escapeBasic (multiline : Bool) : Nat → List Char → List Char
  | _, [] => []
  | run, c :: rest =>
      if c = '"' then
        if multiline && run < 2 then '"' :: escapeBasic multiline (run + 1) rest
        else '\\' :: '"' :: escapeBasic multiline 0 rest
      else
        (if c = '\\' then ['\\', '\\']
        else if c = '\t' then ['\\', 't']
        else if c = '\n' then (if multiline then ['\n'] else ['\\', 'n'])
        else if c = '\r' then ['\\', 'r']
        else if c.toNat = 8 then ['\\', 'b']
        else if c.toNat = 12 then ['\\', 'f']
        else if isForbidden c then
          '\\' :: 'u' :: Digits.hexDigits .upper 4 c.toNat
        else [c]) ++ escapeBasic multiline 0 rest

def between (mark : String) (chars : List Char) : String :=
  mark ++ String.ofList chars ++ mark

def quote (text : String) : String :=
  let chars := text.toList
  let hasLine := '\n' ∈ chars
  let hasBackslash := '\\' ∈ chars
  let hasControl := chars.any needsEscape
  let double := longestRun '"' chars
  let single := longestRun '\'' chars
  let lead := if hasLine then ['\n'] else []
  if !hasControl && !hasBackslash && double = 0 && !hasLine then
    between "\"" (escapeBasic false 0 chars)
  else if !hasControl && single = 0 && !hasLine then between "'" chars
  else if !hasControl && !hasBackslash && double ≤ 2 then
    between "\"\"\"" (lead ++ escapeBasic true 0 chars)
  else if !hasControl && single ≤ 2 then between "'''" (lead ++ chars)
  else if hasLine then between "\"\"\"" (lead ++ escapeBasic true 0 chars)
  else between "\"" (escapeBasic false 0 chars)

/-- Numbers beyond 63 bits cannot be written. -/
def writeScalar? : Scalar → Option String
  | .bool value => some (if value then "true" else "false")
  | .natural value => if value < 9223372036854775808 then some (toString value) else none
  | .text value => some (quote value)

def writeEntry? (entry : String × Scalar) : Option String :=
  (writeScalar? entry.2).map (fun value => entry.1 ++ " = " ++ value ++ "\n")

def writeSection? (group : Section) : Option String := do
  let entries ← group.entries.mapM writeEntry?
  return "[" ++ group.title ++ "]\n" ++ String.join entries

def write? (sections : List Section) : Option String := do
  let written ← sections.mapM writeSection?
  return "\n".intercalate written

end RestrictedAccess.Document.Toml
