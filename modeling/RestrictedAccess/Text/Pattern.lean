/-
Search patterns, of which it matters only whether they can be used. A pattern is read from left to
right with the flags that are in effect; what is read of a group is kept on a stack until the group
closes. A pattern that needs tables of all scripts is not usable, so ignoring the case of letters,
the edges of words and the kinds of characters are limited to patterns that turn those off.

A brace never closes in a pattern of a log filter, so a count of repetitions is no usable part.
-/

import RestrictedAccess.Document.Digits
import RestrictedAccess.Text.Alphanumeric
import RestrictedAccess.Text.Blank

namespace RestrictedAccess.Text.Pattern

/-! ### Flags -/

structure Flags where
  ignoresCase : Bool
  ignoresBlanks : Bool
  allScripts : Bool

namespace Flags

def standard : Flags :=
  ⟨false, false, true⟩

def letters : List Char := "imsUuRx".toList

def set (flags : Flags) (isOn : Bool) (letter : Char) : Flags :=
  match letter with
  | 'i' => { flags with ignoresCase := isOn }
  | 'x' => { flags with ignoresBlanks := isOn }
  | 'u' => { flags with allScripts := isOn }
  | _ => flags

/-- Change flags as a text tells. It names no flag twice, and those behind a sign are turned
off. -/
def change? (flags : Flags) (text : List Char) : Option Flags :=
  let on := text.takeWhile (· != '-')
  let off := (text.drop on.length).drop 1
  let isSigned := on.length < text.length
  if (on ++ off).all (· ∈ letters) && (on ++ off).Nodup && !(isSigned && off.isEmpty) then
    some (off.foldl (·.set false ·) (on.foldl (·.set true ·) flags))
  else none

/-- The characters behind blanks and comments. A comment goes up to the end of its line. -/
def dropBlanks : Bool → List Char → List Char
  | _, [] => []
  | true, c :: rest => dropBlanks (c != '\n') rest
  | false, c :: rest =>
      if isBlank c then dropBlanks false rest
      else if c = '#' then dropBlanks true rest
      else c :: rest

def skip (flags : Flags) (chars : List Char) : List Char :=
  if flags.ignoresBlanks then dropBlanks false chars else chars

/-- The character to come behind blanks, where the mark of a comment counts as one blank. Without
any, it is the very next one. -/
def peek? (flags : Flags) (chars : List Char) : Option Char :=
  if flags.ignoresBlanks then
    let next := match chars.dropWhile isBlank with
      | '#' :: rest => rest.dropWhile isBlank
      | rest => rest
    if next.isEmpty then chars.head? else next.head?
  else chars.head?

end Flags

/-! ### Single characters -/

inductive Atom
  | char (value : Char) (isByte : Bool)
  | kind (isNegated : Bool)
  | wordEdge
  | textEdge

/-- Whether a part is usable outside classes. Bytes must not be parts of characters. -/
def Atom.isUsable (flags : Flags) : Atom → Bool
  | char value isByte =>
      if flags.allScripts then !flags.ignoresCase else !isByte || value.toNat < 0x80
  | kind isNegated => !flags.allScripts && !isNegated
  | wordEdge => !flags.allScripts
  | textEdge => true

def Atom.isClassItem (flags : Flags) : Atom → Bool
  | char value _ => if flags.allScripts then !flags.ignoresCase else value.toNat < 0x80
  | kind isNegated => !flags.allScripts && !isNegated
  | _ => false

def readDigits (flags : Flags) : Nat → List Char → Option (List Char × List Char)
  | 0, chars => some ([], chars)
  | _ + 1, [] => none
  | count + 1, digit :: rest =>
      if (Document.Digits.value? 16 digit).isSome then
        (readDigits flags count (flags.skip rest)).map (fun (digits, rest) =>
          (digit :: digits, rest))
      else none

def digitCount? : Char → Option Nat
  | 'x' => some 2
  | 'u' => some 4
  | 'U' => some 8
  | _ => none

/-- What an escape of one character stands for. Letters and digits without a meaning cannot be
escaped, and neither can characters beyond ASCII. -/
def escaped? (c : Char) : Option Atom :=
  if c ∈ "dsw".toList then some (.kind false)
  else if c ∈ "DSW".toList then some (.kind true)
  else if c ∈ "bB<>".toList then some .wordEdge
  else if c ∈ "Az".toList then some .textEdge
  else if c ∈ "aftnrv".toList then some (.char c false)
  else if c.toNat < 0x80 && !c.isAlphanum then some (.char c false)
  else none

def readEscape (flags : Flags) : List Char → Option (Atom × List Char)
  | [] => none
  | c :: rest =>
      match digitCount? c with
      | some count => do
          let (digits, rest) ← readDigits flags count (flags.skip rest)
          let value ← Document.Digits.readChar? digits
          return (.char value (count = 2), rest)
      | none => (escaped? c).map (·, rest)

/-! ### Classes -/

def depthOf : List Nat → Nat
  | [] => 0
  | [depth] => depth
  | depths => 1 + depths.foldl max 0

structure OpenClass where
  left : Option Nat
  /-- The depths of the items behind it. -/
  items : List Nat
  /-- Whether only dashes have been read. -/
  isAtStart : Bool

namespace OpenClass

def start : OpenClass :=
  ⟨none, [], true⟩

def add (current : OpenClass) (depth : Nat) : OpenClass :=
  { current with items := depth :: current.items, isAtStart := false }

def depth (current : OpenClass) : Nat :=
  match current.left with
  | some left => 1 + max left (depthOf current.items)
  | none => depthOf current.items

def combine (current : OpenClass) : OpenClass :=
  ⟨some current.depth, [], false⟩

end OpenClass

/-- Skip the bracket of a class and the sign that negates it. Of bytes, no class is negated, as it
would hold parts of characters. -/
def enterClass? (flags : Flags) (rest : List Char) : Option (List Char) :=
  match flags.skip rest with
  | '^' :: rest => if flags.allScripts then some (flags.skip rest) else none
  | rest => some rest

def classNames : List String :=
  ["alnum", "alpha", "ascii", "blank", "cntrl", "digit", "graph", "lower", "print", "punct",
    "space", "upper", "word", "xdigit"]

def readNamedClass? (flags : Flags) : List Char → Option (Bool × List Char)
  | ':' :: rest =>
      let (isNegated, rest) := match rest with
        | '^' :: rest => (true, rest)
        | _ => (false, rest)
      let name := rest.takeWhile (· != ':')
      match rest.drop name.length with
      | ':' :: ']' :: rest =>
          if String.ofList name ∈ classNames then
            some (if flags.allScripts then !flags.ignoresCase else !isNegated, rest)
          else none
      | _ => none
  | _ => none

def readClassAtom (flags : Flags) : List Char → Option (Atom × List Char)
  | [] => none
  | '\\' :: rest => readEscape flags rest
  | c :: rest => some (.char c false, rest)

/-- Read an item of a class, which may be a range. A dash before the end of the class or before a
second dash makes no range. -/
def readClassItem (flags : Flags) (chars : List Char) : Option (List Char) := do
  let (first, rest) ← readClassAtom flags chars
  let rest := flags.skip rest
  match rest with
  | '-' :: behind =>
      if flags.peek? behind = some ']' ∨ flags.peek? behind = some '-' then
        if first.isClassItem flags then return rest else none
      else
        let (last, rest) ← readClassAtom flags (flags.skip behind)
        match first, last with
        | .char low _, .char high _ =>
            if low ≤ high ∧ first.isClassItem flags ∧ last.isClassItem flags then return rest
            else none
        | _, _ => none
  | rest => if first.isClassItem flags then return rest else none

/-- Read classes to the end of the outermost one, and tell its depth. At the start of a class,
dashes stand for themselves, and so does a closing bracket. -/
def readClass (flags : Flags) : Nat → List OpenClass → OpenClass → List Char →
    Option (Nat × List Char)
  | 0, _, _, _ => none
  | fuel + 1, outer, current, chars =>
      match flags.skip chars with
      | [] => none
      | c :: rest =>
          if current.isAtStart && (c = '-' || (c = ']' && current.items.isEmpty)) then
            if (Atom.char c false).isClassItem flags then
              readClass flags fuel outer { current.add 0 with isAtStart := c = '-' } rest
            else none
          else if c = '[' then
            match readNamedClass? flags rest with
            | some (isUsable, rest) =>
                if isUsable then readClass flags fuel outer (current.add 0) rest else none
            | none =>
                match enterClass? flags rest with
                | some rest => readClass flags fuel (current :: outer) .start rest
                | none => none
          else if c = ']' then
            let depth := 1 + current.depth
            match outer with
            | [] => some (depth, rest)
            | next :: outer => readClass flags fuel outer (next.add depth) rest
          else if (c = '&' || c = '-' || c = '~') && rest.head? = some c then
            readClass flags fuel outer current.combine (rest.drop 1)
          else
            match readClassItem flags (c :: rest) with
            | some rest => readClass flags fuel outer (current.add 0) rest
            | none => none

/-! ### Groups -/

structure Part where
  depth : Nat
  isRepeatable : Bool

structure Group where
  flags : Flags
  /-- The depths of the alternatives before the last one. -/
  alternatives : List Nat
  /-- The parts of the last alternative, the last of them first. -/
  parts : List Part

namespace Group

def start (flags : Flags) : Group :=
  ⟨flags, [], []⟩

def add (group : Group) (part : Part) : Group :=
  { group with parts := part :: group.parts }

def lastDepth (group : Group) : Nat :=
  depthOf (group.parts.map Part.depth)

def depth (group : Group) : Nat :=
  depthOf (group.lastDepth :: group.alternatives)

def split (group : Group) : Group :=
  { group with alternatives := group.lastDepth :: group.alternatives, parts := [] }

def repeat? (group : Group) : Option Group :=
  match group.parts with
  | part :: before =>
      if part.isRepeatable then some { group with parts := ⟨part.depth + 1, true⟩ :: before }
      else none
  | [] => none

end Group

structure Reading where
  group : Group
  outer : List Group
  names : List (List Char)

namespace Reading

def flags (reading : Reading) : Flags :=
  reading.group.flags

def withGroup (reading : Reading) (group : Group) : Reading :=
  { reading with group }

def add (reading : Reading) (depth : Nat) : Reading :=
  reading.withGroup (reading.group.add ⟨depth, true⟩)

def enter (reading : Reading) (flags : Flags) : Reading :=
  { reading with group := .start flags, outer := reading.group :: reading.outer }

def leave? (reading : Reading) : Option Reading :=
  match reading.outer with
  | next :: outer =>
      some { reading with group := next.add ⟨1 + reading.group.depth, true⟩, outer }
  | [] => none

def isNameChar (c : Char) : Bool :=
  c ∈ "_.[]".toList || isAlphanumeric c

def enterNamed? (reading : Reading) (chars : List Char) : Option (Reading × List Char) :=
  let name := chars.takeWhile (· != '>')
  match name, chars.drop name.length with
  | first :: more, '>' :: rest =>
      if (first = '_' || isLetter first) && more.all isNameChar && name ∉ reading.names then
        some ({ reading.enter reading.flags with names := name :: reading.names }, rest)
      else none
  | _, _ => none

def changeFlags? (reading : Reading) (chars : List Char) : Option (Reading × List Char) := do
  let text := chars.takeWhile (fun c => c != ':' && c != ')')
  let flags ← reading.flags.change? text
  match text, chars.drop text.length with
  | _, ':' :: rest => return (reading.enter flags, rest)
  | _ :: _, ')' :: rest =>
      return (reading.withGroup { reading.group.add ⟨0, false⟩ with flags }, rest)
  | _, _ => none

def readGroup? (reading : Reading) (chars : List Char) : Option (Reading × List Char) :=
  match reading.flags.skip chars with
  | '?' :: 'P' :: '<' :: rest => reading.enterNamed? rest
  | '?' :: '<' :: rest => reading.enterNamed? rest
  | '?' :: rest => reading.changeFlags? rest
  | rest => some (reading.enter reading.flags, rest)

def readAtom? (reading : Reading) (atom : Atom) : Option Reading :=
  if atom.isUsable reading.flags then some (reading.add 0) else none

def step? (fuel : Nat) (reading : Reading) (c : Char) (rest : List Char) :
    Option (Reading × List Char) :=
  match c with
  | '(' => reading.readGroup? rest
  | ')' => reading.leave?.map (·, rest)
  | '|' => some (reading.withGroup reading.group.split, rest)
  | '[' => do
      let rest ← enterClass? reading.flags rest
      let (depth, rest) ← readClass reading.flags fuel [] .start rest
      return (reading.add depth, rest)
  | '\x7b' => none
  | '\\' => do
      let (atom, rest) ← readEscape reading.flags rest
      return (← reading.readAtom? atom, rest)
  | '.' => if reading.flags.allScripts then some (reading.add 0, rest) else none
  | '^' => some (reading.add 0, rest)
  | '$' => some (reading.add 0, rest)
  | _ =>
      if c = '?' || c = '*' || c = '+' then
        let rest := if rest.head? = some '?' then rest.drop 1 else rest
        reading.group.repeat?.map (fun group => (reading.withGroup group, rest))
      else (reading.readAtom? (.char c false)).map (·, rest)

def finish? (size : Nat) : Nat → Reading → List Char → Option Reading
  | 0, _, _ => none
  | fuel + 1, reading, chars =>
      match reading.flags.skip chars with
      | [] => some reading
      | c :: rest =>
          match reading.step? size c rest with
          | some (reading, rest) => finish? size fuel reading rest
          | none => none

end Reading

def maxDepth : Nat := 250

/-- Whether a pattern can be used. Each part takes a character, which bounds the fuel. -/
def isUsable (chars : List Char) : Bool :=
  let size := chars.length + 1
  (Reading.finish? size size ⟨.start .standard, [], []⟩ chars).any (fun reading =>
    reading.outer.isEmpty && reading.group.depth ≤ maxDepth)

end RestrictedAccess.Text.Pattern
