/-
Filters of log lines. A filter is a list of directives between commas; a directive names a level,
a target, a span with or without a field, or a target or span with a level. The simulation only
has to tell usable filters from unusable ones.

The parts of a directive are found without the blanks around it, but are then cut out of the
directive with its blanks, at the same bytes. So blanks at the front shift the parts, and where a
part would begin or end inside a character, the program breaks off.
-/

import RestrictedAccess.Document.Decimal
import RestrictedAccess.Text.Pattern

namespace RestrictedAccess.LogFilter

open Document Text

inductive Flaw
  | invalid
  | cut
  deriving DecidableEq

/-! ### Levels -/

def levelWords : List String :=
  ["off", "error", "warn", "info", "debug", "trace"]

def maxLevel : Nat := 5

def isLevel (chars : List Char) : Bool :=
  let digits := match chars with
    | '+' :: rest => rest
    | _ => chars
  String.ofList (chars.map Char.toLower) ∈ levelWords
    || match Digits.read? 10 digits with
      | some number => number ≤ maxLevel
      | none => false

/-! ### Fields -/

def numberWords : List String :=
  ["inf", "infinity", "nan"]

def isNumber (chars : List Char) : Bool :=
  (Decimal.read? chars).isSome
    || String.ofList ((Decimal.splitSign chars).2.map Char.toLower) ∈ numberWords

/-- A field is a name, which may have a value up to the next equals sign. The value is a number or
a pattern of texts. -/
def isField (chars : List Char) : Bool :=
  match chars.dropWhile (· != '=') with
  | [] => true
  | _ :: rest =>
      let value := rest.takeWhile (· != '=')
      isNumber value || Pattern.isUsable value

/-! ### Directives -/

/-- What has been read of a directive. Places are numbers of bytes from its first character that is
no blank. -/
inductive Progress
  | start
  | name
  | level (first : Nat)
  | span (first : Nat)
  | field (first : Nat)
  | fieldClosed
  | spanClosed
  deriving DecidableEq

def takeBytes : Nat → List Char → Except Flaw (List Char)
  | 0, _ => .ok []
  | _ + 1, [] => .error .cut
  | count, c :: rest =>
      if count < c.utf8Size then .error .cut
      else (takeBytes (count - c.utf8Size) rest).map (c :: ·)

def dropBytes : Nat → List Char → Except Flaw (List Char)
  | 0, chars => .ok chars
  | _ + 1, [] => .error .cut
  | count, c :: rest =>
      if count < c.utf8Size then .error .cut else dropBytes (count - c.utf8Size) rest

def cut (directive : List Char) (first next : Nat) : Except Flaw (List Char) := do
  takeBytes (next - first) (← dropBytes first directive)

def startsName (c : Char) : Bool :=
  c = '-' || c = ':' || c = '_' || isAlphanumeric c

def leave (directive : List Char) (first place : Nat) (next : Progress) : Except Flaw Progress :=
  (cut directive first place).map (fun _ => next)

def step (directive : List Char) (progress : Progress) (place : Nat) (c : Char) :
    Except Flaw Progress :=
  match progress, c with
  | .start, '[' => .ok (.span (place + 1))
  | .start, c => if startsName c then .ok .name else .error .invalid
  | .name, '=' => leave directive 0 place (.level (place + 1))
  | .name, '[' => leave directive 0 place (.span (place + 1))
  | .name, _ => .ok .name
  | .level first, _ => .ok (.level first)
  | .span first, ']' => leave directive first place .spanClosed
  | .span first, '\x7b' => leave directive first place (.field (place + 1))
  | .span first, _ => .ok (.span first)
  | .field first, '\x7d' => do
      let field ← cut directive first place
      if field.isEmpty || !isField field then throw .invalid else return .fieldClosed
  | .field first, _ => .ok (.field first)
  | .fieldClosed, ']' => .ok .spanClosed
  | .spanClosed, '=' => .ok (.level (place + 1))
  | _, _ => .error .invalid

def read (directive : List Char) : Progress → Nat → List Char → Except Flaw Progress
  | progress, _, [] => .ok progress
  | progress, place, c :: rest => do
      read directive (← step directive progress place c) (place + c.utf8Size) rest

/-- Look at the end of a directive. The level goes on to the end of the blanks behind it. -/
def finish (directive : List Char) : Progress → Except Flaw Unit
  | .name => .ok ()
  | .level first => do
      let level ← dropBytes first directive
      if level.isEmpty || isLevel level then return () else throw .invalid
  | .spanClosed => .ok ()
  | _ => .error .invalid

def checkDirective (directive : List Char) : Except Flaw Unit := do
  finish directive (← read directive .start 0 (trim directive))

/-- Whether a filter is usable, or else the flaw of the first directive that has one. Empty
directives are skipped. -/
def check (filter : String) : Except Flaw Unit :=
  ((filter.splitOn ",").filter (fun directive => directive != "")).forM (fun directive =>
    checkDirective directive.toList)

end RestrictedAccess.LogFilter
