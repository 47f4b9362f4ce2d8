/-
Documents as values. Reading a document of any format gives one value; the readers of sections
take their fields from it. A table keeps its pairs in the order of the document, repetitions
included, because a repeated field is an error only when it is one that a section knows.
-/

import RestrictedAccess.Document.Digits

namespace RestrictedAccess.Document

inductive Value
  | null
  | bool (value : Bool)
  | integer (value : Int)
  | text (value : String)
  | plain (value : String)
  /-- A date or a time of day. As a section it is one without any field that a section knows. -/
  | moment
  | other
  /-- A scalar with a tag, which is the word it stands for where a word of a fixed set is asked
  for. -/
  | tagged (tag : String) (value : Value)
  /-- A list. The items of a closed list have to be read to the end; of an open one, those that no
  field asks for are ignored. -/
  | list (items : List Value) (closed : Bool)
  /-- A table. An open table or list without items is no value where none is asked for. -/
  | table (pairs : List (String × Value)) (closed : Bool)

namespace Value

/-! ### Scalars -/

def untagged : Value → Value
  | tagged _ value => value
  | value => value

def asText? (value : Value) : Option String :=
  match value.untagged with
  | text value => some value
  | plain value => some value
  | _ => none

def boolOfWord? : String → Option Bool
  | "true" => some true
  | "True" => some true
  | "TRUE" => some true
  | "false" => some false
  | "False" => some false
  | "FALSE" => some false
  | _ => none

def asBool? (value : Value) : Option Bool :=
  match value.untagged with
  | bool value => some value
  | plain word => boolOfWord? word
  | _ => none

def isPaddedNumber (digits : List Char) : Bool :=
  match digits with
  | '0' :: rest => rest != [] && rest.all Char.isDigit
  | _ => false

/-- A natural number in a scalar without quotes, in base ten or with the mark of another base. -/
def natOfWord? (word : String) : Option Nat :=
  let unsigned := match word.toList with
    | '+' :: rest => rest
    | chars => chars
  match unsigned with
  | '0' :: 'x' :: digits => Digits.read? 16 digits
  | '0' :: 'o' :: digits => Digits.read? 8 digits
  | '0' :: 'b' :: digits => Digits.read? 2 digits
  | digits => if isPaddedNumber digits then none else Digits.read? 10 digits

def asNat? (bound : Nat) (value : Value) : Option Nat :=
  let number := match value.untagged with
    | integer (.ofNat number) => some number
    | plain word => natOfWord? word
    | _ => none
  number.filter (fun number => number < bound)

def asUInt8? (value : Value) : Option UInt8 :=
  (value.asNat? 256).map UInt8.ofNat

def asUInt16? (value : Value) : Option UInt16 :=
  (value.asNat? 65536).map UInt16.ofNat

def asUInt32? (value : Value) : Option UInt32 :=
  (value.asNat? 4294967296).map UInt32.ofNat

def asUInt64? (value : Value) : Option UInt64 :=
  (value.asNat? 18446744073709551616).map UInt64.ofNat

def isNullWord (word : String) : Bool :=
  word = "" || word = "null" || word = "Null" || word = "NULL" || word = "~"

def isAbsent : Value → Bool
  | null => true
  | list [] closed => !closed
  | table [] closed => !closed
  | _ => false

/-- One word of a fixed set. It may also be written as the only key of a table without a value, or
as the tag of a scalar without a value. -/
def asWord? : Value → Option String
  | table [(word, value)] _ => if value.isAbsent then some word else none
  | tagged word (plain value) => if isNullWord value then some word else none
  | tagged _ _ => none
  | value => value.asText?

def asList? {α : Type} (read : Value → Option α) : Value → Option (List α)
  | list items _ => items.mapM read
  | _ => none

def asPair? {α : Type} (read : Value → Option α) : Value → Option (α × α)
  | list (first :: second :: rest) closed =>
      if closed && !rest.isEmpty then none
      else
        match read first, read second with
        | some first, some second => some (first, second)
        | _, _ => none
  | _ => none

/-! ### Sections -/

/-- The fields of a section, in the order of their names. A section is a table, in which a known
field must not repeat, or a list of the first fields in order. An empty scalar is an empty
section. -/
def fields? (names : List String) (value : Value) : Option (List (Option Value)) :=
  match value.untagged with
  | table pairs _ =>
      names.mapM (fun name =>
        match pairs.filter (fun pair => pair.1 == name) with
        | [] => some none
        | [(_, value)] => some (some value)
        | _ => none)
  | list items closed =>
      if closed && names.length < items.length then none
      else
        let present := (items.take names.length).map some
        some (present ++ List.replicate (names.length - present.length) none)
  | plain "" => some (names.map (fun _ => none))
  | moment => some (names.map (fun _ => none))
  | _ => none

def readOr {α : Type} (standard : α) (read : Value → Option α) : Option Value → Option α
  | none => some standard
  | some value => read value

def required {α : Type} (read : Value → Option α) : Option Value → Option α
  | none => none
  | some value => read value

def maybe {α : Type} (read : Value → Option α) : Option Value → Option (Option α)
  | none => some none
  | some null => some none
  | some value => (read value).map some

end Value

/-! ### Documents to write -/

inductive Scalar
  | bool (value : Bool)
  | natural (value : Nat)
  | text (value : String)
  deriving DecidableEq

structure Section where
  title : String
  entries : List (String × Scalar)
  deriving DecidableEq

end RestrictedAccess.Document
