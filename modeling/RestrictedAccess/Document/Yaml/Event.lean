/-
The structure of YAML documents. Reading the lexemes of a document gives the events of its values
in order: scalars, aliases, and the starts and ends of collections. What is still expected is kept
as a stack of goals. A value that is left out where one is expected is an empty scalar.
-/

import RestrictedAccess.Document.Yaml.Lexeme

namespace RestrictedAccess.Document.Yaml

/-- A step through the values of a document. A value with an anchor carries its number. -/
inductive Event
  | alias (number : Nat)
  | scalar (anchor : Option Nat) (tag : Option (List Char)) (text : List Char)
      (style : ScalarStyle)
  | sequenceStart (anchor : Option Nat)
  | sequenceEnd
  | mappingStart (anchor : Option Nat)
  | mappingEnd

def Event.anchor? : Event → Option Nat
  | scalar anchor _ _ _ => anchor
  | sequenceStart anchor => anchor
  | mappingStart anchor => anchor
  | _ => none

inductive Goal
  /-- A value. As a part of a block mapping, it may be a sequence without an indentation of its
  own. -/
  | node (takesItems : Bool)
  | blockItem
  | indentlessItem
  | blockKey
  | blockValue
  | flowItem (isFirst : Bool)
  | pairKey
  | pairValue
  | pairEnd
  | flowKey (isFirst : Bool)
  | flowValue
  | flowNoValue

structure Reading where
  handles : List (List Char × List Char)
  anchors : List (List Char × Nat)
  lexemes : List Lexeme
  /-- The events so far, the last of them first. -/
  events : List Event
  goals : List Goal

namespace Reading

def moveTo (reading : Reading) (lexemes : List Lexeme) : Reading :=
  { reading with lexemes }

def emit (reading : Reading) (event : Event) : Reading :=
  { reading with events := event :: reading.events }

def emitEmpty (reading : Reading) : Reading :=
  reading.emit (.scalar none none [] .plain)

def expect (reading : Reading) (goal : Goal) : Reading :=
  { reading with goals := goal :: reading.goals }

/-- Expect a value and then something else. Before certain lexemes, the value is empty. -/
def expectNode (reading : Reading) (takesItems : Bool) (stops : List Lexeme) (next : Goal) :
    Reading :=
  if reading.lexemes.head?.any (· ∈ stops) then (reading.expect next).emitEmpty
  else (reading.expect next).expect (.node takesItems)

/-! ### Values -/

structure Properties where
  anchor : Option (List Char)
  tag : Option Tag

def readProperties : List Lexeme → Properties × List Lexeme
  | .anchor name :: .tag tag :: rest => (⟨some name, some tag⟩, rest)
  | .tag tag :: .anchor name :: rest => (⟨some name, some tag⟩, rest)
  | .anchor name :: rest => (⟨some name, none⟩, rest)
  | .tag tag :: rest => (⟨none, some tag⟩, rest)
  | rest => (⟨none, none⟩, rest)

def standardHandles : List (List Char × List Char) :=
  [("!".toList, "!".toList), ("!!".toList, "tag:yaml.org,2002:".toList)]

def resolve? (reading : Reading) (tag : Tag) : Option (List Char) :=
  if tag.handle = [] then some tag.suffix
  else ((reading.handles ++ standardHandles).lookup tag.handle).map (· ++ tag.suffix)

def define (reading : Reading) (name : List Char) : Reading :=
  { reading with
    anchors := (name, reading.anchors.length)
      :: reading.anchors.filter (fun anchor => anchor.1 != name) }

/-- Read a value. A single exclamation mark is no tag for a scalar. -/
def node? (takesItems : Bool) (reading : Reading) : Option Reading :=
  match reading.lexemes with
  | .alias name :: rest =>
      (reading.anchors.lookup name).map (fun number => (reading.moveTo rest).emit (.alias number))
  | lexemes => do
      let (properties, lexemes) := readProperties lexemes
      let tag ← match properties.tag with
        | some tag => (reading.resolve? tag).map some
        | none => some none
      let anchor := properties.anchor.map (fun _ => reading.anchors.length)
      let reading := match properties.anchor with
        | some name => reading.define name
        | none => reading
      let start (event : Event) (goal : Goal) (lexemes : List Lexeme) : Option Reading :=
        some (((reading.moveTo lexemes).emit event).expect goal)
      let empty : Option Reading :=
        if anchor.isNone && tag.isNone then none
        else some ((reading.moveTo lexemes).emit (.scalar anchor tag [] .plain))
      match lexemes with
      | .scalar text style :: rest =>
          let tag := tag.filter (· != ['!'])
          return (reading.moveTo rest).emit (.scalar anchor tag text style)
      | .flowSequenceStart :: rest => start (.sequenceStart anchor) (.flowItem true) rest
      | .flowMappingStart :: rest => start (.mappingStart anchor) (.flowKey true) rest
      | .blockSequenceStart :: rest => start (.sequenceStart anchor) .blockItem rest
      | .blockMappingStart :: rest => start (.mappingStart anchor) .blockKey rest
      | .blockEntry :: _ =>
          if takesItems then start (.sequenceStart anchor) .indentlessItem lexemes else empty
      | _ => empty

/-! ### Collections -/

def blockItem? (reading : Reading) : Option Reading :=
  match reading.lexemes with
  | .blockEntry :: rest =>
      some ((reading.moveTo rest).expectNode false [.blockEntry, .blockEnd] .blockItem)
  | .blockEnd :: rest => some ((reading.moveTo rest).emit .sequenceEnd)
  | _ => none

def indentlessItem (reading : Reading) : Reading :=
  match reading.lexemes with
  | .blockEntry :: rest =>
      (reading.moveTo rest).expectNode false [.blockEntry, .key, .value, .blockEnd]
        .indentlessItem
  | _ => reading.emit .sequenceEnd

def blockKey? (reading : Reading) : Option Reading :=
  match reading.lexemes with
  | .key :: rest =>
      some ((reading.moveTo rest).expectNode true [.key, .value, .blockEnd] .blockValue)
  | .blockEnd :: rest => some ((reading.moveTo rest).emit .mappingEnd)
  | _ => none

def blockValue (reading : Reading) : Reading :=
  match reading.lexemes with
  | .value :: rest => (reading.moveTo rest).expectNode true [.key, .value, .blockEnd] .blockKey
  | _ => (reading.expect .blockKey).emitEmpty

def skipComma? (isFirst : Bool) (lexemes : List Lexeme) : Option (List Lexeme) :=
  if isFirst then some lexemes
  else
    match lexemes with
    | .flowEntry :: rest => some rest
    | _ => none

def flowItem? (isFirst : Bool) (reading : Reading) : Option Reading :=
  match reading.lexemes with
  | .flowSequenceEnd :: rest => some ((reading.moveTo rest).emit .sequenceEnd)
  | lexemes => do
      match ← skipComma? isFirst lexemes with
      | .flowSequenceEnd :: rest => return (reading.moveTo rest).emit .sequenceEnd
      | .key :: rest =>
          return (((reading.moveTo rest).emit (.mappingStart none)).expect (.flowItem false)).expect
            .pairKey
      | rest => return ((reading.moveTo rest).expect (.flowItem false)).expect (.node false)

/-- Read the key of a single pair. A mark in place of the key is skipped. -/
def pairKey (reading : Reading) : Reading :=
  let stops : List Lexeme := [.value, .flowEntry, .flowSequenceEnd]
  if reading.lexemes.head?.any (· ∈ stops) then
    ((reading.moveTo (reading.lexemes.drop 1)).expect .pairValue).emitEmpty
  else (reading.expect .pairValue).expect (.node false)

def pairValue (reading : Reading) : Reading :=
  match reading.lexemes with
  | .value :: rest =>
      (reading.moveTo rest).expectNode false [.flowEntry, .flowSequenceEnd] .pairEnd
  | _ => (reading.expect .pairEnd).emitEmpty

def flowKey? (isFirst : Bool) (reading : Reading) : Option Reading :=
  match reading.lexemes with
  | .flowMappingEnd :: rest => some ((reading.moveTo rest).emit .mappingEnd)
  | lexemes => do
      match ← skipComma? isFirst lexemes with
      | .flowMappingEnd :: rest => return (reading.moveTo rest).emit .mappingEnd
      | .key :: rest =>
          return (reading.moveTo rest).expectNode false [.value, .flowEntry, .flowMappingEnd]
            .flowValue
      | rest => return ((reading.moveTo rest).expect .flowNoValue).expect (.node false)

def flowValue (reading : Reading) : Reading :=
  match reading.lexemes with
  | .value :: rest =>
      (reading.moveTo rest).expectNode false [.flowEntry, .flowMappingEnd] (.flowKey false)
  | _ => (reading.expect (.flowKey false)).emitEmpty

/-! ### Documents -/

def step? (goal : Goal) (reading : Reading) : Option Reading :=
  match goal with
  | .node takesItems => reading.node? takesItems
  | .blockItem => reading.blockItem?
  | .indentlessItem => some reading.indentlessItem
  | .blockKey => reading.blockKey?
  | .blockValue => some reading.blockValue
  | .flowItem isFirst => reading.flowItem? isFirst
  | .pairKey => some reading.pairKey
  | .pairValue => some reading.pairValue
  | .pairEnd => some (reading.emit .mappingEnd)
  | .flowKey isFirst => reading.flowKey? isFirst
  | .flowValue => some reading.flowValue
  | .flowNoValue => some (reading.expect (.flowKey false)).emitEmpty

def finish? : Nat → Reading → Option Reading
  | 0, _ => none
  | fuel + 1, reading =>
      match reading.goals with
      | [] => some reading
      | goal :: goals =>
          match step? goal { reading with goals } with
          | some reading => finish? fuel reading
          | none => none

/-- What directives declare. The version is given at most once, and so is each handle. -/
def readDirectives : List Lexeme → Option (List (List Char × List Char) × Bool × List Lexeme)
  | .directive (.version major minor) :: rest => do
      let (handles, hasVersion, rest) ← readDirectives rest
      if hasVersion ∨ major ≠ 1 ∨ (minor ≠ 1 ∧ minor ≠ 2) then none
      else return (handles, true, rest)
  | .directive (.handle name meaning) :: rest => do
      let (handles, hasVersion, rest) ← readDirectives rest
      if (handles.lookup name).isSome then none
      else return ((name, meaning) :: handles, hasVersion, rest)
  | rest => some ([], false, rest)

def endsDocument : Lexeme → Bool
  | .directive _ => true
  | .documentStart => true
  | .documentEnd => true
  | _ => false

/-- The start of the first document. A document with directives starts with a mark. -/
def start? (lexemes : List Lexeme) : Option Reading := do
  let (handles, _, rest) ← readDirectives lexemes
  match rest with
  | .documentStart :: rest =>
      let reading : Reading := ⟨handles, [], rest, [], []⟩
      return if rest.head?.all endsDocument then reading.emitEmpty
        else reading.expect (.node false)
  | rest =>
      if lexemes.head?.any endsDocument then none
      else return ⟨[], [], rest, [], [.node false]⟩

end Reading

/-- The events of the only document in a text, without any if the text is empty. Each lexeme takes
a few steps at most, which bounds the fuel. -/
def events? (chars : List Char) : Option (List Event) := do
  let lexemes ← lexemes? chars
  if lexemes.isEmpty then return []
  else
    let reading ← Reading.finish? (8 * lexemes.length + 8) (← Reading.start? lexemes)
    if reading.lexemes.all (· = .documentEnd) then return reading.events.reverse
    else none

end RestrictedAccess.Document.Yaml
