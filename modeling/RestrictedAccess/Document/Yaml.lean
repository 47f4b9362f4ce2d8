/-
YAML documents, as far as settings need them: a mapping of sections, which are mappings of scalars.
What is below that, and every sequence, is no value that a section takes. An alias stands for the
value with its anchor, wherever in the document that is.
-/

import RestrictedAccess.Document.Value
import RestrictedAccess.Document.Yaml.Event
import RestrictedAccess.Document.Yaml.Layout

namespace RestrictedAccess.Document.Yaml

/-! ### Places in the events -/

def target? (number : Nat) : List Event → Option (List Event)
  | [] => none
  | event :: rest =>
      (target? number rest).or (if event.anchor? = some number then some (event :: rest) else none)

def follow (document : List Event) : List Event → List Event
  | .alias number :: _ => (target? number document).getD []
  | events => events

/-- The places at which the members of a collection start, given the events behind its own start
and the number of collections inside it that are open there. -/
def members : Nat → List Event → List (List Event)
  | _, [] => []
  | depth, event :: rest =>
      let here := if depth = 0 then [event :: rest] else []
      match event with
      | .sequenceStart _ => here ++ members (depth + 1) rest
      | .mappingStart _ => here ++ members (depth + 1) rest
      | .sequenceEnd => if depth = 0 then [] else members (depth - 1) rest
      | .mappingEnd => if depth = 0 then [] else members (depth - 1) rest
      | _ => here ++ members depth rest

def pairUp {α : Type} : List α → List (α × α)
  | key :: value :: rest => (key, value) :: pairUp rest
  | _ => []

/-! ### Values -/

def standardTag (kind : String) : List Char :=
  "tag:yaml.org,2002:".toList ++ kind.toList

/-- A scalar. A literal one with the tag of a truth value or a whole number is read like a plain
one. A tag of the document's own is kept. -/
def scalarValue (tag : Option (List Char)) (text : String) (style : ScalarStyle) : Value :=
  let isTyped := style = .literal
    && ((tag = some (standardTag "bool") && (Value.boolOfWord? text).isSome)
      || (tag = some (standardTag "int") && (Value.natOfWord? text).isSome))
  let value : Value := if style = .plain || isTyped then .plain text else .text text
  match tag with
  | some ('!' :: name) => .tagged (String.ofList name) value
  | _ => value

def keyAt? (document events : List Event) : Option String :=
  match follow document events with
  | .scalar _ _ text _ :: _ => some (String.ofList text)
  | _ => none

def valueAt (document : List Event) : Nat → List Event → Value
  | depth, events =>
      match follow document events with
      | .scalar _ tag text style :: _ => scalarValue tag (String.ofList text) style
      | .mappingStart _ :: rest =>
          match depth with
          | 0 => .other
          | depth + 1 =>
              let pairs := (pairUp (members 0 rest)).mapM (fun (key, value) =>
                (keyAt? document key).map (·, valueAt document depth value))
              match pairs with
              | some pairs => .table pairs true
              | none => .other
      | _ => .other

def maxDepth : Nat := 2

/-- Read a whole document. An empty document is an empty scalar. -/
def read? (document : String) : Option Value :=
  (events? document.toList).map (fun events =>
    match events with
    | [] => .plain ""
    | events => valueAt events maxDepth events)

end RestrictedAccess.Document.Yaml
