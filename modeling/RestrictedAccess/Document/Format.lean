/-
The document formats settings and scenarios are kept in, chosen by the extension of a file's name.
-/

namespace RestrictedAccess.Document

inductive Format
  | json
  | toml
  | yaml
  deriving DecidableEq

namespace Format

def name : Format → String
  | json => "JSON"
  | toml => "TOML"
  | yaml => "YAML"

/-- The last component of a path. Empty components and single dots are skipped. A path that ends
in the parent directory names no file. -/
def fileName? (path : String) : Option String :=
  match (path.splitOn "/").reverse.filter (fun part => part != "" && part != ".") with
  | [] => none
  | last :: _ => if last == ".." then none else some last

/-- The text after the last dot of a file's name. A name whose only dot is its first character has
no extension. -/
def extension? (path : String) : Option String := do
  let file ← fileName? path
  match (file.splitOn ".").reverse with
  | last :: rest@(_ :: _) => if rest == [""] then none else some last
  | _ => none

def ofPath? (path : String) : Option Format :=
  match extension? path with
  | some "json" => some json
  | some "toml" => some toml
  | some "yaml" => some yaml
  | some "yml" => some yaml
  | _ => none

end Format

end RestrictedAccess.Document
