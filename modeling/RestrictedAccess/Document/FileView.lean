/-
What can be read of files. Operations that read files take a view of them as a value, so what
they do is decided by the view alone, wherever it comes from.
-/

import RestrictedAccess.Fault

namespace RestrictedAccess.Document

structure FileView where
  holds : String → Bool
  readText : String → Except FileProblem String

def textOf (contents : ByteArray) : Except FileProblem String :=
  match String.fromUTF8? contents with
  | some text => .ok text
  | none => .error .notText

namespace FileView

/-- The view of paths that have been looked up before. All other paths are missing. -/
def ofLookups (lookups : List (String × Except FileProblem ByteArray)) : FileView where
  holds path :=
    match lookups.lookup path with
    | none => false
    | some (.error .missing) => false
    | some _ => true
  readText path :=
    match lookups.lookup path with
    | none => .error .missing
    | some (.error problem) => .error problem
    | some (.ok contents) => textOf contents

end FileView

end RestrictedAccess.Document
