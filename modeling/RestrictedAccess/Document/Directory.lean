/-
Files by name. A directory is a value that holds files and no directories of its own; writing to a
file gives the next directory.
-/

import RestrictedAccess.Document.FileView

namespace RestrictedAccess.Document

structure Directory where
  files : List (String × ByteArray)

namespace Directory

def empty : Directory :=
  ⟨[]⟩

def maxNameSize : Nat := 255

def maxPathSize : Nat := 4095

def find? (directory : Directory) (name : String) : Option ByteArray :=
  (directory.files.find? (fun file => file.1 == name)).map Prod.snd

/-! ### Paths -/

structure Ending where
  name : Option String
  /-- Whether the path stays in this directory. Nothing is known of what is outside. -/
  isInside : Bool
  hasSlash : Bool

def findAt? (directory : Directory) (isInside : Bool) (name : String) : Option ByteArray :=
  if isInside then directory.find? name else none

/-- Go through the parts of a path. A file is no directory, so the path can only go on after a part
that stands for a directory. -/
def walk (directory : Directory) (hasSlash isInside : Bool) :
    List String → Except FileProblem Ending
  | [] => .ok ⟨none, isInside, hasSlash⟩
  | "." :: rest => walk directory hasSlash isInside rest
  | ".." :: rest => walk directory hasSlash false rest
  | [name] => .ok ⟨some name, isInside, hasSlash⟩
  | name :: _ =>
      if maxNameSize < name.utf8ByteSize then .error .nameTooLong
      else .error (if (directory.findAt? isInside name).isSome then .notDirectory else .missing)

def follow (directory : Directory) (path : String) : Except FileProblem Ending :=
  let parts := path.splitOn "/"
  if path.toList.any (fun c => c.toNat = 0) then .error .nulInName
  else if maxPathSize < path.utf8ByteSize then .error .nameTooLong
  else if path = "" then .error .missing
  else
    directory.walk (parts.getLast? = some "") (parts.head? != some "")
      (parts.filter (fun part => part != ""))

/-! ### Reading and writing -/

def read (directory : Directory) (path : String) : Except FileProblem ByteArray := do
  let ending ← directory.follow path
  match ending.name with
  | none => throw .isDirectory
  | some name =>
      if maxNameSize < name.utf8ByteSize then throw .nameTooLong
      else
        match directory.findAt? ending.isInside name with
        | none => throw .missing
        | some contents => if ending.hasSlash then throw .notDirectory else return contents

def holds (directory : Directory) (path : String) : Bool :=
  match directory.read path with
  | .ok _ => true
  | .error problem => problem = .isDirectory

def readText (directory : Directory) (path : String) : Except FileProblem String := do
  textOf (← directory.read path)

def view (directory : Directory) : FileView :=
  ⟨directory.holds, directory.readText⟩

def nameToWrite (directory : Directory) (path : String) : Except FileProblem String := do
  let ending ← directory.follow path
  match ending.name with
  | none => throw .isDirectory
  | some name =>
      if ending.hasSlash then throw .isDirectory
      else if maxNameSize < name.utf8ByteSize then throw .nameTooLong
      else if ending.isInside then return name
      else throw .missing

def write (directory : Directory) (path : String) (bytes : ByteArray) :
    Except FileProblem Directory := do
  let name ← directory.nameToWrite path
  return ⟨(name, bytes) :: directory.files.filter (fun file => file.1 != name)⟩

end Directory

end RestrictedAccess.Document
