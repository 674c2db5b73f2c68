import Xref.Failure
import Xref.Files.Path

namespace Xref

inductive Entry where
  | file (content : Bytes)
  | directory
  deriving DecidableEq, Repr

/-- Files and directories with their places. The directories above them need not be listed. -/
structure FileTree where
  entries : List (Place × Entry)
  deriving DecidableEq, Repr

namespace FileTree

/-- What is at a place. The top is always a directory. -/
def entry? (tree : FileTree) (place : Place) : Option Entry :=
  match tree.entries.lookup place with
  | some entry => some entry
  | none =>
    if place.isEmpty || tree.entries.any fun (other, _) => place.isPrefixOf other then
      some .directory
    else none

def nameLimit : Nat := 255

def spellingLimit : Nat := 4095

/-- Goes through the parts of a path. The length of a name counts where it is looked up. -/
def walk (tree : FileTree) (place : Place) : List Text → Except SystemCause Place
  | [] => .ok place
  | part :: rest =>
    match tree.entry? place with
    | none => .error .noEntry
    | some (.file _) => .error .notDirectory
    | some .directory =>
      if part.isEmpty || part = ['.'] then tree.walk place rest
      else if nameLimit < (Utf8.encode part).length then .error .nameTooLong
      else
        let next := place.go part
        if (tree.entry? next).isSome then tree.walk next rest else .error .noEntry

def locate (tree : FileTree) (directory : Place) (spelled : Text) : Except SystemCause Place :=
  if spelled.isEmpty then .error .noEntry
  else if spellingLimit < (Utf8.encode spelled).length then .error .nameTooLong
  else tree.walk (if spelled.head? = some '/' then [] else directory) (Text.splitOn '/' spelled)

def lookUp (tree : FileTree) (directory : Place) (spelled : Text) : Except Failure Entry :=
  if hasNul spelled then .error .embeddedNul
  else
    match tree.locate directory spelled with
    | .error cause => .error (.system ⟨cause, spelled⟩)
    | .ok place =>
      match tree.entry? place with
      | some entry => .ok entry
      | none => .error (.system ⟨.noEntry, spelled⟩)

def read (tree : FileTree) (directory : Place) (path : Path) : Except Failure Bytes :=
  match tree.lookUp directory path.text with
  | .error failure => .error failure
  | .ok .directory => .error (.system ⟨.isDirectory, path.text⟩)
  | .ok (.file content) => .ok content

end FileTree

end Xref
