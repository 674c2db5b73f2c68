import Xref.Text.Basic

namespace Xref

/-- The slashes at the beginning, and the parts between the others. -/
structure Path where
  root : Text
  parts : List Text
  deriving DecidableEq, Repr

namespace Path

/-- Exactly two leading slashes are kept; more count as one. -/
def ofText (text : Text) : Path :=
  let root : Text := match (text.takeWhile (· == '/')).length with
    | 0 => ""
    | 2 => "//"
    | _ => "/"
  ⟨root, (Text.splitOn '/' text).filter fun part => !part.isEmpty && part != ['.']⟩

/-- The spelling of a path; the path that stays in place is a dot. -/
def text (path : Path) : Text :=
  if path.root.isEmpty && path.parts.isEmpty then "." else path.root ++ Text.join "/" path.parts

def isAbsolute (path : Path) : Bool := !path.root.isEmpty

end Path

/-- A place in the file system: the names that lead to it from the top. -/
abbrev Place := List Text

namespace Place

def path (place : Place) : Path := ⟨"/", place⟩

def go (place : Place) (part : Text) : Place :=
  if part = ['.', '.'] then place.dropLast else place ++ [part]

/-- Follows a path without looking at what exists. -/
def follow (place : Place) (path : Path) : Place :=
  path.parts.foldl go (if path.isAbsolute then [] else place)

def upwards (place : Place) : List Place :=
  (List.range (place.length + 1)).reverse.map fun n => place.take n

end Place

end Xref
