import Xref.Files.Tree
import Xref.Listing.Bytes

namespace Xref

/-- What standard input gives to its reader: text, and the error of its decoder if that gives up after
it. How bytes become text is a matter of the stream, whose decoder may also replace what is no character.
A stream that passes on half of a surrogate pair gives no text and is left out. -/
structure Stdin where
  text : Text
  failure : Option Utf8.Error
  deriving DecidableEq, Repr

namespace Listing

/-- The lines of a saved listing, and the failure after them. The path that is spelled as a dash is
standard input. -/
def source (tree : FileTree) (directory : Place) (stdin : Stdin) (path : Path) :
    List Text × Option Failure :=
  if path.text = ['-'] then (stdin.text.lines, stdin.failure.map .undecodable)
  else
    match tree.read directory path with
    | .error failure => ([], some failure)
    | .ok content => (ofBytes content, none)

def read (tree : FileTree) (directory : Place) (stdin : Stdin) (path : Path) :
    Except Failure (List Text) :=
  match source tree directory stdin path with
  | (_, some failure) => .error failure
  | (lines, none) => .ok lines

/-- The lines that up to `limit` pulls give, and the failure that they meet. The file is opened by
the first pull. -/
def pullFile (tree : FileTree) (directory : Place) (stdin : Stdin) (path : Path)
    (limit : Option Nat) : List Text × Option Failure :=
  let (lines, failure) := source tree directory stdin path
  match limit.filter (· ≤ lines.length) with
  | some limit => (lines.take limit, none)
  | none => (lines, failure)

end Listing

end Xref
