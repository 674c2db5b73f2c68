import Xref.Text.Basic

namespace Xref.Text

def unifyLineEnds : Text → Text
  | [] => []
  | '\r' :: '\n' :: rest => '\n' :: unifyLineEnds rest
  | c :: rest => (if c = '\r' then '\n' else c) :: unifyLineEnds rest

/-- The pieces of a text that end at a break or at the end of the text. -/
def linesAt (isBreak : Char → Bool) : Text → List Text
  | [] => []
  | c :: rest =>
    if isBreak c then [] :: linesAt isBreak rest
    else match linesAt isBreak rest with
      | [] => [[c]]
      | line :: lines => (c :: line) :: lines

def lines (text : Text) : List Text := linesAt (· == '\n') text

/-- Every character that can end a line of displayed text: line feed, vertical tab, form feed,
carriage return, the file, group and record separators, next line, line and paragraph separator. -/
def isLineBoundary (c : Char) : Bool :=
  let n := c.toNat
  (0x0A ≤ n && n ≤ 0x0D) || (0x1C ≤ n && n ≤ 0x1E) || n == 0x85 || n == 0x2028 || n == 0x2029

/-- The lines of a text, cut at every line boundary of Unicode. Carriage return with line feed is
one boundary, hence the unified line ends. -/
def displayLines (text : Text) : List Text := linesAt isLineBoundary (unifyLineEnds text)

end Xref.Text
