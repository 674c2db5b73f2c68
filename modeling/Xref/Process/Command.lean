import Xref.Text.Basic

namespace Xref

structure Command where
  program : Text
  arguments : List Text
  deriving DecidableEq, Repr

namespace Command

def words (command : Command) : List Text := command.program :: command.arguments

def ofWords? : List Text → Option Command
  | [] => none
  | program :: arguments => some ⟨program, arguments⟩

end Command

/-- The text has the character that ends a text in the operating system, so it is no file name and
no word of a command. -/
def hasNul (text : Text) : Bool := text.contains '\x00'

def shownWords (words : List Text) : Text := Text.join " " words

end Xref
