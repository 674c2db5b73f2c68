import Xref.Text.Basic

/-!
# Messages on a console with markup

The console reads `[name]` as a tag and a backslash before a bracket as an escape. Messages are
escaped before they are printed, which keeps every tag in them readable and has two other effects
that can be seen: a backslash before a bracket that opens no tag is lost, and a single backslash at
the end of a message shows as two.
-/

namespace Xref.Text

def opensTag : Text → Bool
  | [] => false
  | c :: rest =>
    (('a' ≤ c && c ≤ 'z') || c == '#' || c == '/' || c == '@') &&
      (rest.dropWhile fun c => c ≠ '[' && c ≠ ']').head? == some ']'

def withoutBracketEscapes : Text → Text
  | [] => []
  | '\\' :: '[' :: rest =>
    if opensTag rest then '\\' :: '[' :: withoutBracketEscapes rest
    else '[' :: withoutBracketEscapes rest
  | c :: rest => c :: withoutBracketEscapes rest

def endsInSingleBackslash (text : Text) : Bool :=
  match text.reverse with
  | '\\' :: '\\' :: _ => false
  | '\\' :: _ => true
  | _ => false

def onConsole (message : Text) : Text :=
  withoutBracketEscapes message ++ if endsInSingleBackslash message then ['\\'] else []

end Xref.Text
